import PodTelemetry.Dictionary
import PodTelemetry.Json.Double

namespace PodTelemetry

/-! ## JSON values -/

/-- A number is an integer of 64 bits, signed or not, or else a binary64
number. -/
inductive Json.Number where
  | integer (value : Int)
  | double (value : Json.Double)
  deriving DecidableEq, Repr

/-- A JSON value. The members of an object stand in ascending order of their
keys when the value is `Json.Ordered`; all readers build such values. -/
inductive Json where
  | null
  | bool (value : Bool)
  | number (value : Json.Number)
  | string (text : String)
  | array (items : List Json)
  | object (members : List (String × Json))
  deriving Repr, Inhabited

namespace Json

/-! ### Equality is decidable -/

mutual

def decideEq (left right : Json) : Decidable (left = right) :=
  match left, right with
  | .null, .null => isTrue rfl
  | .bool a, .bool b =>
      if same : a = b then isTrue (same ▸ rfl)
      else isFalse fun equal => same (by cases equal; rfl)
  | .number a, .number b =>
      if same : a = b then isTrue (same ▸ rfl)
      else isFalse fun equal => same (by cases equal; rfl)
  | .string a, .string b =>
      if same : a = b then isTrue (same ▸ rfl)
      else isFalse fun equal => same (by cases equal; rfl)
  | .array a, .array b =>
      match decideEqItems a b with
      | isTrue same => isTrue (same ▸ rfl)
      | isFalse differ => isFalse fun equal => differ (by cases equal; rfl)
  | .object a, .object b =>
      match decideEqMembers a b with
      | isTrue same => isTrue (same ▸ rfl)
      | isFalse differ => isFalse fun equal => differ (by cases equal; rfl)
  | .null, .bool _ | .null, .number _ | .null, .string _ | .null, .array _
  | .null, .object _ | .bool _, .null | .bool _, .number _
  | .bool _, .string _ | .bool _, .array _ | .bool _, .object _
  | .number _, .null | .number _, .bool _ | .number _, .string _
  | .number _, .array _ | .number _, .object _ | .string _, .null
  | .string _, .bool _ | .string _, .number _ | .string _, .array _
  | .string _, .object _ | .array _, .null | .array _, .bool _
  | .array _, .number _ | .array _, .string _ | .array _, .object _
  | .object _, .null | .object _, .bool _ | .object _, .number _
  | .object _, .string _ | .object _, .array _ => isFalse nofun
termination_by structural left

def decideEqItems (left right : List Json) : Decidable (left = right) :=
  match left, right with
  | [], [] => isTrue rfl
  | a :: as, b :: bs =>
      match decideEq a b, decideEqItems as bs with
      | isTrue head, isTrue tail => isTrue (head ▸ tail ▸ rfl)
      | isFalse head, _ => isFalse fun equal => head (List.cons.inj equal).1
      | _, isFalse tail => isFalse fun equal => tail (List.cons.inj equal).2
  | [], _ :: _ | _ :: _, [] => isFalse nofun
termination_by structural left

def decideEqMembers (left right : List (String × Json)) :
    Decidable (left = right) :=
  match left, right with
  | [], [] => isTrue rfl
  | (k, a) :: as, (l, b) :: bs =>
      match decEq k l, decideEq a b, decideEqMembers as bs with
      | isTrue key, isTrue head, isTrue tail =>
          isTrue (key ▸ head ▸ tail ▸ rfl)
      | isFalse key, _, _ =>
          isFalse fun equal => key (congrArg Prod.fst (List.cons.inj equal).1)
      | _, isFalse head, _ =>
          isFalse fun equal => head (congrArg Prod.snd (List.cons.inj equal).1)
      | _, _, isFalse tail => isFalse fun equal => tail (List.cons.inj equal).2
  | [], _ :: _ | _ :: _, [] => isFalse nofun
termination_by structural left

end

instance : DecidableEq Json := decideEq

/-! ### Members -/

/-- The member with the key; a value that is no object has none. -/
def get? (value : Json) (key : String) : Option Json :=
  match value with
  | .object members => Entries.read key members
  | _ => none

/-- The object with these members, the last of several with one key. -/
def ofMembers (members : List (String × Json)) : Json :=
  .object (Entries.sorted members)

/-- A whole number that fits 64 bits. -/
def ofNat (n : Nat) : Json := .number (.integer n)

def ofStrings (texts : List String) : Json := .array (texts.map .string)

/-- Zero without its sign. -/
def Number.withoutSignOfZero : Number → Number
  | .double value =>
      .double
        (if value.digits = 0 then { value with negative := false } else value)
  | .integer value => .integer value

mutual

/-- The value with every zero in it without its sign, so that values that
differ in nothing else become equal. -/
def withoutSignsOfZeros : Json → Json
  | .number value => .number value.withoutSignOfZero
  | .array items => .array (withoutSignsOfZerosItems items)
  | .object members => .object (withoutSignsOfZerosMembers members)
  | .null => .null
  | .bool value => .bool value
  | .string text => .string text
termination_by structural value => value

def withoutSignsOfZerosItems : List Json → List Json
  | [] => []
  | item :: rest => withoutSignsOfZeros item :: withoutSignsOfZerosItems rest
termination_by structural items => items

def withoutSignsOfZerosMembers : List (String × Json) → List (String × Json)
  | [] => []
  | (key, value) :: rest =>
      (key, withoutSignsOfZeros value) :: withoutSignsOfZerosMembers rest
termination_by structural members => members

end

/-- Equal, the signs of zeros apart. -/
def agrees (left right : Json) : Bool :=
  left.withoutSignsOfZeros = right.withoutSignsOfZeros

mutual

/-- Keys are strictly ascending in every object. -/
def Ordered : Json → Prop
  | .array items => OrderedItems items
  | .object members => Entries.Ascending members ∧ OrderedMembers members
  | .null | .bool _ | .number _ | .string _ => True
termination_by structural value => value

def OrderedItems : List Json → Prop
  | [] => True
  | item :: rest => Ordered item ∧ OrderedItems rest
termination_by structural items => items

def OrderedMembers : List (String × Json) → Prop
  | [] => True
  | (_, value) :: rest => Ordered value ∧ OrderedMembers rest
termination_by structural members => members

end

end Json

end PodTelemetry

import PodTelemetry.Json.Printer
import PodTelemetry.Text.Quoted

namespace PodTelemetry.Json

/-! ## Reading typed values from JSON -/

/-- Why a value is not of a type. -/
inductive DecodeError where
  | wrongType (found : Json) (expected : String)
  | wrongValue (found : Json) (expected : String)
  | missingField (field : String)
  | wrongLength (length : Nat) (expected : String)
  | other (text : String)
  deriving DecidableEq, Repr

/-- How an error names the value it met; of containers it names the kind
only. -/
def shownKind : Json → String
  | .null => "null"
  | .bool value => s!"boolean `{value}`"
  | .number (.integer value) => s!"integer `{value}`"
  | .number (.double value) => s!"floating point `{value.text}`"
  | .string text => "string " ++ Text.quoted text
  | .array _ => "sequence"
  | .object _ => "map"

def DecodeError.message : DecodeError → String
  | .wrongType found expected =>
      s!"invalid type: {found.shownKind}, expected {expected}"
  | .wrongValue found expected =>
      s!"invalid value: {found.shownKind}, expected {expected}"
  | .missingField field => s!"missing field `{field}`"
  | .wrongLength length expected =>
      s!"invalid length {length}, expected {expected}"
  | .other text => text

/-- Reads a type's values. -/
abbrev Decoder (α : Type) := Json → Except DecodeError α

namespace Decoder

def string : Decoder String
  | .string text => .ok text
  | found => .error (.wrongType found "a string")

def bool : Decoder Bool
  | .bool value => .ok value
  | found => .error (.wrongType found "a boolean")

/-- An integer between the bounds of the type called `expected`. -/
def integer (expected : String) (lowest highest : Int) : Decoder Int
  | .number (.integer value) =>
      if lowest ≤ value ∧ value ≤ highest then .ok value
      else .error (.wrongValue (.number (.integer value)) expected)
  | found => .error (.wrongType found expected)

def int32 : Decoder Int := integer "i32" (-2147483648) 2147483647

def int64 : Decoder Int :=
  integer "i64" (-9223372036854775808) 9223372036854775807

def list {α : Type} (item : Decoder α) : Decoder (List α)
  | .array items => items.mapM item
  | found => .error (.wrongType found "a sequence")

def dictionary {α : Type} (value : Decoder α) : Decoder (Dictionary α)
  | .object members => do
      let entries ← members.mapM fun member => do
        let decoded ← value member.2
        return (member.1, decoded)
      return Dictionary.ofList entries
  | found => .error (.wrongType found "a map")

/-- Null, or a value of the type. -/
def nullable {α : Type} (value : Decoder α) : Decoder (Option α)
  | .null => .ok none
  | found => (value found).map some

/-- The members of the object that the type called `expected` is read from. -/
def members (expected : String) : Decoder (List (String × Json))
  | .object members => .ok members
  | found => .error (.wrongType found expected)

/-- The member with the key, if it is there and not null. -/
def optional {α : Type} (members : List (String × Json)) (key : String)
    (value : Decoder α) : Except DecodeError (Option α) :=
  match Entries.read key members with
  | none => .ok none
  | some found => nullable value found

/-- The member with the key, or the type's default. -/
def defaulted {α : Type} [Inhabited α] (members : List (String × Json))
    (key : String) (value : Decoder α) : Except DecodeError α :=
  (optional members key value).map fun found => found.getD default

/-- The member with the key, if there is one, has to be this text. -/
def constant (members : List (String × Json)) (key text expected : String) :
    Except DecodeError Unit :=
  match Entries.read key members with
  | none => .ok ()
  | some (.string found) =>
      if found = text then .ok ()
      else .error (.wrongValue (.string found) expected)
  | some found => .error (.wrongType found "a string")

/-- The members with one of the keys, nulls apart. A record keeps in this way
what nothing looks into, once its fields are known to be of their shapes;
inside of such a member everything stays as it came, even what its type does
not know. -/
def carried (members : List (String × Json)) (keys : List String) :
    Dictionary Json :=
  Dictionary.ofList
    (members.filter fun member => member.2 ≠ .null ∧ member.1 ∈ keys)

end Decoder

/-! ### Writing members -/

/-- The member for an optional value. -/
def optionalMember {α : Type} (key : String) (encode : α → Json) :
    Option α → List (String × Json)
  | none => []
  | some value => [(key, encode value)]

def ofDictionary {α : Type} (encode : α → Json) (dictionary : Dictionary α) :
    Json :=
  .object (dictionary.entries.map fun entry => (entry.1, encode entry.2))

def ofInt (value : Int) : Json := .number (.integer value)

def ofList {α : Type} (encode : α → Json) (items : List α) : Json :=
  .array (items.map encode)

end PodTelemetry.Json

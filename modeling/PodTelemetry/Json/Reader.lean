import PodTelemetry.Json.Document

namespace PodTelemetry.Json

/-! ## Reading documents in order of appearance

A reader takes a document apart from front to back and stops at the first thing
that it cannot use: a fault of the text, or a value of another shape than it
needs. -/

/-- Why a document was refused. -/
inductive Refusal where
  | malformed
  | mismatched
  deriving DecidableEq, Repr

/-- What a value of the type is read from. The first argument is the number of
container levels, the document's own included, that may still be entered, plus
one. -/
abbrev Reader (α : Type) := (room : Nat) → Document → Except Refusal α

/-- Containers may be nested 127 deep. -/
def initialRoom : Nat := 128

namespace Reader

/-- The result, if the container was read to its end. -/
def closedOr {α : Type} (closed : Bool) (result : α) : Except Refusal α :=
  if closed then .ok result else .error .malformed

/-! ### Passing over values -/

mutual

/-- Passes over a value that nobody needs: only its tokens and their order are
checked. -/
def skip : Document → Except Refusal Unit
  | .broken | .keyless _ => .error .malformed
  | .array items closed => do skipItems items; closedOr closed ()
  | .object members closed => do skipMembers members; closedOr closed ()
  | .null | .bool _ | .number _ | .string _ => .ok ()
termination_by structural document => document

def skipItems : List Document → Except Refusal Unit
  | [] => .ok ()
  | item :: rest => do skip item; skipItems rest
termination_by structural items => items

def skipMembers : List (Option String × Document) → Except Refusal Unit
  | [] => .ok ()
  | (_, value) :: rest => do skip value; skipMembers rest
termination_by structural members => members

end

/-! ### Whole values -/

mutual

/-- Any value; of several members with one key the last counts. Nesting and the
size of numbers are limited. -/
def any (room : Nat) : Document → Except Refusal Json
  | .broken | .keyless _ => .error .malformed
  | .null => .ok .null
  | .bool value => .ok (.bool value)
  | .number text =>
      match text.value? with
      | some value => .ok (.number value)
      | none => .error .malformed
  | .string (some text) => .ok (.string text)
  | .string none => .error .malformed
  | .array items closed => do
      if room ≤ 1 then throw .malformed
      let values ← anyItems (room - 1) items
      closedOr closed (.array values)
  | .object members closed => do
      if room ≤ 1 then throw .malformed
      let values ← anyMembers (room - 1) members
      closedOr closed (.ofMembers values)
termination_by structural document => document

def anyItems (room : Nat) : List Document → Except Refusal (List Json)
  | [] => .ok []
  | item :: rest => do
      let value ← any room item
      let values ← anyItems room rest
      return value :: values
termination_by structural items => items

def anyMembers (room : Nat) : List (Option String × Document) →
    Except Refusal (List (String × Json))
  | [] => .ok []
  | (none, _) :: _ => .error .malformed
  | (some key, member) :: rest => do
      let value ← any room member
      let values ← anyMembers room rest
      return (key, value) :: values
termination_by structural members => members

end

/-! ### Values of a given shape -/

/-- Refuses a value of another shape. A number that is too large and a string
with half a surrogate pair are faults of the text even there. -/
def mismatch {α : Type} : Document → Except Refusal α
  | .broken => .error .malformed
  | .number text =>
      .error (if text.value?.isNone then .malformed else .mismatched)
  | .string none => .error .malformed
  | _ => .error .mismatched

def string : Reader String := fun _ document =>
  match document with
  | .string (some text) => .ok text
  | other => mismatch other

def bool : Reader Bool := fun _ document =>
  match document with
  | .bool value => .ok value
  | other => mismatch other

/-- An integer between the bounds. -/
def integer (lowest highest : Int) : Reader Int := fun _ document =>
  match document with
  | .number text =>
      match text.value? with
      | some (.integer value) =>
          if lowest ≤ value ∧ value ≤ highest then .ok value
          else .error .mismatched
      | some (.double _) => .error .mismatched
      | none => .error .malformed
  | other => mismatch other

/-- Null, or what the reader takes. -/
def nullable {α : Type} (reader : Reader α) :
    Reader (Option α) := fun room document =>
  match document with
  | .null => .ok none
  | other => (reader room other).map some

/-- An array with items of one kind. -/
def list {α : Type} (reader : Reader α) :
    Reader (List α) := fun room document =>
  match document with
  | .array items closed => do
      if room ≤ 1 then throw .malformed
      let values ← items.mapM (reader (room - 1))
      closedOr closed values
  | other => mismatch other

/-- The members of an object, taken in one after the other. -/
def members {σ : Type} (start : σ) (take : σ → String → Reader σ) : Reader σ :=
  fun room document =>
    match document with
    | .object members closed => do
        if room ≤ 1 then throw .malformed
        let taken ← members.foldlM
          (fun state (member : Option String × Document) =>
            match member.1 with
            | some key => take state key (room - 1) member.2
            | none => .error .malformed)
          start
        closedOr closed taken
    | .keyless _ => .error .malformed
    | other => mismatch other

/-- An object with values of one kind. -/
def map {α : Type} (reader : Reader α) :
    Reader (List (String × α)) := fun room document =>
  (members [] (fun done key room value => do
    let value ← reader room value
    return (key, value) :: done) room document).map List.reverse

/-- What the reader takes, as JSON again. -/
def encoded {α : Type} (encode : α → Json) (reader : Reader α) : Reader Json :=
  fun room document => (reader room document).map encode

def text : Reader Json := encoded .string string

def flag : Reader Json := encoded .bool bool

def whole (lowest highest : Int) : Reader Json :=
  encoded (fun value => .number (.integer value)) (integer lowest highest)

/-- Null, or what the reader takes, as JSON again. -/
def orNull (reader : Reader Json) : Reader Json :=
  encoded (fun found => found.getD .null) (nullable reader)

def listOf (reader : Reader Json) : Reader Json := encoded .array (list reader)

def texts : Reader Json := encoded Json.ofStrings (list string)

def textMap : Reader Json :=
  encoded (fun entries =>
      Json.ofMembers (entries.map fun entry => (entry.1, .string entry.2)))
    (map string)

/-- One of the names, written as a text, or as an object with it as the only
key and null as the value. -/
def variant (names : List String) : Reader Json := fun room document =>
  match document with
  | .string _ => do
      let chosen ← string room document
      if chosen ∈ names then return .string chosen else throw .mismatched
  | .object ((some key, value) :: rest) closed =>
      if room ≤ 1 then .error .malformed
      else if key ∈ names then
        match value, rest, closed with
        | .null, [], true => .ok (.string key)
        | .null, _, _ => .error .malformed
        | other, _, _ => mismatch other
      else .error .mismatched
  | .keyless start => if room ≤ 1 then .error .malformed else mismatch start
  | _ => .error .malformed

/-- An object whose members may each be left out, null or repeated, the last
one counting; others are passed over. -/
def loose (fields : List (String × Reader Json)) :
    Reader Json := fun room document =>
  (members [] (fun done key room value =>
    match fields.lookup key with
    | some reader => do
        let found ← nullable reader room value
        return done ++ [(key, found.getD .null)]
    | none => do
        skip value
        return done) room document).map Json.ofMembers

/-- A field of a strict record. -/
structure Field where
  key : String
  reader : Reader Json
  /-- Whether it has to be among the members of an object. -/
  isKeyed : Bool
  /-- Whether it has to be among the items of an array. -/
  isPlaced : Bool

/-- A field that has to be there. -/
def needed (key : String) (reader : Reader Json) : Field :=
  ⟨key, reader, true, true⟩

/-- A field that an object may leave out, but not an array. -/
def placed (key : String) (reader : Reader Json) : Field :=
  ⟨key, reader, false, true⟩

/-- A field that may be left out. -/
def spared (key : String) (reader : Reader Json) : Field :=
  ⟨key, reader, false, false⟩

/-- The items of an array as the fields of a record, in order. -/
def positional (room : Nat) (closed : Bool) : List Field → List Document →
    Except Refusal (List (String × Json))
  | [], [] => closedOr closed []
  | [], _ :: _ => .error .malformed
  | field :: fields, [] =>
      if !closed then .error .malformed
      else if field.isPlaced then .error .mismatched
      else positional room closed fields []
  | field :: fields, item :: rest => do
      let value ← field.reader room item
      let values ← positional room closed fields rest
      return (field.key, value) :: values

/-- An object whose members may not be repeated and of which some are required,
others being passed over; or an array with the fields in order. -/
def strict (fields : List Field) : Reader Json := fun room document => do
  match document with
  | .array items closed =>
      if room ≤ 1 then throw .malformed
      let values ← positional (room - 1) closed fields items
      return Json.ofMembers values
  | document =>
      let taken ← members [] (fun done key room value =>
        match fields.find? fun field => field.key = key with
        | some field =>
            if done.any fun entry => entry.1 = key then .error .mismatched
            else do
              let found ← field.reader room value
              return done ++ [(key, found)]
        | none => do
            skip value
            return done) room document
      let complete := fields.all fun field =>
        !field.isKeyed || taken.any fun entry => entry.1 = field.key
      if complete then return Json.ofMembers taken else .error .mismatched

end Reader

/-- The value that a text consists of, blanks around it apart. -/
def parse? (text : String) : Option Json :=
  let (document, more) := Document.ofText text
  if more then none else (Reader.any initialRoom document).toOption

end PodTelemetry.Json

import PodTelemetry.Json.Decode

namespace PodTelemetry.Json

/-! ## Records in keyed or positional form

A record may be written as an object, by the names of its fields, or as an
array, by their order of declaration. Fields at the end of an array may be left
out when they have a default. -/

/-- The fields of a record as they are written. -/
inductive Form where
  | keyed (members : List (String × Json))
  | positional (items : List Json)
  deriving DecidableEq, Repr

namespace Form

/-- The form of a value that a record with the name is read from. -/
def ofJson (name : String) : Decoder Form
  | .object members => .ok (.keyed members)
  | .array items => .ok (.positional items)
  | found => .error (.wrongType found ("struct " ++ name))

/-- What is written for the field with the key, declared at the index. -/
def written (form : Form) (index : Nat) (key : String) : Option Json :=
  match form with
  | keyed members => Entries.read key members
  | positional items => items[index]?

/-- The field's value, if it is written. -/
def field {α : Type} (form : Form) (index : Nat) (key : String)
    (value : Decoder α) : Except DecodeError (Option α) :=
  match form.written index key with
  | none => .ok none
  | some found => (value found).map some

/-- The first error among the fields, given in order of declaration: in that
order for the positional form, in the order of the keys for the keyed one. -/
def settle (form : Form) (fields : List (String × Except DecodeError Unit)) :
    Except DecodeError Unit :=
  let inOrder :=
    match form with
    | keyed _ => Entries.sorted fields
    | positional _ => fields
  inOrder.forM fun field => field.2

/-- The value of a field that has no default. -/
def required {α : Type} (form : Form) (expected : String) (key : String) :
    Option α → Except DecodeError α
  | some value => .ok value
  | none =>
      match form with
      | keyed _ => .error (.missingField key)
      | positional items => .error (.wrongLength items.length expected)

/-- An array has to have so many items, even if an object may leave the last
ones out. -/
def atLeast (form : Form) (count : Nat) (expected : String) :
    Except DecodeError Unit :=
  match form with
  | keyed _ => .ok ()
  | positional items =>
      if count ≤ items.length then .ok ()
      else .error (.wrongLength items.length expected)

/-- An array may not have more items than the record has fields. -/
def bounded (form : Form) (count : Nat) : Except DecodeError Unit :=
  match form with
  | keyed _ => .ok ()
  | positional items =>
      if items.length ≤ count then .ok ()
      else .error (.wrongLength items.length "fewer elements in array")

/-- Only whether there was an error. -/
def outcome {α : Type} (result : Except DecodeError α) :
    Except DecodeError Unit :=
  result.map fun _ => ()

end Form

end PodTelemetry.Json

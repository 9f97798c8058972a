import PodTelemetry.Json.Decode

namespace PodTelemetry.Json

/-! ## Shapes of values that nobody looks into

A value can have a type to be of although nothing reads it.  Its shape says
whether it is, and what is wrong with it if not; the shape of a record is the
table of its fields. -/

/-- Accepts the values of a type and keeps nothing of them. -/
abbrev Shape := Decoder Unit

/-- The members that are known of a record, in the order of their keys, each
with its shape. -/
abbrev Fields := List (String × Shape)

/-- Each member that is known has to be of its shape, unless it is not there or
null.  Members are looked at in the order of the fields. -/
def Fields.check : Fields → List (String × Json) → Except DecodeError Unit
  | [], _ => .ok ()
  | (key, shape) :: others, members => do
      let _ ← Decoder.optional members key shape
      check others members

def Fields.keys (fields : Fields) : List String := fields.map Prod.fst

namespace Shape

/-- What the decoder reads. -/
def ofDecoder {α : Type} (decode : Decoder α) : Shape :=
  fun json => (decode json).map fun _ => ()

def any : Shape := fun _ => .ok ()

def text : Shape := ofDecoder Decoder.string

def flag : Shape := ofDecoder Decoder.bool

def bit32 : Shape := ofDecoder Decoder.int32

def bit64 : Shape := ofDecoder Decoder.int64

def listOf (item : Shape) : Shape := ofDecoder (Decoder.list item)

def mapOf (value : Shape) : Shape := ofDecoder (Decoder.dictionary value)

def texts : Shape := listOf text

def textMap : Shape := mapOf text

/-- An object of the type called `expected`; members that are not known may
hold anything. -/
def record (expected : String) (fields : Fields) : Shape := fun json => do
  let members ← Decoder.members expected json
  fields.check members

end Shape

end PodTelemetry.Json

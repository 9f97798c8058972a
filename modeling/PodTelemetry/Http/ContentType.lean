import PodTelemetry.Text.Pieces

namespace PodTelemetry.Http

/-! ## Media types -/

/-- Characters that names in a media type are made of. -/
def isTokenChar (c : Char) : Bool :=
  c.isAlphanum ||
  c ∈ ['!', '#', '$', '%', '&', '\'', '*', '+', '-', '.', '^', '_', '\x60',
       '|', '~']

/-- Characters that may stand between quotes. -/
def isQuotedChar (c : Char) : Bool := 0x20 ≤ c.toNat && c.toNat < 0x7F

/-- What a parameter list is read as next. -/
inductive ParameterState where
  | start
  | name
  | valueStart
  | value
  | quoted (isEmpty : Bool)
  | afterQuoted
  deriving DecidableEq, Repr

/-- Parameters are names and values with equals signs, separated by semicolons;
values may be quoted, and blanks may stand before a name and after a quoted
value. -/
def parametersFrom : ParameterState → List Char → Bool
  | .start, [] => true
  | .name, [] => false
  | .valueStart, [] => true
  | .value, [] => true
  | .quoted _, [] => false
  | .afterQuoted, [] => true
  | .start, c :: rest =>
      if c = ' ' then parametersFrom .start rest
      else isTokenChar c && parametersFrom .name rest
  | .name, c :: rest =>
      if c = '=' then parametersFrom .valueStart rest
      else isTokenChar c && parametersFrom .name rest
  | .valueStart, c :: rest =>
      if c = '"' then parametersFrom (.quoted true) rest
      else isTokenChar c && parametersFrom .value rest
  | .value, c :: rest =>
      if c = ';' then parametersFrom .start rest
      else isTokenChar c && parametersFrom .value rest
  | .quoted isEmpty, c :: rest =>
      if c = '"' ∧ !isEmpty then parametersFrom .afterQuoted rest
      else isQuotedChar c && parametersFrom (.quoted false) rest
  | .afterQuoted, c :: rest =>
      if c = ';' then parametersFrom .start rest
      else c = ' ' && parametersFrom .afterQuoted rest

/-- A subtype cut at its last plus sign into what stands before it and the
suffix after it; a plus sign that comes first does not count. -/
def suffixed (subtype : List Char) : List Char × Option (List Char) :=
  match Text.cut? '+' subtype.reverse with
  | none | some (_, []) => (subtype, none)
  | some (suffix, stem) => (stem.reverse, some suffix.reverse)

/-- Whether a content type is JSON: `application/json`, or a subtype with
`json` before its last plus sign or after it, capitals or not, with any
parameters. -/
def isJsonType (contentType : String) : Bool :=
  match Text.cut? '/' (contentType.toList.map Char.toLower) with
  | none => false
  | some (mainType, rest) =>
      let (subtype, parameters) := (Text.cut? ';' rest).getD (rest, [])
      let (stem, suffix) := suffixed subtype
      mainType = "application".toList && subtype.all isTokenChar &&
        (stem = "json".toList || suffix = some "json".toList) &&
        parametersFrom .start parameters

end PodTelemetry.Http

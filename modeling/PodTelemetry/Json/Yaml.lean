import PodTelemetry.Json.Printer

namespace PodTelemetry.Json

/-! ## JSON values as YAML documents

Objects and arrays are written in block style, a member or an item on each
line. -/

namespace Yaml

/-- Words that stand for something else than themselves. -/
def reservedWords : List String :=
  ["null", "true", "false", "yes", "no", "on", "off", "y", "n", ".inf", ".nan"]

/-- Characters that mean the same at every place in a plain text. -/
def isPlainChar (c : Char) : Bool :=
  c.isAlphanum || c ∈ ['_', '-', '.', '/', '(', ')', ',', ' ', '\x60']

/-- Whether a text needs no quotes: it starts with a letter, or with a dot and
a letter, is made of plain characters, does not end with a blank and is not a
reserved word. -/
def isPlain (text : String) : Bool :=
  let start :=
    match text.toList with
    | '.' :: c :: _ => c.isAlpha
    | c :: _ => c.isAlpha
    | [] => false
  start && text.toList.all isPlainChar && text.toList.getLast? ≠ some ' ' &&
    text.map Char.toLower ∉ reservedWords

/-- A text that is not plain is quoted as in JSON. -/
def scalar (text : String) : String :=
  if isPlain text then text else Json.text (.string text)

/-- Each line two columns further to the right. -/
def indented (lines : List String) : List String := lines.map ("  " ++ ·)

/-- The lines as an item of an array. -/
def asItem : List String → List String
  | [] => []
  | first :: rest => ("- " ++ first) :: indented rest

/-- A member of an object whose value has these lines. What does not fit beside
the key stands below it, the items of an array in its column and the members of
an object further to the right. -/
def member (key : String) (value : Json) (lines : List String) : List String :=
  match value with
  | .array (_ :: _) => (key ++ ":") :: lines
  | .object (_ :: _) => (key ++ ":") :: indented lines
  | _ => [key ++ ": " ++ String.join lines]

mutual

/-- The lines of a value. -/
def lines : Json → List String
  | .null => ["null"]
  | .bool true => ["true"]
  | .bool false => ["false"]
  | .number value => [value.text]
  | .string text => [scalar text]
  | .array [] => ["[]"]
  | .array (first :: rest) => asItem (lines first) ++ itemLines rest
  | .object [] => ["\x7b\x7d"]
  | .object ((key, value) :: rest) =>
      member (scalar key) value (lines value) ++ memberLines rest
termination_by structural value => value

def itemLines : List Json → List String
  | [] => []
  | item :: rest => asItem (lines item) ++ itemLines rest
termination_by structural items => items

def memberLines : List (String × Json) → List String
  | [] => []
  | (key, value) :: rest =>
      member (scalar key) value (lines value) ++ memberLines rest
termination_by structural members => members

end

end Yaml

/-- The document of a value, a line break after each line. -/
def yaml (value : Json) : String :=
  String.join ((Yaml.lines value).map (· ++ "\n"))

end PodTelemetry.Json

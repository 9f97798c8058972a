import PodTelemetry.Json.Basic

namespace PodTelemetry.Json

/-! ## Compact JSON text -/

/-- Four hexadecimal digits. -/
def hexFour (n : Nat) : List Char :=
  let digits := Nat.toDigits 16 n
  List.replicate (4 - digits.length) '0' ++ digits

/-- A character inside a string. Control characters and those of the given kind
are written by their number, if there is no shorter escape. -/
def escapedChar (byNumber : Char → Bool) (c : Char) : List Char :=
  if c = '"' then ['\\', '"']
  else if c = '\\' then ['\\', '\\']
  else if c = '\x08' then ['\\', 'b']
  else if c = '\x0c' then ['\\', 'f']
  else if c = '\n' then ['\\', 'n']
  else if c = '\r' then ['\\', 'r']
  else if c = '\t' then ['\\', 't']
  else if c.toNat < 0x20 || byNumber c then '\\' :: 'u' :: hexFour c.toNat
  else [c]

def quotedText (byNumber : Char → Bool) (text : String) : String :=
  String.ofList ('"' :: text.toList.flatMap (escapedChar byNumber) ++ ['"'])

def Number.text : Number → String
  | .integer value => toString value
  | .double value => value.text

mutual

/-- The value on one line without blanks, with some characters written by
number. -/
def textWith (byNumber : Char → Bool) : Json → String
  | .null => "null"
  | .bool true => "true"
  | .bool false => "false"
  | .number value => value.text
  | .string text => quotedText byNumber text
  | .array [] => "[]"
  | .array (first :: rest) =>
      "[" ++ textWith byNumber first ++ itemsTextWith byNumber rest ++ "]"
  | .object members => "\x7b" ++ membersTextWith byNumber "" members ++ "\x7d"
termination_by structural value => value

/-- Each item with a comma before it. -/
def itemsTextWith (byNumber : Char → Bool) : List Json → String
  | [] => ""
  | item :: rest =>
      "," ++ textWith byNumber item ++ itemsTextWith byNumber rest
termination_by structural items => items

/-- The members, the given text before the first and commas between them. -/
def membersTextWith (byNumber : Char → Bool) (before : String) :
    List (String × Json) → String
  | [] => ""
  | (key, value) :: rest =>
      before ++ quotedText byNumber key ++ ":" ++ textWith byNumber value ++
        membersTextWith byNumber "," rest
termination_by structural members => members

end

/-- The value on one line without blanks. -/
def text (value : Json) : String := textWith (fun _ => false) value

end PodTelemetry.Json

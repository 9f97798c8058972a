namespace PodTelemetry.Text

/-! ## Patterns for texts

A pattern is a regular expression without counted repetitions. Here it is only
told whether a text is a pattern, not what it matches. -/

namespace Pattern

/-- What stands before the next character. -/
inductive Place where
  /-- Nothing that could be repeated. -/
  | start
  /-- The bracket that opens a group. -/
  | opened
  /-- Something that can be repeated. -/
  | item
  /-- A backslash, which takes the next character as it is. -/
  | escape
  deriving DecidableEq, Repr

/-- The groups and character classes that are still open, and where the reading
has come to. -/
structure Reading where
  groups : Nat := 0
  classes : Nat := 0
  place : Place := .start
  deriving DecidableEq, Repr

namespace Reading

/-- A character inside of a class. A closing bracket at the start of the class
stands for itself. -/
def stepInClass (reading : Reading) (c : Char) : Reading :=
  if c = '[' then
    { reading with classes := reading.classes + 1, place := .start }
  else if c = '^' then reading
  else if c = ']' ∧ reading.place ≠ .start then
    { reading with classes := reading.classes - 1, place := .item }
  else { reading with place := .item }

/-- A sign for repetition; a question mark at the start of a group says
something about the group. -/
def stepRepetition? (reading : Reading) (c : Char) : Option Reading :=
  match reading.place with
  | .item => some reading
  | .opened => if c = '?' then some { reading with place := .start } else none
  | _ => none

def step? (reading : Reading) (c : Char) : Option Reading :=
  if reading.place = .escape then some { reading with place := .item }
  else if c = '\\' then some { reading with place := .escape }
  else if 0 < reading.classes then some (reading.stepInClass c)
  else if c = '(' then
    some { reading with groups := reading.groups + 1, place := .opened }
  else if c = ')' then
    if reading.groups = 0 then none
    else some { reading with groups := reading.groups - 1, place := .item }
  else if c = '[' then some { reading with classes := 1, place := .start }
  else if c = '|' then some { reading with place := .start }
  else if c ∈ ['*', '+', '?'] then reading.stepRepetition? c
  else if c = '\x7b' then none
  else some { reading with place := .item }

def isComplete (reading : Reading) : Bool :=
  reading.groups = 0 && reading.classes = 0 && reading.place ≠ .escape

end Reading

end Pattern

def isPattern (text : List Char) : Bool :=
  (text.foldlM Pattern.Reading.step? {}).any Pattern.Reading.isComplete

end PodTelemetry.Text

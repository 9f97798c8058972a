import PodTelemetry.Json.Decode
import PodTelemetry.Json.Token
import PodTelemetry.Text.Blank

namespace PodTelemetry.Kubernetes

/-! ## Points in time

A point in time is written as date, `T`, time and offset. Blanks are allowed
between the parts, the fraction of a second may be left out, and `UTC` stands
for the offset `Z` as well. The date must exist, and the moment it names at
offset `Z` must lie in the years from -262143 to 262142. -/

/-- Why a text is no point in time. -/
inductive TimestampFault where
  | outOfRange | invalid | tooShort | tooLong | impossible
  deriving DecidableEq, Repr

def TimestampFault.message : TimestampFault → String
  | .outOfRange => "input is out of range"
  | .invalid => "input contains invalid characters"
  | .tooShort => "premature end of input"
  | .tooLong => "trailing input"
  | .impossible => "no possible date and time matching input"

namespace Timestamp

/-- Takes a part off the front of a text. -/
abbrev Scanner := StateT (List Char) (Except TimestampFault)

def blanks : Scanner Unit := modify (·.dropWhile Text.isBlank)

def literal (c : Char) : Scanner Unit := do
  match ← get with
  | [] => throw .tooShort
  | d :: rest => if d = c then set rest else throw .invalid

/-- At least one digit and at most so many. -/
def digits (most : Nat) : Scanner Nat := do
  let text ← get
  match (text.take most).takeWhile Char.isDigit with
  | [] => throw (if text.isEmpty then .tooShort else .invalid)
  | found =>
      set (text.drop found.length)
      return Nat.ofDigitChars 10 found 0

def within (lowest highest value : Nat) : Scanner Nat :=
  if lowest ≤ value ∧ value ≤ highest then return value else throw .outOfRange

def number (lowest highest : Nat) : Scanner Nat := do
  blanks
  within lowest highest (← digits 2)

/-- Four digits, or a sign and any number of them, at most a signed number of
32 bits. -/
def year : Scanner Int := do
  blanks
  match ← get with
  | '-' :: rest =>
      set rest
      return -((← within 0 2147483648 (← digits rest.length)) : Int)
  | '+' :: rest =>
      set rest
      return (← within 0 2147483647 (← digits rest.length))
  | _ => return (← digits 4)

def daysIn (year : Int) (month : Nat) : Nat :=
  if month = 2 then
    if year % 4 = 0 ∧ (year % 100 ≠ 0 ∨ year % 400 = 0) then 29 else 28
  else if month = 4 ∨ month = 6 ∨ month = 9 ∨ month = 11 then 30
  else 31

/-- The mark between date and time. -/
def separator : Scanner Unit := do
  match ← get with
  | [] => throw .tooShort
  | c :: rest =>
      if c = 'T' ∨ c = 't' ∨ c = ' ' then set rest else throw .invalid

def fraction : Scanner Unit := do
  match ← get with
  | '.' :: rest =>
      match rest with
      | [] => throw .tooShort
      | c :: _ =>
          if c.isDigit then set (rest.dropWhile Char.isDigit)
          else throw .invalid
  | _ => return ()

/-- A number of two digits, the first of them at most `highest`. A character
that takes up several bytes is long enough to be no digit. -/
def twoDigits (highest : Char) : Scanner Nat := do
  match ← get with
  | a :: b :: rest =>
      if a.isDigit ∧ b.isDigit then
        if a ≤ highest then
          set rest
          return Nat.ofDigitChars 10 [a, b] 0
        else throw .outOfRange
      else throw .invalid
  | [a] => throw (if a.utf8Size < 2 then .tooShort else .invalid)
  | [] => throw .tooShort

/-- The seconds by which the written time is ahead of the time at offset
`Z`. -/
def offset : Scanner Int := do
  match ← get with
  | [] => throw .tooShort
  | c :: rest =>
      if (c :: rest.take 2).map Char.toLower = ['u', 't', 'c'] then
        set (rest.drop 2)
        return 0
      else if c = 'Z' ∨ c = 'z' then
        set rest
        return 0
      else if c = '+' ∨ c = '-' ∨ c = '\u2212' then
        set rest
        let hours ← twoDigits '9'
        modify (·.dropWhile fun d => d = ':' || Text.isBlank d)
        let minutes ← twoDigits '5'
        let seconds : Int := hours * 3600 + minutes * 60
        return if c = '+' then seconds else -seconds
      else throw .invalid

/-- The years that have days. -/
def firstYear : Int := -262143

def lastYear : Int := 262142

def secondsPerDay : Int := 86400

/-- The moment must exist. An offset is shorter than a day, so that it can only
carry the first and the last day out of the years. -/
def inCalendar (year : Int) (month day : Nat) (second offset : Int) :
    Except TimestampFault Unit :=
  if daysIn year month < day ∨ year < firstYear ∨ lastYear < year
      ∨ secondsPerDay ≤ offset.natAbs then
    .error .outOfRange
  else if (year, month, day) = (firstYear, 1, 1) ∧ second < offset
      ∨ (year, month, day) = (lastYear, 12, 31)
        ∧ secondsPerDay ≤ second - offset then
    .error .impossible
  else .ok ()

def pointInTime : Scanner Unit := do
  let year ← year
  blanks
  literal '-'
  let month ← number 1 12
  blanks
  literal '-'
  let day ← number 1 31
  separator
  let hour ← number 0 23
  blanks
  literal ':'
  let minute ← number 0 59
  blanks
  literal ':'
  let second ← number 0 60
  fraction
  blanks
  let offset ← offset
  blanks
  unless (← get).isEmpty do throw .tooLong
  -- a second inserted at the end of a minute belongs to the one before it
  inCalendar year month day (hour * 3600 + minute * 60 + min second 59 : Nat)
    offset

end Timestamp

/-- Reads the text of a point in time. -/
def timestamp : Json.Decoder String
  | .string text =>
      match Timestamp.pointInTime.run text.toList with
      | .ok _ => .ok text
      | .error fault => .error (.other fault.message)
  | found =>
      .error (.wrongType found "an RFC 3339 formatted date and time string")

end PodTelemetry.Kubernetes

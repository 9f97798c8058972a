import PodTelemetry.Json.Basic
import PodTelemetry.Text.Digits

namespace PodTelemetry.Json

/-! ## Tokens of JSON text -/

/-- A number as it is written. -/
structure NumberText where
  negative : Bool
  whole : List Char
  fraction : List Char
  /-- Whether the exponent is negative, and its digits. -/
  exponent : Option (Bool × List Char)
  /-- Written without a point and without an exponent. -/
  plain : Bool
  deriving DecidableEq, Repr

/-- A lexeme. The text of a string is missing when it names half of a surrogate
pair alone. -/
inductive Token where
  | leftBrace | rightBrace | leftBracket | rightBracket | comma | colon
  | null
  | bool (value : Bool)
  | number (text : NumberText)
  | string (text : Option String)
  | bad
  deriving DecidableEq, Repr

/-! ### Numbers -/

/-- Digits before the point: a zero, or digits that do not start with one. -/
def wholePart? (text : List Char) : Option (List Char × List Char) :=
  match text.takeWhile Char.isDigit with
  | [] => none
  | '0' :: _ :: _ => none
  | digits => some (digits, text.dropWhile Char.isDigit)

/-- A point with at least one digit after it, or nothing. -/
def fractionPart? : List Char → Option (List Char × List Char)
  | '.' :: rest =>
      match rest.takeWhile Char.isDigit with
      | [] => none
      | digits => some (digits, rest.dropWhile Char.isDigit)
  | text => some ([], text)

/-- An exponent mark with a sign or none and at least one digit, or nothing. -/
def exponentPart? (text : List Char) :
    Option (Option (Bool × List Char) × List Char) :=
  let digitsOf (negative : Bool) (rest : List Char) :=
    match rest.takeWhile Char.isDigit with
    | [] => none
    | digits => some (some (negative, digits), rest.dropWhile Char.isDigit)
  match text with
  | 'e' :: '+' :: rest | 'E' :: '+' :: rest => digitsOf false rest
  | 'e' :: '-' :: rest | 'E' :: '-' :: rest => digitsOf true rest
  | 'e' :: rest | 'E' :: rest => digitsOf false rest
  | _ => some (none, text)

def number? (text : List Char) : Option (NumberText × List Char) := do
  let (negative, unsigned) :=
    match text with
    | '-' :: rest => (true, rest)
    | _ => (false, text)
  let (whole, afterWhole) ← wholePart? unsigned
  let (fraction, afterFraction) ← fractionPart? afterWhole
  let (exponent, rest) ← exponentPart? afterFraction
  some (⟨negative, whole, fraction, exponent,
         fraction.isEmpty && exponent.isNone⟩, rest)

/-- Leading digits as long as they fit 64 bits, and how many were left over. -/
def fittingDigits (start : Nat) : List Char → Nat × Nat
  | [] => (start, 0)
  | c :: rest =>
      let longer := 10 * start + (c.toNat - '0'.toNat)
      if longer < 18446744073709551616 then fittingDigits longer rest
      else (start, rest.length + 1)

/-- The number that a text denotes: an integer where it is written as one and
fits 64 bits, else the binary64 number of its leading digits; none when that is
too large. The text `-0` is a binary64 number, which keeps its sign. -/
def NumberText.value? (text : NumberText) : Option Number :=
  let whole := Nat.ofDigitChars 10 text.whole 0
  if text.plain ∧ ¬text.negative ∧ whole < 18446744073709551616 then
    some (.integer whole)
  else if text.plain ∧ text.negative ∧ 0 < whole ∧ whole ≤
  9223372036854775808 then
    some (.integer (-whole))
  else
    let (start, wholeLeft) := fittingDigits 0 text.whole
    let (significand, fractionLeft) := fittingDigits start text.fraction
    let shift : Int :=
      match text.exponent with
      | none => 0
      | some (negative, digits) =>
          let value := Nat.ofDigitChars 10 digits 0
          if negative then -value else value
    let exponent :=
      shift + wholeLeft - ((text.fraction.length - fractionLeft : Nat) : Int)
    (Double.ofDecimal? text.negative significand exponent).map .double

/-! ### Strings -/

/-- What stands in a string: a character, or a UTF-16 code unit by its
number. -/
inductive StringUnit where
  | char (c : Char)
  | code (unit : Nat)
  deriving DecidableEq, Repr

/-- The number that hexadecimal digits write. -/
def hexValue? (digits : List Char) : Option Nat :=
  (digits.mapM (Text.digit? 16)).map (Text.numberOf 16)

def shortEscape? : Char → Option Char
  | '"' => some '"'
  | '\\' => some '\\'
  | '/' => some '/'
  | 'b' => some '\x08'
  | 'f' => some '\x0c'
  | 'n' => some '\n'
  | 'r' => some '\r'
  | 't' => some '\t'
  | _ => none

/-- The units up to the closing quote, latest first, and the text after it. -/
def stringUnits (done : List StringUnit) :
    List Char → Option (List StringUnit × List Char)
  | [] => none
  | '"' :: rest => some (done, rest)
  | '\\' :: 'u' :: a :: b :: c :: d :: rest =>
      match hexValue? [a, b, c, d] with
      | some unit => stringUnits (.code unit :: done) rest
      | none => none
  | '\\' :: c :: rest =>
      match shortEscape? c with
      | some meant => stringUnits (.char meant :: done) rest
      | none => none
  | c :: rest =>
      if c.toNat < 0x20 then none else stringUnits (.char c :: done) rest

/-- The characters of the units; a high surrogate needs a low one right after
it. -/
def unitChars : List StringUnit → Option (List Char)
  | [] => some []
  | .char c :: rest => (unitChars rest).map (c :: ·)
  | .code high :: .code low :: rest =>
      if 0xD800 ≤ high ∧ high ≤ 0xDBFF then
        if 0xDC00 ≤ low ∧ low ≤ 0xDFFF then
          let code := 0x10000 + (high - 0xD800) * 0x400 + (low - 0xDC00)
          (unitChars rest).map (Char.ofNat code :: ·)
        else none
      else if 0xDC00 ≤ high ∧ high ≤ 0xDFFF then none
      else (unitChars (.code low :: rest)).map (Char.ofNat high :: ·)
  | .code unit :: rest =>
      if 0xD800 ≤ unit ∧ unit ≤ 0xDFFF then none
      else (unitChars rest).map (Char.ofNat unit :: ·)

/-! ### The tokens of a text -/

def isJsonBlank (c : Char) : Bool :=
  c = ' ' || c = '\t' || c = '\n' || c = '\r'

/-- The token at the start of a text that does not start with a blank. -/
def token? : List Char → Option (Token × List Char)
  | '\x7b' :: rest => some (.leftBrace, rest)
  | '\x7d' :: rest => some (.rightBrace, rest)
  | '[' :: rest => some (.leftBracket, rest)
  | ']' :: rest => some (.rightBracket, rest)
  | ',' :: rest => some (.comma, rest)
  | ':' :: rest => some (.colon, rest)
  | 'n' :: 'u' :: 'l' :: 'l' :: rest => some (.null, rest)
  | 't' :: 'r' :: 'u' :: 'e' :: rest => some (.bool true, rest)
  | 'f' :: 'a' :: 'l' :: 's' :: 'e' :: rest => some (.bool false, rest)
  | '"' :: rest =>
      (stringUnits [] rest).map fun (units, after) =>
        (.string ((unitChars units.reverse).map String.ofList), after)
  | text => (number? text).map fun (written, after) => (.number written, after)

/-- Every token takes at least one character, so that `fuel` is enough when it
is the length of the text. -/
def tokensWithin : (fuel : Nat) → List Char → List Token
  | _, [] => []
  | 0, _ => [.bad]
  | fuel + 1, c :: rest =>
      if isJsonBlank c then tokensWithin fuel rest
      else
        match token? (c :: rest) with
        | some (token, after) => token :: tokensWithin fuel after
        | none => [.bad]

/-- The tokens of a text up to the first place where none can be read; there
`bad` stands. -/
def tokens (text : String) : List Token :=
  let characters := text.toList
  tokensWithin characters.length characters

end PodTelemetry.Json

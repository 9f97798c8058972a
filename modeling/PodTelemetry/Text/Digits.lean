namespace PodTelemetry.Text

/-! ## Numbers in text -/

/-- The value of a digit; beyond nine the letters serve, small or capital. -/
def digit? (base : Nat) (c : Char) : Option Nat :=
  let value :=
    if '0' ≤ c ∧ c ≤ '9' then some (c.toNat - '0'.toNat)
    else if 'a' ≤ c ∧ c ≤ 'f' then some (10 + (c.toNat - 'a'.toNat))
    else if 'A' ≤ c ∧ c ≤ 'F' then some (10 + (c.toNat - 'A'.toNat))
    else none
  value.filter (· < base)

/-- The digits that a text starts with, and what comes after them. -/
def leadingDigits (base : Nat) : List Char → List Nat × List Char
  | [] => ([], [])
  | c :: rest =>
      match digit? base c with
      | none => ([], c :: rest)
      | some value =>
          let (digits, after) := leadingDigits base rest
          (value :: digits, after)

/-- The number that digits write, the first of them the weightiest. -/
def numberOf (base : Nat) (digits : List Nat) : Nat :=
  digits.foldl (fun value digit => value * base + digit) 0

/-- A decimal number that makes up the whole text, with or without a plus sign,
within the limit. -/
def number? (limit : Nat) (text : String) : Option Nat :=
  let unsigned :=
    match text.toList with
    | '+' :: rest => rest
    | whole => whole
  match leadingDigits 10 unsigned with
  | ([], _) => none
  | (digits, []) => some (numberOf 10 digits) |>.filter (· ≤ limit)
  | (_, _ :: _) => none

end PodTelemetry.Text

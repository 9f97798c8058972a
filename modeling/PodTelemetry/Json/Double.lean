namespace PodTelemetry.Json

/-! ## Finite binary64 numbers, known by their shortest decimal

A finite binary64 number is stored as the shortest decimal that reads back as
it, the nearest of those to the number itself: a sign, digits without a final
zero, and a power of ten. Two numbers are equal exactly when their shortest
decimals are, zero apart, whose sign is kept. -/

/-- A finite binary64 number, as `digits · 10 ^ exponent` with a sign. -/
structure Double where
  negative : Bool
  digits : Nat
  exponent : Int
  deriving DecidableEq, Repr

namespace Double

/-- A positive number `significand · 2 ^ scale` as binary64 holds it, or
zero. -/
structure Binary where
  significand : Nat
  scale : Int
  deriving DecidableEq, Repr

/-- `numerator / denominator` to the nearest whole number, a half to the even
one. -/
def roundedQuotient (numerator denominator : Nat) : Nat :=
  let floor := numerator / denominator
  let twice := 2 * (numerator % denominator)
  if twice > denominator ∨ (twice = denominator ∧ floor % 2 = 1) then floor + 1
  else floor

/-- The nearest binary64 number to `numerator / denominator`, ties to even;
none when it is too large. -/
def Binary.nearest? (numerator denominator : Nat) : Option Binary :=
  if numerator = 0 then some ⟨0, 0⟩
  else
    let guess : Int := (numerator.log2 : Int) - denominator.log2 - 52
    let scaled (scale : Int) : Nat × Nat :=
      (numerator <<< (-scale).toNat, denominator <<< scale.toNat)
    let fits (scale : Int) : Bool :=
      1 <<< 52 ≤ (scaled scale).1 / (scaled scale).2
    let scale := max (-1074) (if fits guess then guess else guess - 1)
    let significand := roundedQuotient (scaled scale).1 (scaled scale).2
    let number : Binary :=
      if significand = 1 <<< 53 then ⟨1 <<< 52, scale + 1⟩
      else ⟨significand, scale⟩
    if number.scale > 971 then none else some number

/-- The value as a fraction. -/
def Binary.fraction (number : Binary) : Nat × Nat :=
  (number.significand <<< number.scale.toNat, 1 <<< (-number.scale).toNat)

/-- Number of decimal digits; zero has none. -/
def digitCount (n : Nat) : Nat :=
  if n = 0 then 0 else (Nat.toDigits 10 n).length

/-- Takes final zeros off the digits into the exponent, at most `fuel` of
them. -/
def withoutFinalZeros :
    (fuel : Nat) → (digits : Nat) → (exponent : Int) → Nat × Int
  | 0, digits, exponent => (digits, exponent)
  | fuel + 1, digits, exponent =>
      if digits % 10 = 0 ∧ digits ≠ 0 then
        withoutFinalZeros fuel (digits / 10) (exponent + 1)
      else (digits, exponent)

/-- The point on the grid of multiples of `10 ^ exponent` that reads back as
the number and is nearest to it, if there is one. Points that round to the
number lie between the midpoints to its two neighbours, which count when the
significand is even. -/
def Binary.onGrid? (number : Binary) (exponent : Int) : Option Nat :=
  let quarter := number.scale - 2
  let top := Nat.pow 10 (-exponent).toNat <<< quarter.toNat
  let bottom := Nat.pow 10 exponent.toNat <<< (-quarter).toNat
  let value := 4 * number.significand * top
  let below :=
    if number.significand = 1 <<< 52 ∧ number.scale > -1074 then 1 else 2
  let lowest := (4 * number.significand - below) * top
  let highest := (4 * number.significand + 2) * top
  let readsBack (point : Nat) : Bool :=
    if number.significand % 2 = 0 then
      lowest ≤ point * bottom && point * bottom ≤ highest
    else lowest < point * bottom && point * bottom < highest
  let floor := value / bottom
  let lower := 2 * (value % bottom)
  let preferFloor := lower < bottom || (lower == bottom && floor % 2 == 0)
  let candidates :=
    if preferFloor then [floor, floor + 1] else [floor + 1, floor]
  candidates.find? readsBack

/-- The shortest decimal that reads back as the number: the coarsest of the
seventeen grids with a point that does. -/
def Binary.shortest (negative : Bool) (number : Binary) : Double :=
  if number.significand = 0 then ⟨negative, 0, 0⟩
  else
    let (numerator, denominator) := number.fraction
    let length : Int :=
      if denominator ≤ numerator then digitCount (numerator / denominator)
      else -(digitCount (denominator / numerator) : Int) + 1
    let hit := (List.range 20).findSome? fun (count : Nat) =>
      let exponent := length + 1 - (count : Int)
      (number.onGrid? exponent).map fun digits => (digits, exponent)
    match hit with
    | some (digits, exponent) =>
        let (digits, exponent) := withoutFinalZeros 20 digits exponent
        ⟨negative, digits, exponent⟩
    | none => ⟨negative, number.significand, 0⟩

/-- `significand · 10 ^ exponent` in binary64 arithmetic: the significand is
rounded, then multiplied or divided by a power of ten, itself rounded, of at
most 308, and rounded again each time. None when the number is too large. -/
def scaledByTen? (significand : Nat) (exponent : Int) : Option Binary := do
  let start ← Binary.nearest? significand 1
  let power (n : Nat) : Option (Nat × Nat) :=
    (Binary.nearest? (Nat.pow 10 n) 1).map Binary.fraction
  let divided (number : Binary) (n : Nat) : Option Binary := do
    let (top, bottom) := number.fraction
    let (factor, one) ← power n
    Binary.nearest? (top * one) (bottom * factor)
  if start.significand = 0 then
    some start
  else if exponent > 308 then
    none
  else if exponent ≥ 0 then
    let (top, bottom) := start.fraction
    let (factor, one) ← power exponent.toNat
    Binary.nearest? (top * factor) (bottom * one)
  else if exponent ≥ -308 then
    divided start (-exponent).toNat
  else if exponent ≥ -616 then
    let once ← divided start 308
    divided once (-exponent - 308).toNat
  else
    let once ← divided start 308
    let twice ← divided once 308
    let rest := (-exponent - 616).toNat
    if rest ≤ 308 then divided twice rest else some ⟨0, 0⟩

/-- The number read from a decimal; none when it is too large. -/
def ofDecimal? (negative : Bool) (significand : Nat) (exponent : Int) :
    Option Double :=
  (scaledByTen? significand exponent).map (Binary.shortest negative)

/-- Positional with at least one digit on each side of the point from `1e-5` up
to below `1e16`, else one digit before the point and a signed exponent. -/
def text (number : Double) : String :=
  let digits := Nat.toDigits 10 number.digits
  let point : Int := number.exponent + digits.length
  let zeros (count : Int) : List Char := List.replicate count.toNat '0'
  let shown : List Char :=
    if number.digits = 0 then ['0', '.', '0']
    else if 0 ≤ number.exponent ∧ point ≤ 16 then
      digits ++ zeros number.exponent ++ ['.', '0']
    else if 0 < point ∧ point ≤ 16 then
      digits.take point.toNat ++ '.' :: digits.drop point.toNat
    else if -5 < point ∧ point ≤ 0 then '0' :: '.' :: zeros (-point) ++ digits
    else
      let fraction := if digits.length = 1 then [] else '.' :: digits.drop 1
      let exponent := (if 0 < point then "+" else "") ++ toString (point - 1)
      digits.take 1 ++ fraction ++ 'e' :: exponent.toList
  String.ofList (if number.negative then '-' :: shown else shown)

end Double

end PodTelemetry.Json

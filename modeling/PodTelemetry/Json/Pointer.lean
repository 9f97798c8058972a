import PodTelemetry.Json.Basic
import PodTelemetry.Text.Pieces

namespace PodTelemetry.Json

/-! ## Pointers into JSON values -/

/-- The keys and indices on the way to a place, outermost first. -/
abbrev Pointer := List String

namespace Pointer

/-- A tilde and a slash inside a segment are written `~0` and `~1`. -/
def escapedSegment (segment : List Char) : List Char :=
  segment.flatMap fun c =>
    if c = '~' then ['~', '0'] else if c = '/' then ['~', '1'] else [c]

/-- Undoes `escapedSegment`; a tilde with anything else after it is refused. -/
def unescapedSegment? : List Char → Option (List Char)
  | [] => some []
  | '~' :: '0' :: rest => (unescapedSegment? rest).map ('~' :: ·)
  | '~' :: '1' :: rest => (unescapedSegment? rest).map ('/' :: ·)
  | c :: rest =>
      if c = '~' then none else (unescapedSegment? rest).map (c :: ·)

/-- A slash before each segment. -/
def text (pointer : Pointer) : String :=
  String.ofList
    (pointer.flatMap fun segment => '/' :: escapedSegment segment.toList)

/-- A text is a pointer when it is empty or starts with a slash and has no
stray tilde. -/
def ofText? (text : String) : Option Pointer :=
  match text.toList with
  | [] => some []
  | '/' :: rest =>
      (Text.pieces '/' rest).mapM fun segment =>
        (unescapedSegment? segment).map String.ofList
  | _ => none

/-- Undoing the escapes of a segment gives it back. -/
theorem unescapedSegment?_escapedSegment (segment : List Char) :
    unescapedSegment? (escapedSegment segment) = some segment := by
  induction segment with
  | nil => rfl
  | cons c rest inductionHypothesis =>
      unfold escapedSegment at inductionHypothesis ⊢
      rw [List.flatMap_cons]
      by_cases tilde : c = '~'
      · subst tilde
        simp [unescapedSegment?, inductionHypothesis]
      · by_cases slash : c = '/'
        · subst slash
          simp [unescapedSegment?, inductionHypothesis]
        · simp only [tilde, slash, if_false, List.cons_append, List.nil_append]
          rw [unescapedSegment?]
          · simp [tilde, inductionHypothesis]
          · intro _ same
            exact absurd same tilde
          · intro _ same
            exact absurd same tilde

end Pointer

/-- A segment as an index: digits, no zero before others. -/
def index? (segment : String) : Option Nat :=
  match segment.toList with
  | [] => none
  | '0' :: _ :: _ => none
  | digits =>
      if digits.all Char.isDigit then some (Nat.ofDigitChars 10 digits 0)
      else none

/-- The digits of a number other than zero do not start with a zero. -/
theorem head?_toDigits_ne_zero {n : Nat} (positive : 0 < n) :
    (Nat.toDigits 10 n).head? ≠ some '0' := by
  induction n using Nat.strongRecOn with
  | ind n inductionHypothesis =>
      rw [Nat.toDigits_eq_if (by decide)]
      split
      · simp only
          [List.head?_cons, ne_eq, Option.some.injEq, Nat.digitChar_eq_zero]
        omega
      · cases front : Nat.toDigits 10 (n / 10) with
        | nil => exact absurd front Nat.toDigits_ne_nil
        | cons first others =>
            have earlier := inductionHypothesis (n / 10) (by omega) (by omega)
            rw [front] at earlier
            simpa using earlier

/-- An index is read back from its digits. -/
theorem index?_toString (n : Nat) : index? (toString n) = some n := by
  have digits : (toString n).toList = Nat.toDigits 10 n := Nat.toList_repr
  unfold index?
  rw [digits]
  split
  · next empty => exact absurd empty Nat.toDigits_ne_nil
  · next c rest written =>
      rcases Nat.eq_zero_or_pos n with zero | positive
      · simp [zero] at written
      · exact absurd (by rw [written]; rfl) (head?_toDigits_ne_zero positive)
  · rw [if_pos, Nat.ofDigitChars_ten_toDigits]
    exact List.all_eq_true.2 fun c member =>
      Nat.isDigit_of_mem_toDigits (by decide) (by decide) member

/-- The value at a place. -/
def find? : Json → Pointer → Option Json
  | value, [] => some value
  | .object members, segment :: rest =>
      do find? (← Entries.read segment members) rest
  | .array items, segment :: rest =>
      do find? (← items[(← index? segment)]?) rest
  | _, _ :: _ => none

end PodTelemetry.Json

import Mathlib.Data.List.Induction
import PodTelemetry.Json.Patch
import PodTelemetry.Proofs.Text.Pieces

/-!
# Pointers and patches on the wire

A segment that is an index is the number's own digits, so that an item of an
array has one name only.  Pointers and patches are read back from what is
written of them, slashes and tildes in their segments included.
-/

namespace PodTelemetry.Json

/-! ## Indices -/

private theorem digitChar_of_isDigit
    {c : Char} (digit : c.isDigit) :
    c.toNat - '0'.toNat < 10 ∧ Nat.digitChar (c.toNat - '0'.toNat) = c := by
  have table : ∀ n < 10, Nat.digitChar n = Char.ofNat (n + 48) := by
    decide
  have bounds := Char.isDigit_iff_toNat.1 digit
  have lower : 48 ≤ c.toNat := bounds.1
  have upper : c.toNat ≤ 57 := bounds.2
  have small : c.toNat - 48 < 10 := by omega
  refine ⟨small, ?_⟩
  rw [table (c.toNat - '0'.toNat) small]
  exact (congrArg Char.ofNat (Nat.sub_add_cancel lower)).trans c.ofNat_toNat

private theorem toDigits_ofDigitChars
    {digits : List Char}
    (notEmpty : digits ≠ [])
    (allDigits : ∀ c ∈ digits, c.isDigit)
    (noLeadingZero : digits.head? = some '0' → digits = ['0']) :
    Nat.toDigits 10 (Nat.ofDigitChars 10 digits 0) = digits := by
  induction digits using List.reverseRecOn with
  | nil =>
      exact absurd rfl notEmpty
  | append_singleton front last inductionHypothesis =>
      obtain ⟨small, isLast⟩ :=
        digitChar_of_isDigit (allDigits last (by simp))
      rw [Nat.ofDigitChars_append, Nat.ofDigitChars_cons,
        Nat.ofDigitChars_nil]
      cases front with
      | nil =>
          rw [Nat.ofDigitChars_nil, Nat.mul_zero, Nat.zero_add,
            Nat.toDigits_of_lt_base small, isLast]
          rfl
      | cons first others =>
          have noZero : first ≠ '0' := by
            intro isZero
            have single := noLeadingZero (by simp [isZero])
            simp at single
          have earlier :
              Nat.toDigits 10 (Nat.ofDigitChars 10 (first :: others) 0) =
                first :: others := by
            apply inductionHypothesis
            · simp
            · exact fun c member =>
                allDigits c (List.mem_append_left [last] member)
            · intro isZero
              exact absurd (by simpa using isZero) noZero
          have positive : Nat.ofDigitChars 10 (first :: others) 0 ≠ 0 := by
            intro zero
            rw [zero, Nat.toDigits_zero] at earlier
            exact noZero (List.cons.inj earlier).1.symm
          rw [Nat.toDigits_eq_if (by decide), if_neg (by omega),
            Nat.mul_add_div (by decide), Nat.div_eq_of_lt small,
            Nat.add_zero, earlier, Nat.mul_add_mod, Nat.mod_eq_of_lt small,
            isLast]

/-- Only one segment names an index. -/
theorem eq_toString_of_index?
    {segment : String} {index : Nat}
    (named : index? segment = some index) :
    segment = toString index := by
  have digits : segment.toList = Nat.toDigits 10 index := by
    unfold index? at named
    split at named
    · cases named
    · cases named
    · next notEmpty noZero =>
        split at named
        · next allDigits =>
            rw [← Option.some.inj named]
            refine (toDigits_ofDigitChars notEmpty ?_ fun isZero => ?_).symm
            · exact fun c member => List.all_eq_true.1 allDigits c member
            · cases written : segment.toList with
              | nil =>
                  exact absurd written notEmpty
              | cons first others =>
                  rw [written, List.head?_cons, Option.some.injEq] at isZero
                  cases others with
                  | nil =>
                      rw [isZero]
                  | cons second rest =>
                      exact absurd (isZero ▸ written) (noZero second rest)
        · cases named
  apply String.toList_injective
  rw [digits]
  exact Nat.toList_repr.symm

/-! ## Texts of pointers -/

private theorem mapM_some {α : Type} (items : List α) :
    items.mapM some = some items := by
  induction items with
  | nil =>
      rfl
  | cons item rest inductionHypothesis =>
      simp [List.mapM_cons, inductionHypothesis]

namespace Pointer

theorem slash_not_mem_escapedSegment (segment : List Char) :
    '/' ∉ escapedSegment segment := by
  intro member
  obtain ⟨c, _, inEscape⟩ := List.mem_flatMap.1 member
  split at inEscape
  · simp at inEscape
  · split at inEscape
    · simp at inEscape
    · next noSlash =>
        exact noSlash (List.mem_singleton.1 inEscape).symm

theorem flatMap_escapedSegment
    {pointer : Pointer} (notEmpty : pointer ≠ []) :
    (pointer.flatMap fun segment => '/' :: escapedSegment segment.toList) =
      '/' :: Text.joined '/'
        (pointer.map fun segment => escapedSegment segment.toList) := by
  induction pointer with
  | nil =>
      exact absurd rfl notEmpty
  | cons segment rest inductionHypothesis =>
      rw [List.flatMap_cons, List.map_cons]
      by_cases more : rest = []
      · subst more
        simp [Text.joined]
      · rw [Text.joined_cons _ _ (by simpa using more),
          inductionHypothesis more]
        rfl

/-- A pointer is read back from its text. -/
theorem ofText?_text (pointer : Pointer) :
    ofText? pointer.text = some pointer := by
  by_cases empty : pointer = []
  · subst empty
    rfl
  · unfold ofText? text
    rw [String.toList_ofList, flatMap_escapedSegment empty]
    simp only
    rw [Text.pieces_joined (by simpa using empty)]
    · rw [List.mapM_map]
      have back :
          ((fun segment => (unescapedSegment? segment).map String.ofList) ∘
              fun segment : String => escapedSegment segment.toList) =
            some := by
        funext segment
        simp [unescapedSegment?_escapedSegment]
      rw [back]
      exact mapM_some pointer
    · intro part member
      obtain ⟨segment, _, rfl⟩ := List.mem_map.1 member
      exact slash_not_mem_escapedSegment segment.toList

end Pointer

/-! ## Patches as JSON -/

/-- An operation is read back from its JSON. -/
theorem Operation.ofJson?_toJson (operation : Operation) :
    Operation.ofJson? operation.toJson = some operation := by
  cases operation <;>
    simp [Operation.toJson, Operation.ofJson?, Operation.members?,
      Entries.read, Pointer.ofText?_text]

/-- A patch is read back from its JSON. -/
theorem Patch.ofJson?_toJson (patch : Patch) :
    Patch.ofJson? patch.toJson = some patch := by
  unfold Patch.ofJson? Patch.toJson
  simp only [List.mapM_map]
  have back : Operation.ofJson? ∘ Operation.toJson = some := by
    funext operation
    exact Operation.ofJson?_toJson operation
  rw [back]
  exact mapM_some patch

end PodTelemetry.Json

import Mathlib.Data.List.DropRight
import Mathlib.Data.List.TakeWhile
import PodTelemetry.Text.Blank

/-!
# Texts without blanks at their ends

Trimming takes blanks away at both ends and does nothing to a text that has
none there.
-/

namespace PodTelemetry.Text

/-- The text neither starts nor ends with a blank. -/
structure Trimmed (text : List Char) : Prop where
  front : ∀ c ∈ text.head?, isBlank c = false
  back : ∀ c ∈ text.getLast?, isBlank c = false

theorem trim_eq_rdropWhile (text : List Char) :
    trim text = (text.dropWhile isBlank).rdropWhile isBlank := rfl

theorem trim_sublist (text : List Char) : (trim text).Sublist text := by
  rw [trim_eq_rdropWhile]
  exact
    (List.rdropWhile_prefix isBlank _).sublist.trans
      (List.dropWhile_sublist isBlank)

theorem trimmed_trim (text : List Char) : Trimmed (trim text) := by
  rw [trim_eq_rdropWhile]
  refine ⟨fun c isFirst => ?_, fun c isLast => ?_⟩
  · obtain ⟨rest, whole⟩ :=
      List.rdropWhile_prefix isBlank (text.dropWhile isBlank)
    have first : (text.dropWhile isBlank).head? = some c := by
      rw [← whole, List.head?_append, Option.mem_def.1 isFirst]
      rfl
    have visible := List.head?_dropWhile_not isBlank text
    rw [first] at visible
    simpa using visible
  · obtain ⟨notEmpty, isLast⟩ := List.mem_getLast?_eq_getLast isLast
    have visible := List.rdropWhile_last_not isBlank _ notEmpty
    rw [← isLast] at visible
    simpa using visible

theorem trim_of_trimmed {text : List Char} (trimmed : Trimmed text) :
    trim text = text := by
  have front : text.dropWhile isBlank = text := by
    rw [List.dropWhile_eq_self_iff]
    intro notEmpty
    have isFirst : text[0] ∈ text.head? := by
      rw [List.head?_eq_getElem?]
      exact List.getElem?_eq_getElem notEmpty
    simp [trimmed.front _ isFirst]
  rw [trim_eq_rdropWhile, front, List.rdropWhile_eq_self_iff]
  intro notEmpty
  simp [trimmed.back _ (List.getLast?_eq_getLast_of_ne_nil notEmpty)]

/-! ## Blanks around a text -/

/-- The text consists of the kept part and blanks around it; the kept part
has none at its ends. -/
def StripsTo (text kept : List Char) : Prop :=
  ∃ front back,
    text = front ++ kept ++ back ∧
      (∀ c ∈ front, isBlank c) ∧ (∀ c ∈ back, isBlank c) ∧ Trimmed kept

theorem trim_append_of_blank_front
    {front : List Char} (blank : ∀ c ∈ front, isBlank c)
    (text : List Char) : trim (front ++ text) = trim text := by
  rw [trim, List.dropWhile_append_of_pos blank, trim]

theorem trim_append_of_blank_back
    {back : List Char} (blank : ∀ c ∈ back, isBlank c)
    (text : List Char) : trim (text ++ back) = trim text := by
  have backDropped : back.dropWhile isBlank = [] :=
    List.dropWhile_eq_nil_iff.2 blank
  rw [trim, trim, List.dropWhile_append]
  by_cases allBlank : (text.dropWhile isBlank).isEmpty
  · rw [if_pos allBlank, backDropped, List.isEmpty_iff.1 allBlank]
  · rw [if_neg allBlank, List.reverse_append,
      List.dropWhile_append_of_pos fun c member =>
        blank c (List.mem_reverse.1 member)]

/-- Trimming is what takes the blanks away. -/
theorem trim_eq_iff {text kept : List Char} :
    trim text = kept ↔ StripsTo text kept := by
  constructor
  · rintro rfl
    let rest := text.dropWhile isBlank
    have whole : text = text.takeWhile isBlank ++ rest :=
      List.takeWhile_append_dropWhile.symm
    have restWhole : rest = trim text ++ rest.rtakeWhile isBlank :=
      List.rdropWhile_append_rtakeWhile.symm
    refine
      ⟨text.takeWhile isBlank, rest.rtakeWhile isBlank, ?_,
        fun _ => List.mem_takeWhile_imp, fun _ => List.mem_rtakeWhile_imp,
        trimmed_trim text⟩
    rw [List.append_assoc, ← restWhole]
    exact whole
  · rintro ⟨front, back, rfl, frontBlank, backBlank, trimmed⟩
    rw [trim_append_of_blank_back backBlank,
      trim_append_of_blank_front frontBlank, trim_of_trimmed trimmed]

end PodTelemetry.Text

import PodTelemetry.Text.Pieces

/-!
# Joining and cutting

Parts that do not contain the separator are found again in the joined text.
-/

namespace PodTelemetry.Text

/-- A separator ends a piece, whatever stands before it. -/
theorem pieces_append (separator : Char) (front back : List Char) :
    pieces separator (front ++ separator :: back) =
      pieces separator front ++ pieces separator back := by
  induction front with
  | nil =>
      simp [pieces]
  | cons c rest inductionHypothesis =>
      rw [List.cons_append, pieces, pieces, inductionHypothesis]
      by_cases isSeparator : c = separator
      · simp [isSeparator]
      · cases parts : pieces separator rest with
        | nil =>
            exact absurd parts (pieces_ne_nil separator rest)
        | cons first others =>
            simp [isSeparator]

theorem pieces_append_cons
    {separator : Char} {front : List Char}
    (absent : separator ∉ front) (back : List Char) :
    pieces separator (front ++ separator :: back) =
      front :: pieces separator back := by
  rw [pieces_append, pieces_of_not_mem absent, List.singleton_append]

theorem joined_cons
    (separator : Char) (first : List Char) {others : List (List Char)}
    (more : others ≠ []) :
    joined separator (first :: others) =
      first ++ separator :: joined separator others := by
  cases others with
  | nil =>
      exact absurd rfl more
  | cons next rest =>
      rfl

/-- Cutting a joined text gives its parts back. -/
theorem pieces_joined
    {separator : Char} {parts : List (List Char)}
    (notEmpty : parts ≠ [])
    (absent : ∀ part ∈ parts, separator ∉ part) :
    pieces separator (joined separator parts) = parts := by
  induction parts with
  | nil =>
      exact absurd rfl notEmpty
  | cons first others inductionHypothesis =>
      have firstAbsent : separator ∉ first := absent first List.mem_cons_self
      by_cases more : others = []
      · subst more
        exact pieces_of_not_mem firstAbsent
      · rw [joined_cons separator first more, pieces_append_cons firstAbsent,
          inductionHypothesis more fun part member =>
            absent part (List.mem_cons_of_mem _ member)]

theorem not_mem_of_mem_pieces
    {separator : Char} {text piece : List Char}
    (member : piece ∈ pieces separator text) :
    separator ∉ piece := by
  induction text generalizing piece with
  | nil =>
      rw [pieces, List.mem_singleton] at member
      rw [member]
      exact List.not_mem_nil
  | cons c rest inductionHypothesis =>
      rw [pieces] at member
      by_cases isSeparator : c = separator
      · rw [if_pos isSeparator] at member
        rcases List.mem_cons.1 member with rfl | later
        · exact List.not_mem_nil
        · exact inductionHypothesis later
      · rw [if_neg isSeparator] at member
        cases parts : pieces separator rest with
        | nil =>
            exact absurd parts (pieces_ne_nil separator rest)
        | cons first others =>
            rw [parts] at member inductionHypothesis
            rcases List.mem_cons.1 member with rfl | later
            · rw [List.mem_cons, not_or]
              exact
                ⟨Ne.symm isSeparator,
                  inductionHypothesis List.mem_cons_self⟩
            · exact inductionHypothesis (List.mem_cons_of_mem first later)

/-- The parts of a text between its separators. -/
structure SplitsInto
    (separator : Char) (text : List Char) (parts : List (List Char)) :
    Prop where
  notEmpty : parts ≠ []
  absent : ∀ part ∈ parts, separator ∉ part
  whole : joined separator parts = text

/-- A text has its pieces for parts, and no others. -/
theorem splitsInto_iff
    {separator : Char} {text : List Char} {parts : List (List Char)} :
    SplitsInto separator text parts ↔ pieces separator text = parts := by
  constructor
  · intro splits
    rw [← splits.whole]
    exact pieces_joined splits.notEmpty splits.absent
  · rintro rfl
    exact
      ⟨pieces_ne_nil separator text, fun _ => not_mem_of_mem_pieces,
        joined_pieces separator text⟩

/-! ## The first separator -/

theorem cut?_append_cons
    {separator : Char} {front : List Char}
    (absent : separator ∉ front) (back : List Char) :
    cut? separator (front ++ separator :: back) = some (front, back) := by
  induction front with
  | nil =>
      simp [cut?]
  | cons c rest inductionHypothesis =>
      rw [List.mem_cons, not_or] at absent
      simp [cut?, Ne.symm absent.1, inductionHypothesis absent.2]

theorem eq_append_of_cut?
    {separator : Char} {text front back : List Char}
    (found : cut? separator text = some (front, back)) :
    text = front ++ separator :: back ∧ separator ∉ front := by
  induction text generalizing front with
  | nil =>
      cases found
  | cons c rest inductionHypothesis =>
      rw [cut?] at found
      by_cases isSeparator : c = separator
      · rw [if_pos isSeparator] at found
        cases found
        exact ⟨by rw [isSeparator, List.nil_append], List.not_mem_nil⟩
      · rw [if_neg isSeparator] at found
        obtain ⟨parts, later, same⟩ := Option.map_eq_some_iff.1 found
        cases same
        obtain ⟨whole, absent⟩ := inductionHypothesis later
        refine ⟨by rw [whole, List.cons_append], ?_⟩
        rw [List.mem_cons, not_or]
        exact ⟨Ne.symm isSeparator, absent⟩

/-! ## Patterns -/

theorem contains_iff {pattern text : List Char} :
    contains pattern text ↔ pattern <:+: text := by
  induction text with
  | nil =>
      simp [contains]
  | cons c rest inductionHypothesis =>
      rw [contains, Bool.or_eq_true, inductionHypothesis,
        List.isPrefixOf_iff_prefix, List.infix_cons_iff]

/-- A pattern at the end of a text stands in it. -/
theorem contains_append (pattern front : List Char) :
    contains pattern (front ++ pattern) = true :=
  contains_iff.2 (List.suffix_append front pattern).isInfix

end PodTelemetry.Text

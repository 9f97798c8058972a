namespace PodTelemetry.Text

/-! ## Texts cut at a separator, and put together again -/

/-- The parts of a text between the separators, empty ones included; there is
always at least one. -/
def pieces (separator : Char) : List Char → List (List Char)
  | [] => [[]]
  | c :: rest =>
      if c = separator then [] :: pieces separator rest
      else
        match pieces separator rest with
        | [] => [[c]]
        | piece :: others => (c :: piece) :: others

/-- The parts one after the other, a separator between two of them. -/
def joined (separator : Char) : List (List Char) → List Char
  | [] => []
  | [piece] => piece
  | piece :: others => piece ++ separator :: joined separator others

/-- The text before the first separator and the text after it. -/
def cut? (separator : Char) : List Char → Option (List Char × List Char)
  | [] => none
  | c :: rest =>
      if c = separator then some ([], rest)
      else (cut? separator rest).map fun parts => (c :: parts.1, parts.2)

/-- Whether the pattern stands somewhere in the text. -/
def contains (pattern : List Char) : List Char → Bool
  | [] => pattern.isEmpty
  | c :: rest => pattern.isPrefixOf (c :: rest) || contains pattern rest

/-- Equal when the letters A to Z and a to z are not told apart. -/
def sameIgnoringCase (left right : String) : Bool :=
  left.toList.map Char.toLower == right.toList.map Char.toLower

/-- The letters A to Z made small, all else kept. -/
def lowered (text : String) : String :=
  String.ofList (text.toList.map Char.toLower)

theorem pieces_ne_nil (separator : Char) (text : List Char) :
    pieces separator text ≠ [] := by
  cases text with
  | nil => simp [pieces]
  | cons c rest =>
      unfold pieces
      split
      · simp
      · split <;> simp

/-- Putting the pieces together gives the text back. -/
theorem joined_pieces (separator : Char) (text : List Char) :
    joined separator (pieces separator text) = text := by
  induction text with
  | nil => rfl
  | cons c rest inductionHypothesis =>
      unfold pieces
      split
      · next isSeparator =>
          subst isSeparator
          cases parts : pieces c rest with
          | nil => exact absurd parts (pieces_ne_nil c rest)
          | cons piece others =>
              rw [parts] at inductionHypothesis
              simp only [joined, List.nil_append, inductionHypothesis]
      · cases parts : pieces separator rest with
        | nil => exact absurd parts (pieces_ne_nil separator rest)
        | cons piece others =>
            rw [parts] at inductionHypothesis
            cases others with
            | nil => simpa [joined] using inductionHypothesis
            | cons next more => simpa [joined] using inductionHypothesis

/-- A text without the separator is its own only piece. -/
theorem pieces_of_not_mem {separator : Char} {text : List Char}
    (absent : separator ∉ text) :
    pieces separator text = [text] := by
  induction text with
  | nil => rfl
  | cons c rest inductionHypothesis =>
      have differs : c ≠ separator :=
        fun same => absent (same ▸ List.mem_cons_self)
      have restAbsent : separator ∉ rest :=
        fun member => absent (List.mem_cons_of_mem _ member)
      simp [pieces, differs, inductionHypothesis restAbsent]

end PodTelemetry.Text

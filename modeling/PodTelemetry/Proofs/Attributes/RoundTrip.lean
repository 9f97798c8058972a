import PodTelemetry.Attributes.Basic
import PodTelemetry.Proofs.Entries
import PodTelemetry.Proofs.Text.Blank
import PodTelemetry.Proofs.Text.Pieces

/-!
# Attributes read back from their text

What is read from a pair holds neither commas nor equals signs, and no blanks
at its ends.  Attributes that hold only such texts are the same after they
were written as one text and read again.
-/

namespace PodTelemetry.Attributes

open PodTelemetry.Text (Trimmed)

/-- A text that stays as it is in a pair among others. -/
structure Plain (text : String) : Prop where
  noComma : ',' ∉ text.toList
  noEquals : '=' ∉ text.toList
  trimmed : Trimmed text.toList

/-- Keys and values stay as they are when the attributes are written. -/
def Settled (attributes : Attributes) : Prop :=
  ∀ key value,
    attributes.get? key = some value → Plain key ∧ Plain value

/-- Entries are settled one by one. -/
theorem settled_iff {attributes : Attributes} :
    Settled attributes ↔
      ∀ entry ∈ attributes.entries, Plain entry.1 ∧ Plain entry.2 := by
  constructor
  · intro settled entry member
    exact
      settled entry.1 entry.2
        (Entries.read_eq_some_of_mem attributes.ascending member)
  · intro each key value found
    exact each (key, value) (Entries.mem_of_read found)

theorem plain_of_trim_eq
    {text : String} (noComma : ',' ∉ text.toList)
    (noEquals : '=' ∉ text.toList)
    (unchanged : Text.trim text.toList = text.toList) :
    Plain text := by
  refine ⟨noComma, noEquals, ?_⟩
  rw [← unchanged]
  exact Text.trimmed_trim text.toList

theorem plain_iff {text : String} :
    Plain text ↔
      (',' ∉ text.toList ∧ '=' ∉ text.toList) ∧
        Text.trim text.toList = text.toList :=
  ⟨fun plain =>
      ⟨⟨plain.noComma, plain.noEquals⟩, Text.trim_of_trimmed plain.trimmed⟩,
    fun ⟨⟨noComma, noEquals⟩, unchanged⟩ =>
      plain_of_trim_eq noComma noEquals unchanged⟩

instance : DecidablePred Plain := fun _ => decidable_of_iff' _ plain_iff

instance : DecidablePred Settled := fun _ => decidable_of_iff' _ settled_iff

theorem plain_of_get?
    {attributes : Attributes}
    (each : ∀ entry ∈ attributes.entries, Plain entry.2)
    {key value : String} (found : attributes.get? key = some value) :
    Plain value :=
  each (key, value) (Entries.mem_of_read found)

/-! ## Single pairs -/

theorem trimmed_pair
    {key value : List Char}
    (keyTrimmed : Trimmed key) (valueTrimmed : Trimmed value) :
    Trimmed (key ++ '=' :: value) := by
  have visible : Text.isBlank '=' = false := by decide
  refine ⟨fun c isFirst => ?_, fun c isLast => ?_⟩
  · cases key with
    | nil =>
        simp only [List.nil_append, List.head?_cons, Option.mem_def,
          Option.some.injEq] at isFirst
        rw [← isFirst]
        exact visible
    | cons first rest =>
        exact keyTrimmed.front c isFirst
  · rw [List.getLast?_append, List.getLast?_cons] at isLast
    cases last : value.getLast? with
    | none =>
        simp only [last, Option.getD_none, Option.some_or, Option.mem_def,
          Option.some.injEq] at isLast
        rw [← isLast]
        exact visible
    | some given =>
        simp only [last, Option.getD_some, Option.some_or, Option.mem_def,
          Option.some.injEq] at isLast
        rw [← isLast]
        exact valueTrimmed.back given last

theorem pair?_written
    {key value : String} (keyPlain : Plain key) (valuePlain : Plain value) :
    pair? (key.toList ++ '=' :: value.toList) = some (key, value) := by
  have whole :
      Text.trim (key.toList ++ '=' :: value.toList) =
        key.toList ++ '=' :: value.toList :=
    Text.trim_of_trimmed
      (trimmed_pair keyPlain.trimmed valuePlain.trimmed)
  have parts := Text.cut?_append_cons keyPlain.noEquals value.toList
  unfold pair?
  rw [whole, parts]
  simp [valuePlain.noEquals, Text.trim_of_trimmed keyPlain.trimmed,
    Text.trim_of_trimmed valuePlain.trimmed]

theorem plain_trim
    {text : List Char} (noComma : ',' ∉ text) (noEquals : '=' ∉ text) :
    Plain (String.ofList (Text.trim text)) := by
  have kept := Text.trim_sublist text
  refine ⟨?_, ?_, ?_⟩
  · rw [String.toList_ofList]
    exact fun member => noComma (kept.subset member)
  · rw [String.toList_ofList]
    exact fun member => noEquals (kept.subset member)
  · rw [String.toList_ofList]
    exact Text.trimmed_trim text

theorem plain_of_pair?
    {piece : List Char} {key value : String} (noComma : ',' ∉ piece)
    (found : pair? piece = some (key, value)) :
    Plain key ∧ Plain value := by
  unfold pair? at found
  obtain ⟨⟨front, back⟩, isCut, rest⟩ := Option.bind_eq_some_iff.1 found
  obtain ⟨whole, frontFree⟩ := Text.eq_append_of_cut? isCut
  have trimmedFree : ',' ∉ Text.trim piece :=
    fun member => noComma ((Text.trim_sublist piece).subset member)
  rw [whole, List.mem_append, List.mem_cons, not_or, not_or] at trimmedFree
  by_cases backFree : '=' ∈ back
  · simp [backFree] at rest
  · simp only [backFree, if_false, Option.some.injEq, Prod.mk.injEq] at rest
    obtain ⟨rfl, rfl⟩ := rest
    exact
      ⟨plain_trim trimmedFree.1 frontFree,
        plain_trim trimmedFree.2.2 backFree⟩

/-! ## All pairs -/

theorem get?_overlay
    (attributes : Attributes) (pieces : List (List Char)) (key : String) :
    (overlay attributes pieces).get? key =
      (Entries.readLast key (pieces.filterMap pair?)).or
        (attributes.get? key) :=
  Dictionary.get?_foldl_insert attributes (pieces.filterMap pair?) key

theorem isSome_get?_overlay
    {attributes : Attributes} {key : String}
    (given : (attributes.get? key).isSome) (pieces : List (List Char)) :
    ((overlay attributes pieces).get? key).isSome := by
  rw [get?_overlay, Option.isSome_or, given, Bool.or_true]

theorem settled_overlay
    {attributes : Attributes} (settled : Settled attributes)
    {pieces : List (List Char)}
    (separated : ∀ piece ∈ pieces, ',' ∉ piece) :
    Settled (overlay attributes pieces) := by
  intro key value found
  rw [get?_overlay] at found
  cases declared : Entries.readLast key (pieces.filterMap pair?) with
  | none =>
      rw [declared, Option.none_or] at found
      exact settled key value found
  | some other =>
      rw [declared, Option.some_or] at found
      cases found
      have member : (key, value) ∈ pieces.filterMap pair? :=
        List.mem_reverse.1 (Entries.mem_of_read declared)
      obtain ⟨piece, isPiece, isPair⟩ := List.mem_filterMap.1 member
      exact plain_of_pair? (separated piece isPiece) isPair

theorem declaredPieces_of_find?
    {env : List Kubernetes.EnvVar} {entry : Kubernetes.EnvVar}
    {text : String} (isFirst : env.find? declares = some entry)
    (hasText : entry.value = some text) :
    declaredPieces env = piecesOf text := by
  unfold declaredPieces
  rw [isFirst, Option.bind_some, hasText]

theorem separated_declaredPieces (env : List Kubernetes.EnvVar) :
    ∀ piece ∈ declaredPieces env, ',' ∉ piece := by
  intro piece member
  unfold declaredPieces at member
  split at member
  · exact Text.not_mem_of_mem_pieces member
  · cases member

/-- Whatever a container declares, what is merged can be written. -/
theorem settled_mergedWith
    {attributes : Attributes} (settled : Settled attributes)
    (env : List Kubernetes.EnvVar) :
    Settled (attributes.mergedWith env).attributes :=
  settled_overlay settled (separated_declaredPieces env)

theorem piecesOf_text
    {attributes : Attributes} (settled : Settled attributes)
    (notEmpty : attributes.entries ≠ []) :
    piecesOf attributes.text =
      attributes.entries.map fun entry =>
        entry.1.toList ++ '=' :: entry.2.toList := by
  unfold piecesOf text
  rw [String.toList_ofList]
  refine Text.pieces_joined (by simpa using notEmpty) fun part member => ?_
  obtain ⟨entry, isEntry, rfl⟩ := List.mem_map.1 member
  obtain ⟨keyPlain, valuePlain⟩ := settled_iff.1 settled entry isEntry
  simp [keyPlain.noComma, valuePlain.noComma]

theorem filterMap_pair?_piecesOf_text
    {attributes : Attributes} (settled : Settled attributes) :
    (piecesOf attributes.text).filterMap pair? = attributes.entries := by
  by_cases empty : attributes.entries = []
  · simp only [piecesOf, text, empty]
    rfl
  · rw [piecesOf_text settled empty, List.filterMap_map]
    have readBack :
        ∀ entry ∈ attributes.entries,
          (pair? ∘ fun entry : String × String =>
            entry.1.toList ++ '=' :: entry.2.toList) entry =
            some entry := by
      intro entry member
      obtain ⟨keyPlain, valuePlain⟩ := settled_iff.1 settled entry member
      exact pair?_written keyPlain valuePlain
    rw [List.filterMap_congr readBack, List.filterMap_some]

/-- Settled attributes laid over some of their own keys are read back from
their text. -/
theorem overlay_piecesOf_text
    {attributes merged : Attributes} (settled : Settled merged)
    (covers :
      ∀ key, (attributes.get? key).isSome → (merged.get? key).isSome) :
    overlay attributes (piecesOf merged.text) = merged := by
  apply Dictionary.eq_of_get?_eq
  intro key
  rw [get?_overlay, filterMap_pair?_piecesOf_text settled,
    Entries.readLast_of_ascending merged.ascending]
  change (merged.get? key).or (attributes.get? key) = merged.get? key
  cases found : merged.get? key with
  | none =>
      have absent : attributes.get? key = none := by
        cases given : attributes.get? key with
        | none =>
            rfl
        | some value =>
            have covered := covers key (by rw [given]; rfl)
            rw [found] at covered
            cases covered
      rw [absent]
      rfl
  | some value =>
      rfl

/-- What was merged with the declarations of a container is merged with its
own text to the same. -/
theorem overlay_mergedWith
    {attributes : Attributes} (settled : Settled attributes)
    (env : List Kubernetes.EnvVar) :
    let merged := (attributes.mergedWith env).attributes
    overlay attributes (piecesOf merged.text) = merged := by
  intro merged
  apply overlay_piecesOf_text
  · exact settled_mergedWith settled env
  · exact fun key given => isSome_get?_overlay given (declaredPieces env)

end PodTelemetry.Attributes

import PodTelemetry.Proofs.Attributes.Filling
import PodTelemetry.Proofs.Attributes.Merging
import PodTelemetry.Proofs.Injection.Variables
import PodTelemetry.Proofs.Text.Bytes

/-!
# Attributes written and read again

Written as one text, attributes are their pairs one after the other, each key
once and the keys in the order of their bytes.  Keys and values that can stand
in a pair are read back as they were, and what is read from any text can stand
in a pair.  So a variable that was rewritten stays as it is when it is merged
and written again.
-/

namespace PodTelemetry.Attributes

open PodTelemetry.Kubernetes (EnvVar)

variable {attributes merged : Attributes} {env rewritten : List EnvVar}

/-! ## Written attributes -/

/-- The text is the pairs one after the other, with an equals sign between key
and value and a comma between two pairs. -/
inductive Lists : List (String × String) → List Char → Prop
  | nothing : Lists [] []
  | single (key value : String) :
      Lists [(key, value)] (key.toList ++ '=' :: value.toList)
  | further (key value : String) {next : String × String}
      {others : List (String × String)} {text : List Char} :
      Lists (next :: others) text →
      Lists ((key, value) :: next :: others)
        (key.toList ++ '=' :: value.toList ++ ',' :: text)

theorem lists_joined (pairs : List (String × String)) :
    Lists pairs
      (Text.joined ',' <|
        pairs.map fun pair => pair.1.toList ++ '=' :: pair.2.toList) := by
  induction pairs with
  | nil =>
      exact .nothing
  | cons pair others inductionHypothesis =>
      cases others with
      | nil =>
          exact .single pair.1 pair.2
      | cons next rest =>
          exact .further pair.1 pair.2 inductionHypothesis

theorem lists_text (attributes : Attributes) :
    Lists attributes.entries attributes.text.toList := by
  unfold text
  rw [String.toList_ofList]
  exact lists_joined attributes.entries

theorem pairwise_bytes_keys (attributes : Attributes) :
    (attributes.entries.map Prod.fst).Pairwise fun first second =>
      Text.bytes first < Text.bytes second :=
  List.pairwise_map.2 (attributes.ascending.imp Text.bytes_lt_bytes)

/-! ## Written attributes read again -/

/-- The first declaration among the variables has the text. -/
def DeclaresFirst (env : List EnvVar) (text : String) : Prop :=
  ∃ front entry back,
    FirstDeclaration env front entry back ∧ entry.value = some text

theorem declaresFirst_of_find?
    {entry : EnvVar} {text : String}
    (found : env.find? declares = some entry)
    (hasText : entry.value = some text) :
    DeclaresFirst env text := by
  obtain ⟨front, back, first⟩ := exists_firstDeclaration_iff.2 found
  exact ⟨front, entry, back, first, hasText⟩

/-- A first declaration of settled attributes is read as they are, whatever
else was derived for some of their keys. -/
theorem DeclaresFirst.mergedWith
    (declaresText : DeclaresFirst env merged.text)
    (settled : Settled merged)
    (covers :
      ∀ key, (attributes.get? key).isSome → (merged.get? key).isSome) :
    (attributes.mergedWith env).attributes = merged := by
  obtain ⟨front, entry, back, first, hasText⟩ := declaresText
  have found := exists_firstDeclaration_iff.1 ⟨front, back, first⟩
  unfold Attributes.mergedWith
  rw [declaredPieces_of_find? found hasText]
  exact overlay_piecesOf_text settled covers

/-- What was merged and written is merged again to the same. -/
theorem DeclaresFirst.merged_again
    (declaresText :
      DeclaresFirst rewritten (attributes.mergedWith env).attributes.text)
    (settled : Settled attributes) :
    (attributes.mergedWith rewritten).attributes =
      (attributes.mergedWith env).attributes := by
  refine declaresText.mergedWith (settled_mergedWith settled env) ?_
  exact fun key derived => isSome_get?_overlay derived (declaredPieces env)

/-- Reading undoes writing.  Settled attributes are read back, over nothing,
from a first declaration with their text, and the text lists every key once,
in strictly ascending order of bytes.  Laid under any variables they are
settled again, and a first declaration with the text of what was merged, as
injection writes it, is a fixed point.  Of derived attributes only the values
have to be looked at. -/
theorem text_roundTrip (settled : Settled attributes) :
    (∀ env,
      DeclaresFirst env attributes.text →
      (mergedWith Dictionary.empty env).attributes = attributes) ∧
    (∃ pairs,
      Lists pairs attributes.text.toList ∧
        ((pairs.map Prod.fst).Pairwise fun first second =>
          Text.bytes first < Text.bytes second) ∧
        ∀ key value,
          (key, value) ∈ pairs ↔ attributes.get? key = some value) ∧
    (∀ env,
      let merged := attributes.mergedWith env
      Settled merged.attributes ∧
        (∀ rewritten,
          DeclaresFirst rewritten merged.attributes.text →
          (attributes.mergedWith rewritten).attributes =
            merged.attributes) ∧
        ∀ config service,
          DeclaresFirst
            (Injection.configuredVariables config service merged env)
            merged.attributes.text) ∧
    ∀ isIn pod cluster,
      let derived := ((derive isIn pod).run cluster).result
      Settled derived ↔
        ∀ key value, derived.get? key = some value → Plain value := by
  refine ⟨fun env declaresText => ?_, ?_, fun env => ⟨?_, ?_, ?_⟩, ?_⟩
  · refine declaresText.mergedWith settled fun key derived => ?_
    cases derived
  · exact
      ⟨attributes.entries, lists_text attributes,
        pairwise_bytes_keys attributes,
        fun key value => Entries.mem_iff_read attributes.ascending⟩
  · exact settled_mergedWith settled env
  · exact fun rewritten declaresText => declaresText.merged_again settled
  · exact fun config service =>
      declaresFirst_of_find? Injection.find?_declares_configuredVariables rfl
  · exact fun isIn pod cluster =>
      ⟨fun derived key value found => (derived key value found).2,
        settled_derive⟩

/-- An empty key, an empty value, and keys whose characters take one to four
bytes. -/
def sampleWritten : Attributes :=
  Dictionary.ofList
    [("😀", "2"), ("ｱ", "a b"), ("é", "1"), ("team", ""), ("", "")]

def sampleRewritable : List EnvVar :=
  [ { name := "HOME" },
    EnvVar.literal Env.resourceAttributes " env = prod ,b==2,,team=x,é=,",
    EnvVar.literal Env.resourceAttributes "late=1" ]

theorem sampleWritten_roundTrip :
    let merged := (sampleWritten.mergedWith sampleRewritable).attributes
    let rewritten :=
      sampleRewritable.set 1
        (EnvVar.literal Env.resourceAttributes merged.text)
    Settled sampleWritten ∧
      sampleWritten.text = "=,team=,é=1,ｱ=a b,😀=2" ∧
      (mergedWith Dictionary.empty
        [EnvVar.literal Env.resourceAttributes
          sampleWritten.text]).attributes =
        sampleWritten ∧
      (∃ pairs,
        Lists pairs sampleWritten.text.toList ∧
          ((pairs.map Prod.fst).Pairwise fun first second =>
            Text.bytes first < Text.bytes second) ∧
          ∀ key value,
            (key, value) ∈ pairs ↔ sampleWritten.get? key = some value) ∧
      Settled merged ∧
      merged.text = "=,env=prod,team=x,é=,ｱ=a b,😀=2" ∧
      (sampleWritten.mergedWith rewritten).attributes = merged := by
  intro merged rewritten
  have settled : Settled sampleWritten := by
    decide +kernel
  obtain ⟨readBack, listed, merging, _⟩ := text_roundTrip settled
  obtain ⟨stillSettled, fixed, _⟩ := merging sampleRewritable
  refine
    ⟨settled, by decide +kernel, readBack _ ?_, listed, stillSettled,
      by decide +kernel, fixed rewritten ?_⟩
  · exact declaresFirst_of_find? rfl rfl
  · exact declaresFirst_of_find? rfl rfl

end PodTelemetry.Attributes

import PodTelemetry.Proofs.Attributes.RoundTrip

/-!
# Attributes that a container declares

Which pairs a container declares, said without the reading of its text: the
pieces of the first declaration that have exactly one equals sign, blanks
around key and value not counting.  A declared pair wins over what is derived,
the last one of a key over earlier ones, and other pieces make no difference.
-/

namespace PodTelemetry.Attributes

open PodTelemetry.Kubernetes (EnvVar)
open PodTelemetry.Text (SplitsInto StripsTo)

variable {attributes : Attributes} {env front back : List EnvVar}
variable {entry : EnvVar}

/-! ## Pairs -/

/-- The piece holds one equals sign, with the key before it and the value
behind it; blanks around them do not count. -/
def IsPair (piece : List Char) (key value : String) : Prop :=
  ∃ before behind,
    piece = before ++ '=' :: behind ∧ '=' ∉ before ∧ '=' ∉ behind ∧
      StripsTo before key.toList ∧ StripsTo behind value.toList

theorem equals_not_mem_of_blank
    {text : List Char} (blank : ∀ c ∈ text, Text.isBlank c) :
    '=' ∉ text := by
  intro member
  have visible : Text.isBlank '=' = false := by decide
  rw [blank '=' member] at visible
  cases visible

theorem stripsTo_ofList_trim (text : List Char) :
    StripsTo text (String.ofList (Text.trim text)).toList := by
  rw [String.toList_ofList]
  exact Text.trim_eq_iff.1 rfl

/-- What stands around the first equals sign of a trimmed text stands, with
some blanks more, around the first one of the text. -/
theorem exists_cut?_of_trim
    {piece before behind : List Char}
    (isCut : Text.cut? '=' (Text.trim piece) = some (before, behind)) :
    ∃ front back,
      (∀ c ∈ front, Text.isBlank c) ∧ (∀ c ∈ back, Text.isBlank c) ∧
        piece = (front ++ before) ++ '=' :: (behind ++ back) ∧
        '=' ∉ front ++ before := by
  obtain ⟨front, back, whole, frontBlank, backBlank, _⟩ :=
    Text.trim_eq_iff.1 (rfl : Text.trim piece = Text.trim piece)
  obtain ⟨kept, beforeFree⟩ := Text.eq_append_of_cut? isCut
  refine ⟨front, back, frontBlank, backBlank, ?_, ?_⟩
  · rw [whole, kept]
    simp
  · rw [List.mem_append, not_or]
    exact ⟨equals_not_mem_of_blank frontBlank, beforeFree⟩

theorem isPair_of_pair?
    {piece : List Char} {key value : String}
    (found : pair? piece = some (key, value)) :
    IsPair piece key value := by
  unfold pair? at found
  obtain ⟨⟨before, behind⟩, isCut, rest⟩ := Option.bind_eq_some_iff.1 found
  obtain ⟨front, back, frontBlank, backBlank, whole, beforeFree⟩ :=
    exists_cut?_of_trim isCut
  by_cases behindFree : '=' ∈ behind
  · simp [behindFree] at rest
  · simp only [behindFree, if_false, Option.some.injEq, Prod.mk.injEq] at rest
    obtain ⟨rfl, rfl⟩ := rest
    refine
      ⟨front ++ before, behind ++ back, whole, beforeFree, ?_, ?_, ?_⟩
    · rw [List.mem_append, not_or]
      exact ⟨behindFree, equals_not_mem_of_blank backBlank⟩
    · rw [← Text.trim_append_of_blank_front frontBlank]
      exact stripsTo_ofList_trim _
    · rw [← Text.trim_append_of_blank_back backBlank]
      exact stripsTo_ofList_trim _

theorem pair?_of_isPair
    {piece : List Char} {key value : String}
    (isPair : IsPair piece key value) :
    pair? piece = some (key, value) := by
  obtain ⟨before, behind, whole, beforeFree, behindFree, isKey, isValue⟩ :=
    isPair
  have member : '=' ∈ Text.trim piece := by
    obtain ⟨front, back, around, frontBlank, backBlank, _⟩ :=
      Text.trim_eq_iff.1 (rfl : Text.trim piece = Text.trim piece)
    have isThere : '=' ∈ piece := by
      rw [whole]
      simp
    rw [around] at isThere
    simpa [equals_not_mem_of_blank frontBlank,
      equals_not_mem_of_blank backBlank] using isThere
  obtain ⟨keyPart, valuePart, kept, keyFree⟩ :=
    List.eq_append_cons_of_mem member
  have isCut :
      Text.cut? '=' (Text.trim piece) = some (keyPart, valuePart) := by
    rw [kept]
    exact Text.cut?_append_cons keyFree valuePart
  obtain ⟨front, back, frontBlank, backBlank, again, frontFree⟩ :=
    exists_cut?_of_trim isCut
  -- The piece has one first equals sign, so both ways to cut it agree.
  have same :
      some (front ++ keyPart, valuePart ++ back) = some (before, behind) := by
    rw [← Text.cut?_append_cons frontFree, ← again, whole,
      Text.cut?_append_cons beforeFree]
  obtain ⟨rfl, rfl⟩ := Prod.mk.inj (Option.some.inj same)
  have valueFree : '=' ∉ valuePart :=
    fun inValue => behindFree (List.mem_append_left back inValue)
  have sameKey := Text.trim_eq_iff.2 isKey
  have sameValue := Text.trim_eq_iff.2 isValue
  rw [Text.trim_append_of_blank_front frontBlank] at sameKey
  rw [Text.trim_append_of_blank_back backBlank] at sameValue
  unfold pair?
  rw [isCut]
  simp [valueFree, sameKey, sameValue]

theorem pair?_eq_some_iff {piece : List Char} {key value : String} :
    pair? piece = some (key, value) ↔ IsPair piece key value :=
  ⟨isPair_of_pair?, pair?_of_isPair⟩

/-- A piece is a pair when it has exactly one equals sign. -/
theorem exists_isPair_iff {piece : List Char} :
    (∃ key value, IsPair piece key value) ↔ piece.count '=' = 1 := by
  constructor
  · rintro ⟨key, value, before, behind, rfl, beforeFree, behindFree, _⟩
    simp [List.count_eq_zero.2 beforeFree, List.count_eq_zero.2 behindFree]
  · intro once
    have member : '=' ∈ piece := by
      rw [← List.count_pos_iff, once]
      exact Nat.one_pos
    obtain ⟨before, behind, rfl, beforeFree⟩ :=
      List.eq_append_cons_of_mem member
    have behindFree : '=' ∉ behind := by
      rw [List.count_append, List.count_cons_self,
        List.count_eq_zero.2 beforeFree] at once
      exact List.count_eq_zero.1 (by omega)
    exact
      ⟨_, _, before, behind, rfl, beforeFree, behindFree,
        stripsTo_ofList_trim before, stripsTo_ofList_trim behind⟩

/-! ## Declarations -/

/-- The entry is the first among the variables that declares attributes. -/
structure FirstDeclaration
    (env front : List EnvVar) (entry : EnvVar) (back : List EnvVar) :
    Prop where
  whole : env = front ++ entry :: back
  isFirst : ∀ other ∈ front, other.name ≠ Env.resourceAttributes
  named : entry.name = Env.resourceAttributes

/-- The pieces of the text that the variables declare attributes with. -/
def DeclaredText (env : List EnvVar) (pieces : List (List Char)) : Prop :=
  ∃ front entry back text,
    FirstDeclaration env front entry back ∧ entry.value = some text ∧
      SplitsInto ',' text.toList pieces

/-- What a key has once the declared pairs are laid over the derived ones. -/
inductive Effective
    (env : List EnvVar) (derived : Attributes) (key : String) :
    Option String → Prop
  | declared {before after : List (List Char)} {piece : List Char}
      {value : String} :
      DeclaredText env (before ++ piece :: after) →
      IsPair piece key value →
      (∀ later ∈ after, ∀ other, ¬ IsPair later key other) →
      Effective env derived key (some value)
  | derived :
      (∀ pieces, DeclaredText env pieces →
        ∀ piece ∈ pieces, ∀ value, ¬ IsPair piece key value) →
      Effective env derived key (derived.get? key)

theorem exists_firstDeclaration_iff :
    (∃ front back, FirstDeclaration env front entry back) ↔
      env.find? declares = some entry := by
  rw [List.find?_eq_some_iff_append]
  constructor
  · rintro ⟨front, back, whole, isFirst, named⟩
    exact
      ⟨by simpa [declares] using named, front, back, whole, fun other member =>
        by simpa [declares] using isFirst other member⟩
  · rintro ⟨named, front, back, whole, isFirst⟩
    exact
      ⟨front, back, whole, fun other member => by
        simpa [declares] using isFirst other member,
        by simpa [declares] using named⟩

theorem FirstDeclaration.findIdx?_eq
    (first : FirstDeclaration env front entry back) :
    env.findIdx? declares = some front.length := by
  have others : front.findIdx? declares = none := by
    simpa [declares] using first.isFirst
  have named : declares entry = true := by
    simpa [declares] using first.named
  rw [first.whole, List.findIdx?_append, others, List.findIdx?_cons,
    if_pos named]
  simp

theorem findIdx?_declares_eq_some_iff {index : Nat} :
    env.findIdx? declares = some index ↔
      ∃ front entry back,
        FirstDeclaration env front entry back ∧ front.length = index := by
  constructor
  · intro isIndex
    obtain ⟨inRange, _⟩ := List.findIdx?_eq_some_iff_getElem.1 isIndex
    have found : env.find? declares = some env[index] := by
      rw [List.find?_eq_bind_findIdx?_getElem?, isIndex]
      exact List.getElem?_eq_getElem inRange
    obtain ⟨front, back, first⟩ := exists_firstDeclaration_iff.2 found
    refine ⟨front, _, back, first, ?_⟩
    exact Option.some.inj (first.findIdx?_eq.symm.trans isIndex)
  · rintro ⟨front, entry, back, first, rfl⟩
    exact first.findIdx?_eq

theorem declaredPieces_of_declaredText
    {pieces : List (List Char)} (declared : DeclaredText env pieces) :
    declaredPieces env = pieces := by
  obtain ⟨front, entry, back, text, first, hasText, splits⟩ := declared
  have found := exists_firstDeclaration_iff.1 ⟨front, back, first⟩
  rw [declaredPieces_of_find? found hasText]
  exact Text.splitsInto_iff.1 splits

/-- The pieces that merging reads are those of the declared text. -/
theorem declaredText_declaredPieces
    (notEmpty : declaredPieces env ≠ []) :
    DeclaredText env (declaredPieces env) := by
  cases isText : (env.find? declares).bind (·.value) with
  | none =>
      unfold declaredPieces at notEmpty
      rw [isText] at notEmpty
      exact absurd rfl notEmpty
  | some text =>
      obtain ⟨entry, found, hasText⟩ := Option.bind_eq_some_iff.1 isText
      obtain ⟨front, back, first⟩ := exists_firstDeclaration_iff.2 found
      refine ⟨front, entry, back, text, first, hasText, ?_⟩
      unfold declaredPieces
      rw [isText]
      exact Text.splitsInto_iff.2 rfl

/-! ## Merging -/

/-- Merging gives every key its effective value. -/
theorem effective_iff {key : String} {value? : Option String} :
    Effective env attributes key value? ↔
      (attributes.mergedWith env).attributes.get? key = value? := by
  have merged :
      (attributes.mergedWith env).attributes.get? key = _ :=
    get?_overlay attributes (declaredPieces env) key
  rw [merged]
  constructor
  · intro effective
    cases effective with
    | declared declaredText isPair later =>
        have isLast :=
          Entries.readLast_filterMap_eq_some_iff.2
            ⟨_, _, _, declaredPieces_of_declaredText declaredText,
              pair?_of_isPair isPair,
              fun other member value isOther =>
                later other member value (isPair_of_pair? isOther)⟩
        rw [isLast, Option.some_or]
    | derived noPair =>
        have absent :
            Entries.readLast key ((declaredPieces env).filterMap pair?) =
              none := by
          refine Entries.readLast_filterMap_eq_none_iff.2 ?_
          intro piece member value isPair
          have declaredText :=
            declaredText_declaredPieces (List.ne_nil_of_mem member)
          exact
            noPair _ declaredText piece member value (isPair_of_pair? isPair)
        rw [absent, Option.none_or]
  · rintro rfl
    cases isLast :
        Entries.readLast key ((declaredPieces env).filterMap pair?) with
    | none =>
        rw [Option.none_or]
        refine .derived fun pieces declaredText piece member value isPair => ?_
        rw [← declaredPieces_of_declaredText declaredText] at member
        exact
          Entries.readLast_filterMap_eq_none_iff.1 isLast piece member value
            (pair?_of_isPair isPair)
    | some value =>
        obtain ⟨before, piece, after, whole, isPair, later⟩ :=
          Entries.readLast_filterMap_eq_some_iff.1 isLast
        have notEmpty : declaredPieces env ≠ [] := by
          simp [whole]
        have declaredText := declaredText_declaredPieces notEmpty
        rw [whole] at declaredText
        rw [Option.some_or]
        exact
          .declared declaredText (isPair_of_pair? isPair)
            fun other member value isOther =>
              later other member value (pair?_of_isPair isOther)

theorem pair?_eq_none_iff {piece : List Char} :
    pair? piece = none ↔ piece.count '=' ≠ 1 := by
  rw [ne_eq, ← exists_isPair_iff, Option.eq_none_iff_forall_ne_some]
  simp [pair?_eq_some_iff]

/-- Pieces that are no pairs make no difference. -/
theorem overlay_filter (attributes : Attributes) (pieces : List (List Char)) :
    overlay attributes (pieces.filter fun piece => piece.count '=' = 1) =
      overlay attributes pieces := by
  unfold overlay
  rw [List.filterMap_filter]
  congr 1
  refine List.filterMap_congr fun piece _ => ?_
  by_cases once : piece.count '=' = 1
  · simp [once]
  · simp [once, pair?_eq_none_iff.2 once]

/-- What a container declares is laid over the derived attributes: the place
of the first declaration is told, and every key has the value of the last
declared pair with it, or else what was derived.  A piece without exactly one
equals sign makes no difference, wherever it stands. -/
theorem mergedWith_effective (attributes : Attributes) (env : List EnvVar) :
    let merged := attributes.mergedWith env
    (∀ index,
        merged.existingIndex = some index ↔
          ∃ front entry back,
            FirstDeclaration env front entry back ∧
              front.length = index) ∧
      (merged.existingIndex = none ↔
        ∀ entry ∈ env, entry.name ≠ Env.resourceAttributes) ∧
      (∀ key value?,
        Effective env attributes key value? ↔
          merged.attributes.get? key = value?) ∧
      (∀ piece : List Char,
        (∃ key value, IsPair piece key value) ↔ piece.count '=' = 1) ∧
      ∀ front entry back text other pieces others,
        FirstDeclaration env front entry back →
        entry.value = some text →
        SplitsInto ',' text.toList pieces →
        SplitsInto ',' other.toList others →
        (pieces.filter fun piece => piece.count '=' = 1) =
          (others.filter fun piece => piece.count '=' = 1) →
        (attributes.mergedWith
            (front ++ { entry with value := some other } :: back)).attributes =
          merged.attributes := by
  intro merged
  refine
    ⟨fun index => findIdx?_declares_eq_some_iff, ?_,
      fun key value? => effective_iff, fun piece => exists_isPair_iff, ?_⟩
  · change env.findIdx? declares = none ↔ _
    simp [declares]
  · intro front entry back text other pieces others first hasText splits
      otherSplits samePairs
    have isText : declaredPieces env = pieces :=
      declaredPieces_of_declaredText
        ⟨front, entry, back, text, first, hasText, splits⟩
    have isOther :
        declaredPieces
            (front ++ { entry with value := some other } :: back) =
          others :=
      declaredPieces_of_declaredText
        ⟨front, _, back, other, ⟨rfl, first.isFirst, first.named⟩, rfl,
          otherSplits⟩
    change overlay attributes _ = overlay attributes _
    rw [isText, isOther, ← overlay_filter attributes pieces, samePairs,
      overlay_filter]

example :
    let text := "a=1,,b==2, a = 3 ,c, =,"
    let merged :=
      Attributes.mergedWith (Dictionary.ofList [("b", "0")])
        [{ name := "HOME" }, EnvVar.literal Env.resourceAttributes text]
    merged.existingIndex = some 1 ∧
      merged.attributes.entries = [("", ""), ("a", "3"), ("b", "0")] := by
  decide +kernel

end PodTelemetry.Attributes

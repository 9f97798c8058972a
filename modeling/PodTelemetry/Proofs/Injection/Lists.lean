import PodTelemetry.Injection
import PodTelemetry.Proofs.Extends

/-!
# Lists that injection adds to

What is in a list stays where it is when additions are made, and an addition
that is there already is not made again.
-/

namespace PodTelemetry.Injection

open PodTelemetry.Kubernetes (EnvVar)

/-! ## Additions -/

theorem withAdditions_cons
    (env : List EnvVar) (entry : EnvVar) (additions : List EnvVar) :
    withAdditions env (entry :: additions) =
      withAdditions (if entry ∈ env then env else env ++ [entry])
        additions := rfl

/-- What is there stays where it is, and only additions come behind it, in
their order. -/
theorem exists_withAdditions_eq_append (env additions : List EnvVar) :
    ∃ added,
      withAdditions env additions = env ++ added ∧
      added.Sublist additions := by
  induction additions generalizing env with
  | nil =>
      refine ⟨[], ?_, List.Sublist.refl []⟩
      rw [List.append_nil]
      rfl
  | cons entry rest inductionHypothesis =>
      rw [withAdditions_cons]
      by_cases present : entry ∈ env
      · rw [if_pos present]
        obtain ⟨added, whole, fromRest⟩ := inductionHypothesis env
        exact ⟨added, whole, fromRest.cons entry⟩
      · rw [if_neg present]
        obtain ⟨added, whole, fromRest⟩ :=
          inductionHypothesis (env ++ [entry])
        refine ⟨entry :: added, ?_, fromRest.cons_cons entry⟩
        rw [whole, List.append_assoc, List.singleton_append]

theorem mem_withAdditions
    {env additions : List EnvVar} {entry : EnvVar}
    (wanted : entry ∈ env ∨ entry ∈ additions) :
    entry ∈ withAdditions env additions := by
  induction additions generalizing env with
  | nil =>
      rcases wanted with present | impossible
      · exact present
      · cases impossible
  | cons addition rest inductionHypothesis =>
      rw [withAdditions_cons]
      apply inductionHypothesis
      by_cases isThere : addition ∈ env
      · rw [if_pos isThere]
        rcases wanted with present | added
        · exact Or.inl present
        · rcases List.mem_cons.1 added with rfl | inRest
          · exact Or.inl isThere
          · exact Or.inr inRest
      · rw [if_neg isThere]
        rcases wanted with present | added
        · exact Or.inl (List.mem_append_left _ present)
        · rcases List.mem_cons.1 added with rfl | inRest
          · exact Or.inl (List.mem_append_right _ List.mem_cons_self)
          · exact Or.inr inRest

theorem withAdditions_of_subset
    {env additions : List EnvVar}
    (present : ∀ entry ∈ additions, entry ∈ env) :
    withAdditions env additions = env := by
  induction additions with
  | nil =>
      rfl
  | cons entry rest inductionHypothesis =>
      rw [List.forall_mem_cons] at present
      rw [withAdditions_cons, if_pos present.1]
      exact inductionHypothesis present.2

/-- Among the variables that pass a test, those additions are made that pass
it. -/
theorem filter_withAdditions
    (wanted : EnvVar → Bool) (env additions : List EnvVar) :
    (withAdditions env additions).filter wanted =
      withAdditions (env.filter wanted) (additions.filter wanted) := by
  induction additions generalizing env with
  | nil =>
      rfl
  | cons entry rest inductionHypothesis =>
      rw [withAdditions_cons, inductionHypothesis]
      cases isWanted : wanted entry with
      | false =>
          rw [List.filter_cons_of_neg (by simp [isWanted])]
          by_cases present : entry ∈ env
          · rw [if_pos present]
          · rw [if_neg present, List.filter_append,
              List.filter_singleton, isWanted, cond_false, List.append_nil]
      | true =>
          rw [List.filter_cons_of_pos isWanted, withAdditions_cons]
          by_cases present : entry ∈ env
          · rw [if_pos present,
              if_pos (List.mem_filter.2 ⟨present, isWanted⟩)]
          · have absent : entry ∉ env.filter wanted :=
              fun member => present (List.mem_filter.1 member).1
            rw [if_neg present, if_neg absent, List.filter_append,
              List.filter_singleton, isWanted, cond_true]

theorem withNamed_eq_or_append
    {α : Type} (name : α → String) (element : α) (items : List α) :
    withNamed name element items = items ∨
      withNamed name element items = items ++ [element] := by
  unfold withNamed
  split
  · exact Or.inl rfl
  · exact Or.inr rfl

theorem withNamed_of_taken
    {α : Type} {name : α → String} {element : α} {items : List α}
    (taken : ∃ item ∈ items, name item = name element) :
    withNamed name element items = items := by
  unfold withNamed
  rw [if_pos (by simpa using taken)]

theorem exists_mem_withNamed
    {α : Type} (name : α → String) (element : α) (items : List α) :
    ∃ item ∈ withNamed name element items, name item = name element := by
  unfold withNamed
  by_cases taken : items.any fun other => name other = name element
  · rw [if_pos taken]
    simpa using taken
  · rw [if_neg taken]
    exact ⟨element, by simp, rfl⟩

/-- A second element of the same name finds the name taken. -/
theorem withNamed_withNamed_of_name_eq
    {α : Type} {name : α → String} {element other : α}
    (sameName : name other = name element) (items : List α) :
    withNamed name other (withNamed name element items) =
      withNamed name element items := by
  refine withNamed_of_taken ?_
  rw [sameName]
  exact exists_mem_withNamed name element items

theorem withNamed_withNamed
    {α : Type} (name : α → String) (element : α) (items : List α) :
    withNamed name element (withNamed name element items) =
      withNamed name element items :=
  withNamed_withNamed_of_name_eq rfl items

/-- An element of the name with some property is there afterwards if one was
there before, or if the name was free and the new element has the property. -/
theorem exists_mem_withNamed_iff
    {α : Type} (name : α → String) (element : α) (items : List α)
    {good : α → Prop} :
    (∃ item ∈ withNamed name element items,
        name item = name element ∧ good item) ↔
      (∃ item ∈ items, name item = name element ∧ good item) ∨
        (∀ item ∈ items, name item ≠ name element) ∧ good element := by
  unfold withNamed
  by_cases taken : items.any fun other => name other = name element
  · rw [if_pos taken]
    have notFree : ¬ ∀ item ∈ items, name item ≠ name element := by
      simpa using taken
    simp [notFree]
  · rw [if_neg taken]
    have free : ∀ item ∈ items, name item ≠ name element := by
      simpa using taken
    constructor
    · rintro ⟨item, member, named, isGood⟩
      rcases List.mem_append.1 member with before | isNew
      · exact absurd named (free item before)
      · rw [List.mem_singleton.1 isNew] at isGood
        exact Or.inr ⟨free, isGood⟩
    · rintro (⟨item, before, named, _⟩ | ⟨_, isGood⟩)
      · exact absurd named (free item before)
      · exact ⟨element, by simp, rfl, isGood⟩

theorem grown_withNamed
    {α : Type} {fresh : α → Prop} (name : α → String) {element : α}
    (isFresh : fresh element) (items : Option (List α)) :
    Grown Eq fresh items (some (withNamed name element (items.getD []))) := by
  apply Grown.of_extends
  rcases withNamed_eq_or_append name element (items.getD []) with
    same | added
  · rw [same]
    exact Extends.refl (fun _ => rfl) _
  · rw [added]
    exact Extends.append (fun _ => rfl) _ (by simpa using isFresh)

/-! ## Entries found by a test -/

/-- Rewriting an entry leaves the first entry of another name as it is. -/
theorem find?_set_of_neg
    {α : Type} {wanted : α → Bool} {items : List α} {index : Nat}
    {old new : α} (found : items[index]? = some old)
    (oldOther : wanted old = false) (newOther : wanted new = false) :
    (items.set index new).find? wanted = items.find? wanted := by
  induction items generalizing index with
  | nil =>
      rfl
  | cons item rest inductionHypothesis =>
      cases index with
      | zero =>
          have same : item = old := by simpa using found
          subst same
          simp [oldOther, newOther]
      | succ index =>
          have later := inductionHypothesis (by simpa using found)
          simp only [List.set_cons_succ, List.find?_cons, later]

/-- The first entry of another name stays in its place, too. -/
theorem findIdx?_set_of_neg
    {α : Type} {wanted : α → Bool} {items : List α} {index : Nat}
    {old new : α} (found : items[index]? = some old)
    (oldOther : wanted old = false) (newOther : wanted new = false) :
    (items.set index new).findIdx? wanted = items.findIdx? wanted := by
  induction items generalizing index with
  | nil =>
      rfl
  | cons item rest inductionHypothesis =>
      cases index with
      | zero =>
          have same : item = old := by simpa using found
          subst same
          simp [List.findIdx?_cons, oldOther, newOther]
      | succ index =>
          have later := inductionHypothesis (by simpa using found)
          simp only [List.set_cons_succ, List.findIdx?_cons, later]

theorem filter_set_of_neg
    {α : Type} {wanted : α → Bool} {items : List α} {index : Nat}
    {old new : α} (found : items[index]? = some old)
    (oldOther : wanted old = false) (newOther : wanted new = false) :
    (items.set index new).filter wanted = items.filter wanted := by
  induction items generalizing index with
  | nil =>
      rfl
  | cons item rest inductionHypothesis =>
      cases index with
      | zero =>
          have same : item = old := by simpa using found
          subst same
          simp [oldOther, newOther]
      | succ index =>
          have later := inductionHypothesis (by simpa using found)
          simp only [List.set_cons_succ, List.filter_cons, later]

/-- Rewriting the first entry of a name makes the new entry the first. -/
theorem find?_set_findIdx?
    {α : Type} {wanted : α → Bool} {items : List α} {index : Nat} {new : α}
    (found : items.findIdx? wanted = some index) (isWanted : wanted new) :
    (items.set index new).find? wanted = some new := by
  induction items generalizing index with
  | nil =>
      simp at found
  | cons item rest inductionHypothesis =>
      rw [List.findIdx?_cons] at found
      by_cases atHead : wanted item
      · simp only [atHead, if_true, Option.some.injEq] at found
        subst found
        simp [isWanted]
      · simp only [atHead] at found
        obtain ⟨before, inRest, rfl⟩ := Option.map_eq_some_iff.1 found
        simpa [atHead] using inductionHypothesis inRest

/-- What is found first, with its place. -/
theorem exists_findIdx?_of_find?
    {α : Type} {wanted : α → Bool} {items : List α} {item : α}
    (found : items.find? wanted = some item) :
    ∃ index, items.findIdx? wanted = some index ∧
      items[index]? = some item := by
  rw [List.find?_eq_bind_findIdx?_getElem?] at found
  exact Option.bind_eq_some_iff.1 found

/-- What is found first, with what stands before it and behind it. -/
theorem exists_append_of_findIdx?
    {α : Type} {wanted : α → Bool} {items : List α} {index : Nat} {item : α}
    (isIndex : items.findIdx? wanted = some index)
    (isItem : items[index]? = some item) :
    ∃ front back,
      items = front ++ item :: back ∧
      (∀ other ∈ front, wanted other = false) ∧
      ∀ new, items.set index new = front ++ new :: back := by
  induction items generalizing index with
  | nil =>
      simp at isIndex
  | cons head rest inductionHypothesis =>
      rw [List.findIdx?_cons] at isIndex
      by_cases atHead : wanted head
      · simp only [atHead, if_true, Option.some.injEq] at isIndex
        subst isIndex
        have same : head = item := by simpa using isItem
        subst same
        exact ⟨[], rest, rfl, nofun, fun _ => rfl⟩
      · simp only [atHead] at isIndex
        obtain ⟨before, inRest, rfl⟩ := Option.map_eq_some_iff.1 isIndex
        obtain ⟨front, back, whole, others, rewritten⟩ :=
          inductionHypothesis inRest (by simpa using isItem)
        refine ⟨head :: front, back, by rw [whole, List.cons_append], ?_, ?_⟩
        · rw [List.forall_mem_cons]
          exact ⟨by simpa using atHead, others⟩
        · intro new
          rw [List.set_cons_succ, rewritten, List.cons_append]

theorem map_set_of_getElem?
    {α β : Type} {f : α → β} {items : List α} {index : Nat} {old new : α}
    (found : items[index]? = some old) (same : f new = f old) :
    (items.set index new).map f = items.map f := by
  obtain ⟨inRange, isOld⟩ := List.getElem?_eq_some_iff.1 found
  rw [List.map_set, same, ← isOld, ← List.getElem_map f, List.set_getElem_self]
  rw [List.length_map]
  exact inRange

theorem findIdx?_eq_none_of_find?
    {α : Type} {wanted : α → Bool} {items : List α}
    (absent : items.find? wanted = none) :
    items.findIdx? wanted = none := by
  rw [List.findIdx?_eq_none_iff]
  simpa [List.find?_eq_none] using absent

theorem find?_eq_some_of_only
    {α : Type} {wanted : α → Bool} {items : List α} {item : α}
    (member : item ∈ items) (isWanted : wanted item)
    (only : ∀ other ∈ items, wanted other → other = item) :
    items.find? wanted = some item := by
  cases found : items.find? wanted with
  | none =>
      exact absurd isWanted (List.find?_eq_none.1 found item member)
  | some other =>
      have isItem :=
        only other (List.mem_of_find?_eq_some found)
          (List.find?_some found)
      rw [isItem]

theorem set_of_getElem?
    {α : Type} {items : List α} {index : Nat} {item : α}
    (found : items[index]? = some item) : items.set index item = items := by
  obtain ⟨inRange, isItem⟩ := List.getElem?_eq_some_iff.1 found
  rw [← isItem, List.set_getElem_self]

end PodTelemetry.Injection

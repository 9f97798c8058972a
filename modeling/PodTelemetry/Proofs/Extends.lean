import Mathlib.Data.List.Basic

/-!
# Lists that are added to

A list extends another when the items of the first stay in their places,
changed at most as a relation allows, and further items come behind them.
-/

namespace PodTelemetry

variable {α : Type} {changes : α → α → Prop} {fresh : α → Prop}

/-- The items change as they may, and fresh ones come at the end. -/
inductive Extends (changes : α → α → Prop) (fresh : α → Prop) :
    (old new : List α) → Prop
  | added {items : List α} (areFresh : ∀ item ∈ items, fresh item) :
      Extends changes fresh [] items
  | changed {old new : α} {olds news : List α}
      (first : changes old new) (others : Extends changes fresh olds news) :
      Extends changes fresh (old :: olds) (new :: news)

namespace Extends

theorem append
    (reflexive : ∀ item, changes item item)
    (olds : List α) {items : List α} (areFresh : ∀ item ∈ items, fresh item) :
    Extends changes fresh olds (olds ++ items) := by
  induction olds with
  | nil =>
      exact .added areFresh
  | cons old rest inductionHypothesis =>
      exact .changed (reflexive old) inductionHypothesis

theorem refl
    (reflexive : ∀ item, changes item item) (olds : List α) :
    Extends changes fresh olds olds := by
  have extended : Extends changes fresh olds (olds ++ []) :=
    append reflexive olds nofun
  rw [List.append_nil] at extended
  exact extended

theorem set
    (reflexive : ∀ item, changes item item)
    {olds : List α} {index : Nat} {old new : α}
    (found : olds[index]? = some old) (change : changes old new) :
    Extends changes fresh olds (olds.set index new) := by
  induction olds generalizing index with
  | nil =>
      simp at found
  | cons first rest inductionHypothesis =>
      cases index with
      | zero =>
          have same : first = old := by simpa using found
          subst same
          exact .changed change (refl reflexive rest)
      | succ index =>
          exact
            .changed (reflexive first)
              (inductionHypothesis (by simpa using found))

theorem all_fresh
    (stays : ∀ old new, changes old new → fresh old → fresh new)
    {olds news : List α} (extended : Extends changes fresh olds news)
    (areFresh : ∀ item ∈ olds, fresh item) :
    ∀ item ∈ news, fresh item := by
  induction extended with
  | added newFresh =>
      exact newFresh
  | changed first _ inductionHypothesis =>
      rw [List.forall_mem_cons] at areFresh ⊢
      exact ⟨stays _ _ first areFresh.1, inductionHypothesis areFresh.2⟩

theorem mono
    {allowed : α → Prop} (allows : ∀ item, fresh item → allowed item)
    {olds news : List α} (extended : Extends changes fresh olds news) :
    Extends changes allowed olds news := by
  induction extended with
  | added areFresh =>
      exact .added fun item member => allows item (areFresh item member)
  | changed first _ inductionHypothesis =>
      exact .changed first inductionHypothesis

theorem trans
    (transitive :
      ∀ first second third,
        changes first second → changes second third → changes first third)
    (stays : ∀ old new, changes old new → fresh old → fresh new)
    {first second third : List α}
    (earlier : Extends changes fresh first second)
    (later : Extends changes fresh second third) :
    Extends changes fresh first third := by
  induction earlier generalizing third with
  | added areFresh =>
      exact .added (later.all_fresh stays areFresh)
  | changed change _ inductionHypothesis =>
      cases later with
      | changed next others =>
          exact
            .changed (transitive _ _ _ change next)
              (inductionHypothesis others)

end Extends

/-- A list that may be missing is added to; a missing one counts as empty. -/
def Grown (changes : α → α → Prop) (fresh : α → Prop)
    (old new : Option (List α)) : Prop :=
  new = old ∨
    ∃ items, new = some items ∧ Extends changes fresh (old.getD []) items

namespace Grown

theorem refl (old : Option (List α)) : Grown changes fresh old old :=
  Or.inl rfl

theorem of_extends
    {old : Option (List α)} {items : List α}
    (extended : Extends changes fresh (old.getD []) items) :
    Grown changes fresh old (some items) :=
  Or.inr ⟨items, rfl, extended⟩

theorem trans
    (transitive :
      ∀ first second third,
        changes first second → changes second third → changes first third)
    (stays : ∀ old new, changes old new → fresh old → fresh new)
    {first second third : Option (List α)}
    (earlier : Grown changes fresh first second)
    (later : Grown changes fresh second third) :
    Grown changes fresh first third := by
  rcases later with rfl | ⟨items, rfl, extended⟩
  · exact earlier
  · rcases earlier with rfl | ⟨middle, rfl, before⟩
    · exact of_extends extended
    · exact of_extends (before.trans transitive stays extended)

/-- Items that stay as they are, with fresh ones behind them. -/
theorem trans_of_eq
    {first second third : Option (List α)}
    (earlier : Grown Eq fresh first second)
    (later : Grown Eq fresh second third) :
    Grown Eq fresh first third := by
  apply earlier.trans _ _ later
  · intro _ _ _ before after
    exact before.trans after
  · intro _ _ same isFresh
    exact same ▸ isFresh

end Grown

end PodTelemetry

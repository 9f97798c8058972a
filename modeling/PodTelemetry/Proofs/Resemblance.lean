import PodTelemetry.Proofs.Procedure

/-!
# Procedures that do alike in clusters that answer alike

Two clusters answer a lookup alike when both give the same object or both fail,
for whatever reason.  Procedures resemble each other when they make the same
lookups and go on alike after answers of that sort, so that what they come to
in the one cluster can be compared with what they come to in the other.
-/

namespace PodTelemetry.Procedure

variable {α β : Type}

/-- The same lookups in the same order, and results that are related; events
may differ. -/
inductive Resembles (same : α → β → Prop) :
    Procedure α → Procedure β → Prop
  | done {first : α} {second : β} (related : same first second) :
      Resembles same (.done first) (.done second)
  | emit {left : Procedure α} {right : Procedure β}
      (event other : Event) (rest : Resembles same left right) :
      Resembles same (.emit event left) (.emit other right)
  | ask (lookup : Lookup)
      {left : Except Error lookup.Answer → Procedure α}
      {right : Except Error lookup.Answer → Procedure β}
      (found :
        ∀ object, Resembles same (left (.ok object)) (right (.ok object)))
      (failed :
        ∀ error other,
          Resembles same (left (.error error)) (right (.error other))) :
      Resembles same (.ask lookup left) (.ask lookup right)

theorem Resembles.bind
    {γ δ : Type} {between : α → β → Prop} {same : γ → δ → Prop}
    {left : Procedure α} {right : Procedure β}
    (resembles : Resembles between left right)
    {leftNext : α → Procedure γ} {rightNext : β → Procedure δ}
    (next :
      ∀ first second, between first second →
        Resembles same (leftNext first) (rightNext second)) :
    Resembles same (left >>= leftNext) (right >>= rightNext) := by
  change Resembles same (left.bind leftNext) (right.bind rightNext)
  induction resembles with
  | done related =>
      exact next _ _ related
  | emit event other _ inductionHypothesis =>
      exact .emit event other inductionHypothesis
  | ask lookup _ _ foundHypothesis failedHypothesis =>
      exact .ask lookup foundHypothesis failedHypothesis

theorem Resembles.log_bind
    {same : α → β → Prop} (event other : Event)
    {leftNext : Unit → Procedure α} {rightNext : Unit → Procedure β}
    (next : Resembles same (leftNext ()) (rightNext ())) :
    Resembles same (log event >>= leftNext) (log other >>= rightNext) :=
  .emit event other next

theorem eq_ok_of_toOption
    {answer : Except Error α} {object : α}
    (given : answer.toOption = some object) :
    answer = .ok object := by
  cases answer with
  | ok found =>
      exact congrArg Except.ok (Option.some.inj given)
  | error _ =>
      cases given

theorem eq_error_of_toOption
    {answer : Except Error α}
    (failed : answer.toOption = none) :
    ∃ error, answer = .error error := by
  cases answer with
  | ok _ =>
      cases failed
  | error error =>
      exact ⟨error, rfl⟩

/-- Both give the same object, or both fail. -/
def Alike {lookup : Lookup} (first second : Except Error lookup.Answer) :
    Prop :=
  first.toOption = second.toOption

/-- Where clusters answer alike what is asked in the one, the results are
related and the lookups are the same in the other. -/
theorem Resembles.run
    {same : α → β → Prop} {left : Procedure α} {right : Procedure β}
    (resembles : Resembles same left right) {first second : Cluster}
    (alike :
      ∀ lookup ∈ (left.run first).lookups,
        Alike (first lookup) (second lookup)) :
    same (left.run first).result (right.run second).result ∧
      (right.run second).lookups = (left.run first).lookups := by
  induction resembles with
  | done related =>
      exact ⟨related, rfl⟩
  | emit event other _ inductionHypothesis =>
      exact inductionHypothesis alike
  | ask lookup _ _ foundHypothesis failedHypothesis =>
      obtain ⟨now, later⟩ := List.forall_mem_cons.1 alike
      simp only [Procedure.run]
      cases inFirst : first lookup with
      | ok object =>
          have inSecond : second lookup = .ok object := by
            rw [Alike, inFirst] at now
            exact eq_ok_of_toOption now.symm
          rw [inFirst] at later
          rw [inSecond]
          obtain ⟨related, lookups⟩ := foundHypothesis object later
          exact ⟨related, congrArg (lookup :: ·) lookups⟩
      | error error =>
          obtain ⟨other, inSecond⟩ :
              ∃ other, second lookup = .error other := by
            rw [Alike, inFirst] at now
            exact eq_error_of_toOption now.symm
          rw [inFirst] at later
          rw [inSecond]
          obtain ⟨related, lookups⟩ := failedHypothesis error other later
          exact ⟨related, congrArg (lookup :: ·) lookups⟩

end PodTelemetry.Procedure

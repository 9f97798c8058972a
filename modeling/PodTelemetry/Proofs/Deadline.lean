import PodTelemetry.Proofs.Procedure

/-!
# Runs within a time limit

What decides is the time that the lookups of the whole run take together.  If
the limit covers it, the run is the one without a limit; if not, there is no
result, and the lookups stop with the first one that goes beyond the limit.
-/

namespace PodTelemetry.Procedure

variable {α : Type} {cluster : Cluster} {delay : Lookup → Nat} {limit : Nat}

/-- How long lookups take one after the other. -/
def timeOf (delay : Lookup → Nat) : List Lookup → Nat
  | [] => 0
  | lookup :: later => delay lookup + timeOf delay later

@[simp]
theorem timeOf_cons (lookup : Lookup) (later : List Lookup) :
    timeOf delay (lookup :: later) = delay lookup + timeOf delay later := rfl

theorem timeOf_immediate (lookups : List Lookup) :
    timeOf (fun _ => 0) lookups = 0 := by
  induction lookups with
  | nil =>
      rfl
  | cons lookup later inductionHypothesis =>
      rw [timeOf_cons, inductionHypothesis]

theorem runWithin_of_timeOf_le
    {procedure : Procedure α}
    (inTime : timeOf delay (procedure.run cluster).lookups ≤ limit) :
    procedure.runWithin cluster delay limit =
      { procedure.run cluster with
        result := some (procedure.run cluster).result } := by
  induction procedure generalizing limit with
  | done result =>
      rfl
  | emit event rest inductionHypothesis =>
      have later := inductionHypothesis inTime
      simp only [runWithin, run, later]
  | ask lookup rest inductionHypothesis =>
      simp only [run, timeOf_cons] at inTime
      have notLate : ¬ limit < delay lookup := by omega
      have remaining :
          timeOf delay ((rest (cluster lookup)).run cluster).lookups ≤
            limit - delay lookup := by
        omega
      have later := inductionHypothesis (cluster lookup) remaining
      rw [runWithin, if_neg notLate]
      simp only [run, later]

theorem result_runWithin_of_lt_timeOf
    {procedure : Procedure α}
    (late : limit < timeOf delay (procedure.run cluster).lookups) :
    (procedure.runWithin cluster delay limit).result = none := by
  induction procedure generalizing limit with
  | done result =>
      exact absurd late (Nat.not_lt_zero limit)
  | emit event rest inductionHypothesis =>
      exact inductionHypothesis late
  | ask lookup rest inductionHypothesis =>
      simp only [run, timeOf_cons] at late
      rw [runWithin]
      by_cases first : limit < delay lookup
      · rw [if_pos first]
      · rw [if_neg first]
        exact inductionHypothesis (cluster lookup) (by omega)

/-! ## Runs that are cut short -/

/-- The shortest part at the start of the lookups that takes longer than the
limit. -/
structure ShortestBeyond
    (delay : Lookup → Nat) (limit : Nat) (lookups made : List Lookup) :
    Prop where
  starts : made <+: lookups
  beyond : limit < timeOf delay made
  shortest :
    ∀ start, start <+: lookups → limit < timeOf delay start →
      made <+: start

theorem ShortestBeyond.first
    {lookup : Lookup} (late : limit < delay lookup) (later : List Lookup) :
    ShortestBeyond delay limit (lookup :: later) [lookup] where
  starts := List.prefix_append [lookup] later
  beyond := late
  shortest start starts beyond := by
    rcases List.prefix_cons_iff.1 starts with rfl | ⟨rest, rfl, _⟩
    · exact absurd beyond (Nat.not_lt_zero limit)
    · exact List.prefix_append [lookup] rest

theorem ShortestBeyond.cons
    {lookup : Lookup} (soon : delay lookup ≤ limit)
    {later made : List Lookup}
    (cut : ShortestBeyond delay (limit - delay lookup) later made) :
    ShortestBeyond delay limit (lookup :: later) (lookup :: made) where
  starts := List.cons_prefix_cons.2 ⟨rfl, cut.starts⟩
  beyond := by
    have beyond := cut.beyond
    rw [timeOf_cons]
    omega
  shortest start starts beyond := by
    rcases List.prefix_cons_iff.1 starts with rfl | ⟨rest, rfl, restStarts⟩
    · exact absurd beyond (Nat.not_lt_zero limit)
    · rw [timeOf_cons] at beyond
      exact
        List.cons_prefix_cons.2
          ⟨rfl, cut.shortest rest restStarts (by omega)⟩

theorem shortestBeyond_runWithin
    {procedure : Procedure α}
    (late : limit < timeOf delay (procedure.run cluster).lookups) :
    ShortestBeyond delay limit (procedure.run cluster).lookups
      (procedure.runWithin cluster delay limit).lookups := by
  induction procedure generalizing limit with
  | done result =>
      exact absurd late (Nat.not_lt_zero limit)
  | emit event rest inductionHypothesis =>
      exact inductionHypothesis late
  | ask lookup rest inductionHypothesis =>
      rw [runWithin]
      by_cases first : limit < delay lookup
      · rw [if_pos first]
        exact .first first _
      · rw [if_neg first]
        simp only [run, timeOf_cons] at late
        exact
          .cons (Nat.le_of_not_lt first)
            (inductionHypothesis (cluster lookup) (by omega))

theorem events_runWithin_starts
    (procedure : Procedure α) (cluster : Cluster) (delay : Lookup → Nat)
    (limit : Nat) :
    (procedure.runWithin cluster delay limit).events <+:
      (procedure.run cluster).events := by
  induction procedure generalizing limit with
  | done result =>
      exact List.prefix_rfl
  | emit event rest inductionHypothesis =>
      exact List.cons_prefix_cons.2 ⟨rfl, inductionHypothesis limit⟩
  | ask lookup rest inductionHypothesis =>
      rw [runWithin]
      by_cases first : limit < delay lookup
      · rw [if_pos first]
        exact List.nil_prefix
      · rw [if_neg first]
        exact inductionHypothesis (cluster lookup) (limit - delay lookup)

end PodTelemetry.Procedure

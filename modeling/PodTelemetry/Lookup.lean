import PodTelemetry.Agent.Spec
import PodTelemetry.Error
import PodTelemetry.Event

namespace PodTelemetry

/-! ## Procedures that look things up in the cluster

What is done for a pod depends on what the cluster answers. A `Procedure` says
which lookup comes next and how its answer is used; running it against a
cluster gives its result together with the lookups made and the events logged,
and running it within a time limit may cut it short. -/

/-- A question to the cluster. -/
inductive Lookup where
  | findNamespace (name : String)
  | listAgents
  | findReplicaSet (inNamespace name : String)
  deriving DecidableEq, Repr

/-- What an answer consists of. -/
abbrev Lookup.Answer : Lookup → Type
  | .findNamespace _ => Kubernetes.Namespace
  | .listAgents => List Agent
  | .findReplicaSet _ _ => Kubernetes.ReplicaSet

/-- The state of a cluster: its answer to every lookup. -/
abbrev Cluster := (lookup : Lookup) → Except Error lookup.Answer

inductive Procedure (α : Type) where
  | done (result : α)
  | emit (event : Event) (rest : Procedure α)
  | ask (lookup : Lookup) (rest : Except Error lookup.Answer → Procedure α)

namespace Procedure

variable {α β : Type}

def bind : Procedure α → (α → Procedure β) → Procedure β
  | .done result, next => next result
  | .emit event rest, next => .emit event (rest.bind next)
  | .ask lookup rest, next => .ask lookup fun answer => (rest answer).bind next

instance : Monad Procedure where
  pure := .done
  bind := Procedure.bind

def log (event : Event) : Procedure Unit := .emit event (.done ())

def logAll (events : List Event) : Procedure Unit := events.forM log

def namespaceCalled (name : String) :
    Procedure (Except Error Kubernetes.Namespace) :=
  .ask (.findNamespace name) .done

def agents : Procedure (Except Error (List Agent)) := .ask .listAgents .done

def replicaSetCalled (inNamespace name : String) :
    Procedure (Except Error Kubernetes.ReplicaSet) :=
  .ask (.findReplicaSet inNamespace name) .done

/-- A finished run. -/
structure Run (α : Type) where
  result : α
  lookups : List Lookup := []
  events : List Event := []
  deriving DecidableEq, Repr

/-- Runs a procedure to its end. -/
def run (cluster : Cluster) : Procedure α → Run α
  | .done result => { result }
  | .emit event rest =>
      let later := rest.run cluster
      { later with events := event :: later.events }
  | .ask lookup rest =>
      let later := (rest (cluster lookup)).run cluster
      { later with lookups := lookup :: later.lookups }

/-- Runs a procedure for so many milliseconds at most, when a lookup takes its
delay before it is answered and all else takes no time. There is no result when
a lookup would go beyond the limit. -/
def runWithin (cluster : Cluster) (delay : Lookup → Nat) :
    (limit : Nat) → Procedure α → Run (Option α)
  | _, .done result => { result := some result }
  | limit, .emit event rest =>
      let later := rest.runWithin cluster delay limit
      { later with events := event :: later.events }
  | limit, .ask lookup rest =>
      if limit < delay lookup then { result := none, lookups := [lookup] }
      else
        let later :=
          (rest (cluster lookup)).runWithin cluster delay
            (limit - delay lookup)
        { later with lookups := lookup :: later.lookups }

@[simp] theorem bind_done (result : α) (next : α → Procedure β) :
    (Procedure.done result).bind next = next result := rfl

/-- Two procedures in a row run one after the other. -/
theorem run_bind (cluster : Cluster) (procedure : Procedure α)
    (next : α → Procedure β) :
    (procedure.bind next).run cluster =
      let first := procedure.run cluster
      let second := (next first.result).run cluster
      { result := second.result
        lookups := first.lookups ++ second.lookups
        events := first.events ++ second.events } := by
  induction procedure with
  | done result => rfl
  | emit event rest inductionHypothesis =>
      simp only [bind, run, inductionHypothesis, List.cons_append]
  | ask lookup rest inductionHypothesis =>
      simp only [bind, run, inductionHypothesis, List.cons_append]

end Procedure

end PodTelemetry

import PodTelemetry.Json.Attempt
import PodTelemetry.Mutation

namespace PodTelemetry

open Kubernetes (Pod)

/-! ## A pod through several admissions

Between admissions the pod is kept as JSON, with members that no type here
knows. An admission patches that JSON; the pod, the cluster, the topology and
the namespace may change between two of them. -/

structure Session where
  inNamespace : String
  pod : Json
  cluster : Cluster
  operator : OperatorConfig := {}

/-- Why a pod was not admitted. -/
inductive SessionFault where
  | undecodable (error : Json.DecodeError)
  | turnedDown (error : Error)
  deriving DecidableEq, Repr

namespace Session

/-- The pod after a mutation. -/
def afterMutation (pod : Json) : Mutation → Json
  | .unchanged => pod
  | .patched patch => (patch.carriedOut? pod).getD pod

/-- Decides about the pod as it is now and carries the patch out on it. -/
def decide (session : Session) :
    Procedure.Run (Except SessionFault Mutation) × Session :=
  match Pod.ofJson session.pod with
  | .error error => ({ result := .error (.undecodable error) }, session)
  | .ok pod =>
      let run :=
        (Mutation.decide session.operator session.inNamespace pod).run
          session.cluster
      match run.result with
      | .error error =>
          ({ run with result := .error (.turnedDown error) }, session)
      | .ok mutation =>
          ({ run with result := .ok mutation },
            { session with pod := afterMutation session.pod mutation })

/-- Edits the pod, and tells whether the patch was carried out. -/
def edit (session : Session) (patch : Json.Patch) : Session × Bool :=
  let (pod, done) := patch.attempt session.pod
  ({ session with pod }, done)

end Session

end PodTelemetry

import PodTelemetry.Agent.Codec
import PodTelemetry.Kubernetes.Objects
import PodTelemetry.Lookup

namespace PodTelemetry.Cluster

/-! ## Clusters given by their objects -/

/-- What a cluster holds at one place: an object, or a refusal to show it. -/
inductive Holding where
  | object (json : Json)
  | refusal (error : Error)
  deriving DecidableEq, Repr

/-- The objects of a cluster. Replica sets are filed under namespace and name
with a slash between. -/
structure Description where
  namespaces : Dictionary Holding := Dictionary.empty
  replicaSets : Dictionary Holding := Dictionary.empty
  agents : Holding := .object (.array [])
  deriving DecidableEq, Repr

namespace Description

def replicaSetKey (inNamespace name : String) : String :=
  inNamespace ++ "/" ++ name

def notFound (resource name : String) : Error :=
  ⟨.configuration, s!"{resource} \"{name}\" not found"⟩

/-- Reads what is held. -/
def readHolding {α : Type} (decoder : Json.Decoder α) :
    Holding → Except Error α
  | .object json =>
      (decoder json).mapError fun fault => ⟨.decode, fault.message⟩
  | .refusal error => .error error

/-- Answers straight from the objects. -/
def cluster (description : Description) : Cluster
  | .findNamespace name =>
      match description.namespaces.get? name with
      | some held => readHolding Kubernetes.Namespace.ofJson held
      | none => .error (notFound "namespaces" name)
  | .listAgents =>
      readHolding (Json.Decoder.list Agent.ofJson) description.agents
  | .findReplicaSet inNamespace name =>
      match description.replicaSets.get? (replicaSetKey inNamespace name) with
      | some held => readHolding Kubernetes.ReplicaSet.ofJson held
      | none => .error (notFound "replicasets.apps" name)

end Description

end PodTelemetry.Cluster

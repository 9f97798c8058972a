import PodTelemetry.Attributes.Basic
import PodTelemetry.Kubernetes.Pod
import PodTelemetry.Lookup

namespace PodTelemetry

open Kubernetes (Namespace OwnerReference Pod)

/-! ## Attributes derived from a pod, its namespace and its owners -/

/-- The kinds of owners that show in the attributes. -/
inductive OwnerKind where
  | replicaSet | deployment | statefulSet | daemonSet | job | cronJob
  deriving DecidableEq, Repr

namespace OwnerKind

def all : List OwnerKind :=
  [.replicaSet, .deployment, .statefulSet, .daemonSet, .job, .cronJob]

/-- The kind in small letters. -/
def name : OwnerKind → String
  | .replicaSet => "replicaset"
  | .deployment => "deployment"
  | .statefulSet => "statefulset"
  | .daemonSet => "daemonset"
  | .job => "job"
  | .cronJob => "cronjob"

/-- A kind is known by its name, however its letters A to Z are written. -/
def ofText? (text : String) : Option OwnerKind :=
  all.find? fun kind => kind.name = Text.lowered text

def nameKey (kind : OwnerKind) : String := "k8s." ++ kind.name ++ ".name"

def uidKey (kind : OwnerKind) : String := "k8s." ++ kind.name ++ ".uid"

end OwnerKind

namespace Attributes

def namespaceNameKey : String := "k8s.namespace.name"

def podNameKey : String := "k8s.pod.name"

def podUidKey : String := "k8s.pod.uid"

def nodeNameKey : String := "k8s.node.name"

def containerNameKey : String := "k8s.container.name"

/-- How many hops along the owners are followed. -/
def ownerDepth : Nat := 5

/-- What the pod itself and its namespace say; a field that is not known yet is
empty. -/
def fieldsOf (inNamespace : String) (pod : Pod) : List (String × String) :=
  [ (namespaceNameKey, inNamespace),
    (podNameKey, pod.metadata.name.getD ""),
    (podUidKey, pod.metadata.uid.getD "") ] ++
  match pod.spec with
  | none => []
  | some spec =>
      (nodeNameKey, spec.nodeName.getD "") ::
        match spec.containers.head? with
        | none => []
        | some container => [(containerNameKey, container.name)]

/-- The attributes of the pod itself and of its namespace. -/
def ofPod (inNamespace : String) (pod : Pod) : Attributes :=
  (fieldsOf inNamespace pod).foldl
    (fun done field => Attributes.put done field.1 field.2)
    Dictionary.empty

/-- Name and uid of an owner of the kind. -/
def putOwner (attributes : Attributes) (kind : OwnerKind)
    (owner : OwnerReference) : Attributes :=
  put (put attributes kind.nameKey owner.name) kind.uidKey owner.uid

def unreadableOwner (inNamespace : String) (owner : OwnerReference)
    (error : Error) : Event where
  level := .warn
  message := "Failed to look up ReplicaSet owner, continuing without it"
  fields :=
    [ ("namespace", .text inNamespace), ("replicaset", .text owner.name),
      ("error", .text error.text) ]

def ignoredOwner (owner : OwnerReference) : Event where
  level := .debug
  message := "Ignoring owner kind"
  fields :=
    [("kind", .text (Text.lowered owner.kind)), ("name", .text owner.name)]

def chainTooLong (inNamespace : String) : Event where
  level := .warn
  message := "Ownership chain exceeds depth limit, ignoring remaining owners"
  fields :=
    [("namespace", .text inNamespace), ("max_depth", .count ownerDepth)]

/-- One hop: records the owners, and gathers the owners of the replica sets
among them. A replica set that cannot be read has none. -/
def hop (inNamespace : String) (attributes : Attributes)
    (above : List OwnerReference) :
    List OwnerReference → Procedure (Attributes × List OwnerReference)
  | [] => .done (attributes, above)
  | owner :: rest =>
      match OwnerKind.ofText? owner.kind with
      | some .replicaSet => do
          let attributes := putOwner attributes .replicaSet owner
          match ← Procedure.replicaSetCalled inNamespace owner.name with
          | .ok replicaSet =>
              hop inNamespace attributes (above ++ replicaSet.metadata.owners)
                rest
          | .error error => do
              Procedure.log (unreadableOwner inNamespace owner error)
              hop inNamespace attributes above rest
      | some kind =>
          hop inNamespace (putOwner attributes kind owner) above rest
      | none => do
          Procedure.log (ignoredOwner owner)
          hop inNamespace attributes above rest

/-- Follows the owners for so many hops, all owners of a hop before the
next. -/
def followOwners (inNamespace : String) :
    (hops : Nat) → Attributes → List OwnerReference → Procedure Attributes
  | _, attributes, [] => .done attributes
  | 0, attributes, _ :: _ => do
      Procedure.log (chainTooLong inNamespace)
      return attributes
  | hops + 1, attributes, owner :: others => do
      let (attributes, above) ← hop inNamespace attributes [] (owner :: others)
      followOwners inNamespace hops attributes above

/-- Attributes of a pod that is about to be admitted. -/
def derive (inNamespace : Namespace) (pod : Pod) : Procedure Attributes :=
  let name := inNamespace.metadata.name.getD ""
  followOwners name ownerDepth (ofPod name pod) pod.metadata.owners

end Attributes

end PodTelemetry

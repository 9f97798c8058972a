import PodTelemetry.Kubernetes.Pod

namespace PodTelemetry.Kubernetes

open PodTelemetry.Json (Decoder Fields Shape)

/-! ## Namespaces and replica sets

Their metadata is read; what they ask for and what is observed of them only has
to be of its shape. -/

/-- The metadata of an object of the given version and kind, which has further
fields. -/
def metadataOf (version kind : String) (fields : Fields) :
    Decoder ObjectMeta := fun json => do
  let members ← Decoder.members kind json
  Decoder.constant members "apiVersion" version version
  Decoder.constant members "kind" kind kind
  let metadata ← Decoder.defaulted members "metadata" ObjectMeta.ofJson
  fields.check members
  return metadata

/-- What is said of the state of an object, under one heading. -/
def Condition.shape (typeName : String) : Shape :=
  .record typeName
    [ ("lastTransitionTime", instant), ("message", .text), ("reason", .text),
      ("status", .text), ("type", .text) ]

/-! ### Namespaces -/

def NamespaceSpec.shape : Shape :=
  .record "NamespaceSpec" [("finalizers", .texts)]

def NamespaceStatus.shape : Shape :=
  .record "NamespaceStatus"
    [ ("conditions", .listOf (Condition.shape "NamespaceCondition")),
      ("phase", .text) ]

def Namespace.fields : Fields :=
  [("spec", NamespaceSpec.shape), ("status", NamespaceStatus.shape)]

def Namespace.ofJson : Decoder Namespace := fun json =>
  (metadataOf "v1" "Namespace" fields json).map Namespace.mk

/-! ### Replica sets -/

def PodTemplateSpec.shape : Shape :=
  .record "PodTemplateSpec"
    [ ("metadata", .ofDecoder ObjectMeta.ofJson),
      ("spec", .ofDecoder PodSpec.ofJson) ]

def ReplicaSetSpec.shape : Shape :=
  .record "ReplicaSetSpec"
    [ ("minReadySeconds", .bit32), ("replicas", .bit32),
      ("selector", LabelSelector.shape), ("template", PodTemplateSpec.shape) ]

def ReplicaSetStatus.shape : Shape :=
  .record "ReplicaSetStatus"
    [ ("availableReplicas", .bit32),
      ("conditions", .listOf (Condition.shape "ReplicaSetCondition")),
      ("fullyLabeledReplicas", .bit32), ("observedGeneration", .bit64),
      ("readyReplicas", .bit32), ("replicas", .bit32) ]

def ReplicaSet.fields : Fields :=
  [("spec", ReplicaSetSpec.shape), ("status", ReplicaSetStatus.shape)]

def ReplicaSet.ofJson : Decoder ReplicaSet := fun json =>
  (metadataOf "apps/v1" "ReplicaSet" fields json).map ReplicaSet.mk

end PodTelemetry.Kubernetes

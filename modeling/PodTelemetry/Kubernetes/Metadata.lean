import PodTelemetry.Kubernetes.Shapes.Basic

namespace PodTelemetry.Kubernetes

open PodTelemetry.Json (Decoder Fields Shape)

/-! ## Object metadata

Of every Kubernetes type members may be left out or null, a required one then
having its default, and members it does not know are passed over. Members are
read in the order of their keys. -/

/-- A reference to an object that owns this one. -/
structure OwnerReference where
  apiVersion : String := ""
  blockOwnerDeletion : Option Bool := none
  controller : Option Bool := none
  kind : String := ""
  name : String := ""
  uid : String := ""
  deriving DecidableEq, Repr, Inhabited

structure ObjectMeta where
  annotations : Option (Dictionary String) := none
  creationTimestamp : Option String := none
  deletionGracePeriodSeconds : Option Int := none
  deletionTimestamp : Option String := none
  finalizers : Option (List String) := none
  generateName : Option String := none
  generation : Option Int := none
  labels : Option (Dictionary String) := none
  name : Option String := none
  inNamespace : Option String := none
  ownerReferences : Option (List OwnerReference) := none
  resourceVersion : Option String := none
  selfLink : Option String := none
  uid : Option String := none
  /-- What nothing here looks into. -/
  carried : Dictionary Json := Dictionary.empty
  deriving DecidableEq, Repr, Inhabited

def OwnerReference.ofJson : Decoder OwnerReference := fun json => do
  let members ← Decoder.members "OwnerReference" json
  let apiVersion ← Decoder.defaulted members "apiVersion" Decoder.string
  let blockOwnerDeletion ←
    Decoder.optional members "blockOwnerDeletion" Decoder.bool
  let controller ← Decoder.optional members "controller" Decoder.bool
  let kind ← Decoder.defaulted members "kind" Decoder.string
  let name ← Decoder.defaulted members "name" Decoder.string
  let uid ← Decoder.defaulted members "uid" Decoder.string
  return { apiVersion, blockOwnerDeletion, controller, kind, name, uid }

def OwnerReference.toJson (owner : OwnerReference) : Json :=
  .object <|
    [("apiVersion", .string owner.apiVersion)] ++
    Json.optionalMember "blockOwnerDeletion" .bool owner.blockOwnerDeletion ++
    Json.optionalMember "controller" .bool owner.controller ++
    [("kind", .string owner.kind), ("name", .string owner.name),
     ("uid", .string owner.uid)]

/-- Which fields of an object somebody manages; the list of these fields may be
any JSON. -/
def ManagedFieldsEntry.shape : Shape :=
  .record "ManagedFieldsEntry"
    [ ("apiVersion", .text), ("fieldsType", .text), ("fieldsV1", .any),
      ("manager", .text), ("operation", .text), ("subresource", .text),
      ("time", instant) ]

/-- Members of metadata that are carried along. -/
def ObjectMeta.carriedFields : Fields :=
  [("managedFields", .listOf ManagedFieldsEntry.shape)]

def ObjectMeta.ofJson : Decoder ObjectMeta := fun json => do
  let members ← Decoder.members "ObjectMeta" json
  let annotations ←
    Decoder.optional members "annotations" (Decoder.dictionary Decoder.string)
  let creationTimestamp ←
    Decoder.optional members "creationTimestamp" timestamp
  let deletionGracePeriodSeconds ←
    Decoder.optional members "deletionGracePeriodSeconds" Decoder.int64
  let deletionTimestamp ←
    Decoder.optional members "deletionTimestamp" timestamp
  let finalizers ←
    Decoder.optional members "finalizers" (Decoder.list Decoder.string)
  let generateName ← Decoder.optional members "generateName" Decoder.string
  let generation ← Decoder.optional members "generation" Decoder.int64
  let labels ←
    Decoder.optional members "labels" (Decoder.dictionary Decoder.string)
  carriedFields.check members
  let name ← Decoder.optional members "name" Decoder.string
  let inNamespace ← Decoder.optional members "namespace" Decoder.string
  let ownerReferences ←
    Decoder.optional members "ownerReferences"
      (Decoder.list OwnerReference.ofJson)
  let resourceVersion ←
    Decoder.optional members "resourceVersion" Decoder.string
  let selfLink ← Decoder.optional members "selfLink" Decoder.string
  let uid ← Decoder.optional members "uid" Decoder.string
  return {
    annotations, creationTimestamp, deletionGracePeriodSeconds,
    deletionTimestamp, finalizers, generateName, generation, labels, name,
    inNamespace, ownerReferences, resourceVersion, selfLink, uid,
    carried := Decoder.carried members carriedFields.keys }

def ObjectMeta.toJson (metadata : ObjectMeta) : Json :=
  Json.ofMembers <|
    Json.optionalMember "annotations" (Json.ofDictionary .string)
      metadata.annotations ++
    Json.optionalMember "creationTimestamp" .string
      metadata.creationTimestamp ++
    Json.optionalMember "deletionGracePeriodSeconds" Json.ofInt
      metadata.deletionGracePeriodSeconds ++
    Json.optionalMember "deletionTimestamp" .string
      metadata.deletionTimestamp ++
    Json.optionalMember "finalizers" Json.ofStrings metadata.finalizers ++
    Json.optionalMember "generateName" .string metadata.generateName ++
    Json.optionalMember "generation" Json.ofInt metadata.generation ++
    Json.optionalMember "labels" (Json.ofDictionary .string) metadata.labels ++
    Json.optionalMember "name" .string metadata.name ++
    Json.optionalMember "namespace" .string metadata.inNamespace ++
    Json.optionalMember "ownerReferences" (Json.ofList OwnerReference.toJson)
      metadata.ownerReferences ++
    Json.optionalMember "resourceVersion" .string metadata.resourceVersion ++
    Json.optionalMember "selfLink" .string metadata.selfLink ++
    Json.optionalMember "uid" .string metadata.uid ++
    metadata.carried.entries

/-- The annotation with the key. -/
def ObjectMeta.annotation? (metadata : ObjectMeta) (key : String) :
    Option String :=
  metadata.annotations.bind (·.get? key)

/-- The references to owners, none when there is no list of them. -/
def ObjectMeta.owners (metadata : ObjectMeta) : List OwnerReference :=
  metadata.ownerReferences.getD []

/-! ## Objects of which only the metadata is read -/

structure Namespace where
  metadata : ObjectMeta := {}
  deriving DecidableEq, Repr, Inhabited

structure ReplicaSet where
  metadata : ObjectMeta := {}
  deriving DecidableEq, Repr, Inhabited

end PodTelemetry.Kubernetes

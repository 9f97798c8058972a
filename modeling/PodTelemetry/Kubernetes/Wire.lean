import PodTelemetry.Json.Reader
import PodTelemetry.Kubernetes.Objects

namespace PodTelemetry.Kubernetes

open PodTelemetry.Json (Decoder Fields Reader Shape)

/-! ## Reading metadata off the wire

Members of which nothing is known are passed over, whatever they hold. Of a
repeated member the last counts, but each has to be of the right shape. -/

namespace Wire

def instant : Reader Json := fun room document => do
  let found ← Reader.text room document
  match timestamp found with
  | .ok _ => return found
  | .error _ => .error .mismatched

def bit64 : Reader Json :=
  Reader.whole (-9223372036854775808) 9223372036854775807

def ownerFields : List (String × Reader Json) :=
  [ ("apiVersion", Reader.text), ("blockOwnerDeletion", Reader.flag),
    ("controller", Reader.flag), ("kind", Reader.text), ("name", Reader.text),
    ("uid", Reader.text) ]

def managerFields : List (String × Reader Json) :=
  [ ("apiVersion", Reader.text), ("fieldsType", Reader.text),
    ("fieldsV1", Reader.any), ("manager", Reader.text),
    ("operation", Reader.text), ("subresource", Reader.text),
    ("time", instant) ]

def metadataFields : List (String × Reader Json) :=
  [ ("annotations", Reader.textMap), ("creationTimestamp", instant),
    ("deletionGracePeriodSeconds", bit64), ("deletionTimestamp", instant),
    ("finalizers", Reader.texts), ("generateName", Reader.text),
    ("generation", bit64), ("labels", Reader.textMap),
    ("managedFields", Reader.listOf (Reader.loose managerFields)),
    ("name", Reader.text), ("namespace", Reader.text),
    ("ownerReferences", Reader.listOf (Reader.loose ownerFields)),
    ("resourceVersion", Reader.text), ("selfLink", Reader.text),
    ("uid", Reader.text) ]

/-- The metadata of an object, as JSON again. -/
def metadata : Reader Json := Reader.loose metadataFields

/-- The metadata of a list. -/
def listMetadata : Reader Json :=
  Reader.loose
    [ ("continue", Reader.text), ("remainingItemCount", bit64),
      ("resourceVersion", Reader.text), ("selfLink", Reader.text) ]

/-- The text has to be this one. -/
def constant (expected : String) : Reader Unit := fun room document => do
  if (← Reader.string room document) ≠ expected then throw .mismatched

end Wire

def ObjectMeta.wire : Reader ObjectMeta := fun room document => do
  match ObjectMeta.ofJson (← Wire.metadata room document) with
  | .ok metadata => return metadata
  | .error _ => throw .mismatched

/-- A value that is not kept, but has to be null or of the shape. -/
def Wire.shaped (shape : Shape) : Reader Unit := fun room document => do
  match Decoder.nullable shape (← Reader.any room document) with
  | .ok _ => return ()
  | .error _ => throw .mismatched

/-- The metadata of an object of the given version and kind, which has further
fields. -/
def Wire.metadataOf (version kind : String) (fields : Fields) :
    Reader ObjectMeta :=
  Reader.members {} fun taken key room value =>
    match key, fields.lookup key with
    | "apiVersion", _ => do
        constant version room value
        return taken
    | "kind", _ => do
        constant kind room value
        return taken
    | "metadata", _ =>
        return (← Reader.nullable ObjectMeta.wire room value).getD {}
    | _, some shape => do
        shaped shape room value
        return taken
    | _, none => do
        Reader.skip value
        return taken

def Namespace.wire : Reader Namespace := fun room document =>
  (Wire.metadataOf "v1" "Namespace" fields room document).map Namespace.mk

def ReplicaSet.wire : Reader ReplicaSet := fun room document =>
  (Wire.metadataOf "apps/v1" "ReplicaSet" fields room document).map
    ReplicaSet.mk

end PodTelemetry.Kubernetes

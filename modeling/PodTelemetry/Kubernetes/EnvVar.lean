import PodTelemetry.Json.Decode

namespace PodTelemetry.Kubernetes

open PodTelemetry.Json (Decoder)

/-! ## Environment variables -/

structure ObjectFieldSelector where
  apiVersion : Option String := none
  fieldPath : String := ""
  deriving DecidableEq, Repr, Inhabited

/-- Picks a key of a secret or of a config map. -/
structure KeySelector where
  key : String := ""
  name : String := ""
  isOptional : Option Bool := none
  deriving DecidableEq, Repr, Inhabited

structure ResourceFieldSelector where
  containerName : Option String := none
  divisor : Option String := none
  resource : String := ""
  deriving DecidableEq, Repr, Inhabited

/-- Where a variable's value is taken from when it is not given as text. -/
structure EnvVarSource where
  configMapKeyRef : Option KeySelector := none
  fieldRef : Option ObjectFieldSelector := none
  resourceFieldRef : Option ResourceFieldSelector := none
  secretKeyRef : Option KeySelector := none
  deriving DecidableEq, Repr, Inhabited

structure EnvVar where
  name : String := ""
  value : Option String := none
  valueFrom : Option EnvVarSource := none
  deriving DecidableEq, Repr, Inhabited

/-- A variable with a text as its value. -/
def EnvVar.literal (name value : String) : EnvVar :=
  { name, value := some value }

/-- A variable whose value is a field of the running pod. -/
def EnvVar.ofField (name fieldPath : String) : EnvVar :=
  { name
    valueFrom :=
      some { fieldRef := some { apiVersion := some "v1", fieldPath } } }

/-! ### Reading -/

def ObjectFieldSelector.ofJson : Decoder ObjectFieldSelector := fun json => do
  let members ← Decoder.members "ObjectFieldSelector" json
  let apiVersion ← Decoder.optional members "apiVersion" Decoder.string
  let fieldPath ← Decoder.defaulted members "fieldPath" Decoder.string
  return { apiVersion, fieldPath }

def KeySelector.ofJson (typeName : String) :
    Decoder KeySelector := fun json => do
  let members ← Decoder.members typeName json
  let key ← Decoder.defaulted members "key" Decoder.string
  let name ← Decoder.defaulted members "name" Decoder.string
  let isOptional ← Decoder.optional members "optional" Decoder.bool
  return { key, name, isOptional }

def ResourceFieldSelector.ofJson :
    Decoder ResourceFieldSelector := fun json => do
  let members ← Decoder.members "ResourceFieldSelector" json
  let containerName ← Decoder.optional members "containerName" Decoder.string
  let divisor ← Decoder.optional members "divisor" Decoder.string
  let resource ← Decoder.defaulted members "resource" Decoder.string
  return { containerName, divisor, resource }

def EnvVarSource.ofJson : Decoder EnvVarSource := fun json => do
  let members ← Decoder.members "EnvVarSource" json
  let configMapKeyRef ←
    Decoder.optional members "configMapKeyRef"
      (KeySelector.ofJson "ConfigMapKeySelector")
  let fieldRef ← Decoder.optional members "fieldRef" ObjectFieldSelector.ofJson
  let resourceFieldRef ←
    Decoder.optional members "resourceFieldRef" ResourceFieldSelector.ofJson
  let secretKeyRef ←
    Decoder.optional members "secretKeyRef"
      (KeySelector.ofJson "SecretKeySelector")
  return { configMapKeyRef, fieldRef, resourceFieldRef, secretKeyRef }

def EnvVar.ofJson : Decoder EnvVar := fun json => do
  let members ← Decoder.members "EnvVar" json
  let name ← Decoder.defaulted members "name" Decoder.string
  let value ← Decoder.optional members "value" Decoder.string
  let valueFrom ← Decoder.optional members "valueFrom" EnvVarSource.ofJson
  return { name, value, valueFrom }

/-! ### Writing -/

def ObjectFieldSelector.toJson (selector : ObjectFieldSelector) : Json :=
  .object <|
    Json.optionalMember "apiVersion" .string selector.apiVersion ++
    [("fieldPath", .string selector.fieldPath)]

def KeySelector.toJson (selector : KeySelector) : Json :=
  .object <|
    [("key", .string selector.key), ("name", .string selector.name)] ++
    Json.optionalMember "optional" .bool selector.isOptional

def ResourceFieldSelector.toJson (selector : ResourceFieldSelector) : Json :=
  .object <|
    Json.optionalMember "containerName" .string selector.containerName ++
    Json.optionalMember "divisor" .string selector.divisor ++
    [("resource", .string selector.resource)]

def EnvVarSource.toJson (source : EnvVarSource) : Json :=
  .object <|
    Json.optionalMember "configMapKeyRef" KeySelector.toJson
      source.configMapKeyRef ++
    Json.optionalMember "fieldRef" ObjectFieldSelector.toJson
      source.fieldRef ++
    Json.optionalMember "resourceFieldRef" ResourceFieldSelector.toJson
      source.resourceFieldRef ++
    Json.optionalMember "secretKeyRef" KeySelector.toJson source.secretKeyRef

def EnvVar.toJson (entry : EnvVar) : Json :=
  .object <|
    [("name", .string entry.name)] ++
    Json.optionalMember "value" .string entry.value ++
    Json.optionalMember "valueFrom" EnvVarSource.toJson entry.valueFrom

end PodTelemetry.Kubernetes

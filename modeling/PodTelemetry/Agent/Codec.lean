import PodTelemetry.Agent.Spec
import PodTelemetry.Json.Form

namespace PodTelemetry.Agent

open PodTelemetry.Json (Decoder Form)

/-! ## Agent resources as JSON

Every record is read in keyed or positional form and written in keyed form.
Optional fields may be null and are left out when they have no value. -/

def replicaCount : Decoder Int32 :=
  fun json => (Decoder.int32 json).map Int32.ofInt

def CollectorSpec.ofJson : Decoder CollectorSpec := fun json => do
  let form ← Form.ofJson "CollectorSpec" json
  let enabled := form.field 0 "enabled" (Decoder.nullable Decoder.bool)
  let image := form.field 1 "image" (Decoder.nullable Decoder.string)
  let config := form.field 2 "config" (Decoder.nullable Decoder.string)
  let replicas := form.field 3 "replicas" (Decoder.nullable replicaCount)
  form.settle
    [ ("enabled", Form.outcome enabled), ("image", Form.outcome image),
      ("config", Form.outcome config), ("replicas", Form.outcome replicas) ]
  form.bounded 4
  return {
    enabled := (← enabled).join
    image := (← image).join
    config := (← config).join
    replicas := (← replicas).join }

def AutoInstrumentation.ofJson : Decoder AutoInstrumentation := fun json => do
  let form ← Form.ofJson "AutoInstrumentation" json
  let image := form.field 0 "image" (Decoder.nullable Decoder.string)
  form.settle [("image", Form.outcome image)]
  form.bounded 1
  return { image := (← image).join }

def Instrumentation.ofJson : Decoder Instrumentation := fun json => do
  let form ← Form.ofJson "Instrumentation" json
  let java := form.field 0 "java" AutoInstrumentation.ofJson
  form.settle [("java", Form.outcome java)]
  form.bounded 1
  return { java := (← java).getD {} }

def AgentSpec.ofJson : Decoder AgentSpec := fun json => do
  let form ← Form.ofJson "AgentSpec" json
  let clusterName := form.field 0 "clusterName" Decoder.string
  let realm := form.field 1 "realm" Decoder.string
  let instrumentation := form.field 2 "instrumentation" Instrumentation.ofJson
  let agent := form.field 3 "agent" CollectorSpec.ofJson
  let clusterReceiver := form.field 4 "clusterReceiver" CollectorSpec.ofJson
  let gateway := form.field 5 "gateway" CollectorSpec.ofJson
  form.settle
    [ ("clusterName", Form.outcome clusterName), ("realm", Form.outcome realm),
      ("instrumentation", Form.outcome instrumentation),
      ("agent", Form.outcome agent),
      ("clusterReceiver", Form.outcome clusterReceiver),
      ("gateway", Form.outcome gateway) ]
  let expected := "struct AgentSpec with 6 elements"
  let clusterName ← form.required expected "clusterName" (← clusterName)
  let realm ← form.required expected "realm" (← realm)
  form.bounded 6
  return {
    clusterName, realm
    instrumentation := (← instrumentation).getD {}
    agent := (← agent).getD {}
    clusterReceiver := (← clusterReceiver).getD {}
    gateway := (← gateway).getD {} }

def AgentStatus.ofJson : Decoder AgentStatus := fun json => do
  let form ← Form.ofJson "AgentStatus" json
  let version := form.field 0 "version" (Decoder.nullable Decoder.string)
  let messages := form.field 1 "messages" (Decoder.list Decoder.string)
  form.settle
    [("version", Form.outcome version), ("messages", Form.outcome messages)]
  form.bounded 2
  return { version := (← version).join, messages := (← messages).getD [] }

def ofJson : Decoder Agent := fun json => do
  let form ← Form.ofJson "Agent" json
  let metadata := form.field 0 "metadata" Kubernetes.ObjectMeta.ofJson
  let spec := form.field 1 "spec" AgentSpec.ofJson
  let status := form.field 2 "status" (Decoder.nullable AgentStatus.ofJson)
  form.settle
    [ ("metadata", Form.outcome metadata), ("spec", Form.outcome spec),
      ("status", Form.outcome status) ]
  let expected := "struct Agent with 3 elements"
  let metadata ← form.required expected "metadata" (← metadata)
  let spec ← form.required expected "spec" (← spec)
  form.atLeast 3 expected
  form.bounded 3
  return { metadata, spec, status := (← status).join }

/-! ### Writing -/

def CollectorSpec.toJson (collector : CollectorSpec) : Json :=
  .object <|
    Json.optionalMember "config" .string collector.config ++
    Json.optionalMember "enabled" .bool collector.enabled ++
    Json.optionalMember "image" .string collector.image ++
    Json.optionalMember "replicas" (fun count => Json.ofInt count.toInt)
      collector.replicas

def AutoInstrumentation.toJson (language : AutoInstrumentation) : Json :=
  .object (Json.optionalMember "image" .string language.image)

def Instrumentation.toJson (instrumentation : Instrumentation) : Json :=
  .object [("java", instrumentation.java.toJson)]

def AgentSpec.toJson (spec : AgentSpec) : Json :=
  .object
    [ ("agent", spec.agent.toJson), ("clusterName", .string spec.clusterName),
      ("clusterReceiver", spec.clusterReceiver.toJson),
      ("gateway", spec.gateway.toJson),
      ("instrumentation", spec.instrumentation.toJson),
      ("realm", .string spec.realm) ]

def AgentStatus.toJson (status : AgentStatus) : Json :=
  .object <|
    (if status.messages.isEmpty then []
      else [("messages", Json.ofStrings status.messages)]) ++
    Json.optionalMember "version" .string status.version

end PodTelemetry.Agent

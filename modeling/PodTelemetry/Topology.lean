import PodTelemetry.Agent.Spec
import PodTelemetry.Error
import PodTelemetry.Names

namespace PodTelemetry

open Agent (AgentSpec)

/-! ## Where telemetry is sent -/

/-- Where the program's own parts run. -/
structure OperatorConfig where
  operatorNamespace : String := "splunk-otel-operator-system"
  gatewayService : String := "splunk-otel-collector"
  defaultJavaImage : String :=
    "quay.io/signalfx/splunk-otel-instrumentation-java:v1.14.1"
  deriving DecidableEq, Repr, Inhabited

inductive Exporter where
  | otlp
  | jaegerThrift
  deriving DecidableEq, Repr, Inhabited

def Exporter.name : Exporter → String
  | .otlp => "otlp"
  | .jaegerThrift => "jaeger-thrift-splunk"

/-- What all injections into one pod have in common. -/
structure InjectionConfig where
  exporter : Exporter
  endpoint : String
  javaImage : String
  deriving DecidableEq, Repr, Inhabited

/-- The port that collectors listen on. -/
def collectorPort : Nat := 4317

/-- The address of the collector on the pod's own node. -/
def nodeEndpoint : String := s!"http://$({Env.nodeAgent}):{collectorPort}"

/-- Telemetry goes to the collector on the node, else to the gateway, else
straight to the realm's ingestion service. -/
def InjectionConfig.ofSpec (spec : AgentSpec) (operator : OperatorConfig) :
    InjectionConfig :=
  let javaImage := spec.javaImage?.getD operator.defaultJavaImage
  if spec.agentEnabled then
    { exporter := .otlp, endpoint := nodeEndpoint, javaImage }
  else if spec.gatewayEnabled then
    let host := s!"{operator.gatewayService}.{operator.operatorNamespace}"
    { exporter := .otlp, endpoint := s!"http://{host}:{collectorPort}",
      javaImage }
  else
    { exporter := .jaegerThrift
      endpoint := s!"https://ingest.{spec.realm}.signalfx.com/v2/trace"
      javaImage }

/-- Why the topology is not known. -/
inductive TopologyFault where
  | unlisted (error : Error)
  | noAgent
  | severalAgents (names : List (Option String))
  deriving DecidableEq, Repr

def TopologyFault.account : TopologyFault → String
  | .unlisted error => s!"unable to list Agent resources: {error.text}"
  | .noAgent =>
      "no Agent resource found; deploy an Agent before enabling injection"
  | .severalAgents names =>
      let shown := ", ".intercalate (names.map (·.getD "<unnamed>"))
      s!"found {names.length} Agent resources ({shown}); " ++
        "exactly one is supported"

def TopologyFault.error (fault : TopologyFault) : Error :=
  ⟨.topology, fault.account⟩

/-- The agents have to be exactly one. -/
def InjectionConfig.ofAgents (agents : List Agent)
    (operator : OperatorConfig) : Except TopologyFault InjectionConfig :=
  match agents with
  | [] => .error .noAgent
  | [agent] => .ok (ofSpec agent.spec operator)
  | _ => .error (.severalAgents (agents.map fun agent => agent.metadata.name))

end PodTelemetry

import PodTelemetry.Kubernetes.Metadata

namespace PodTelemetry.Agent

/-! ## The description of the collectors -/

/-- Settings for one tier of collectors. -/
structure CollectorSpec where
  enabled : Option Bool := none
  image : Option String := none
  config : Option String := none
  replicas : Option Int32 := none
  deriving DecidableEq, Repr, Inhabited

/-- Settings for the agent of one language. -/
structure AutoInstrumentation where
  image : Option String := none
  deriving DecidableEq, Repr, Inhabited

structure Instrumentation where
  java : AutoInstrumentation := {}
  deriving DecidableEq, Repr, Inhabited

structure AgentSpec where
  clusterName : String
  realm : String
  instrumentation : Instrumentation := {}
  agent : CollectorSpec := {}
  clusterReceiver : CollectorSpec := {}
  gateway : CollectorSpec := {}
  deriving DecidableEq, Repr, Inhabited

/-- The observed state of an agent resource. -/
structure AgentStatus where
  version : Option String := none
  messages : List String := []
  deriving DecidableEq, Repr, Inhabited

/-- The agent on each node is there unless it is turned off. -/
def AgentSpec.agentEnabled (spec : AgentSpec) : Bool :=
  spec.agent.enabled.getD true

/-- The gateway is not there unless it is turned on. -/
def AgentSpec.gatewayEnabled (spec : AgentSpec) : Bool :=
  spec.gateway.enabled.getD false

/-- The image of the Java agent, if one is set; an empty name sets none. -/
def AgentSpec.javaImage? (spec : AgentSpec) : Option String :=
  spec.instrumentation.java.image.filter (· ≠ "")

end PodTelemetry.Agent

namespace PodTelemetry

/-- The resource that describes the collectors of a cluster. -/
structure Agent where
  metadata : Kubernetes.ObjectMeta
  spec : Agent.AgentSpec
  status : Option Agent.AgentStatus := none
  deriving DecidableEq, Repr, Inhabited

end PodTelemetry

import PodTelemetry.Agent.Codec
import PodTelemetry.Kubernetes.Wire

namespace PodTelemetry.Agent

open PodTelemetry.Json (Reader)
open PodTelemetry.Json.Reader (needed placed spared orNull)

/-! ## Reading agent resources off the wire

No member that is known may be repeated; the others are passed over, whatever
they hold. -/

namespace Wire

def collector : Reader Json :=
  Reader.strict
    [ spared "enabled" (orNull Reader.flag),
      spared "image" (orNull Reader.text),
      spared "config" (orNull Reader.text),
      spared "replicas" (orNull (Reader.whole (-2147483648) 2147483647)) ]

def instrumentation : Reader Json :=
  Reader.strict
    [spared "java" (Reader.strict [spared "image" (orNull Reader.text)])]

def spec : Reader Json :=
  Reader.strict
    [ needed "clusterName" Reader.text, needed "realm" Reader.text,
      spared "instrumentation" instrumentation, spared "agent" collector,
      spared "clusterReceiver" collector, spared "gateway" collector ]

def status : Reader Json :=
  Reader.strict
    [spared "version" (orNull Reader.text), spared "messages" Reader.texts]

end Wire

def wire : Reader Agent := fun room document => do
  let found ← Reader.strict
    [ needed "metadata" Kubernetes.Wire.metadata, needed "spec" Wire.spec,
      placed "status" (orNull Wire.status) ] room document
  match ofJson found with
  | .ok agent => return agent
  | .error _ => throw .mismatched

end PodTelemetry.Agent

import PodTelemetry.Attributes.Derivation

namespace PodTelemetry

open Kubernetes (Pod)

/-! ## The name that a service reports -/

namespace Attributes

/-- Where a service name may come from, first choice first. -/
def serviceNameSources (attributes : Attributes) (pod : Pod) :
    List (Option String) :=
  [ pod.metadata.annotation? Annotation.app,
    pod.metadata.annotation? Annotation.appName,
    attributes.get? OwnerKind.deployment.nameKey,
    attributes.get? OwnerKind.statefulSet.nameKey,
    attributes.get? OwnerKind.job.nameKey,
    attributes.get? OwnerKind.cronJob.nameKey,
    attributes.get? podNameKey ]

/-- The first source that is not empty, else the name of the first
container. -/
def serviceName (attributes : Attributes) (pod : Pod) : String :=
  match ((serviceNameSources attributes pod).filterMap id).find? (· ≠ "") with
  | some name => name
  | none => (pod.firstContainer?.map fun container => container.name).getD ""

end Attributes

end PodTelemetry

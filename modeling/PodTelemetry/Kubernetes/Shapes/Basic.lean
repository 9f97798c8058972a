import PodTelemetry.Json.Shape
import PodTelemetry.Kubernetes.Timestamp

namespace PodTelemetry.Kubernetes

open PodTelemetry.Json (Shape)

/-! ## Values that many records share

Of every record members may be left out or null, whether they are required or
not, and members it does not know are passed over. -/

/-- A point in time. -/
def instant : Shape := .ofDecoder timestamp

/-- An amount with a unit, as text. -/
def quantity : Shape := .text

def quantities : Shape := .mapOf quantity

/-- A port or an index, given as a number or by name. -/
def numberOrName : Shape
  | .string _ => .ok ()
  | .number (.integer value) =>
      if -2147483648 ≤ value ∧ value ≤ 2147483647 then .ok ()
      else .error (.wrongValue (Json.ofInt value) "a 32-bit integer")
  | found => .error (.wrongType found "enum IntOrString")

def LabelSelectorRequirement.shape : Shape :=
  .record "LabelSelectorRequirement"
    [("key", .text), ("operator", .text), ("values", .texts)]

def LabelSelector.shape : Shape :=
  .record "LabelSelector"
    [ ("matchExpressions", .listOf LabelSelectorRequirement.shape),
      ("matchLabels", .textMap) ]

/-- A name in the pod's own namespace. -/
def LocalObjectReference.shape : Shape :=
  .record "LocalObjectReference" [("name", .text)]

def ResourceClaim.shape : Shape :=
  .record "ResourceClaim" [("name", .text), ("request", .text)]

def ResourceRequirements.shape : Shape :=
  .record "ResourceRequirements"
    [ ("claims", .listOf ResourceClaim.shape), ("limits", quantities),
      ("requests", quantities) ]

end PodTelemetry.Kubernetes

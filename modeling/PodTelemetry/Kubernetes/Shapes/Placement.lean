import PodTelemetry.Kubernetes.Shapes.Basic

namespace PodTelemetry.Kubernetes

open PodTelemetry.Json (Shape)

/-! ## Where pods are placed, and what surrounds them there -/

/-! ### Nodes -/

def NodeSelectorRequirement.shape : Shape :=
  .record "NodeSelectorRequirement"
    [("key", .text), ("operator", .text), ("values", .texts)]

def NodeSelectorTerm.shape : Shape :=
  .record "NodeSelectorTerm"
    [ ("matchExpressions", .listOf NodeSelectorRequirement.shape),
      ("matchFields", .listOf NodeSelectorRequirement.shape) ]

def NodeSelector.shape : Shape :=
  .record "NodeSelector"
    [("nodeSelectorTerms", .listOf NodeSelectorTerm.shape)]

def PreferredSchedulingTerm.shape : Shape :=
  .record "PreferredSchedulingTerm"
    [("preference", NodeSelectorTerm.shape), ("weight", .bit32)]

def Toleration.shape : Shape :=
  .record "Toleration"
    [ ("effect", .text), ("key", .text), ("operator", .text),
      ("tolerationSeconds", .bit64), ("value", .text) ]

/-! ### Pods nearby -/

def PodAffinityTerm.shape : Shape :=
  .record "PodAffinityTerm"
    [ ("labelSelector", LabelSelector.shape), ("matchLabelKeys", .texts),
      ("mismatchLabelKeys", .texts),
      ("namespaceSelector", LabelSelector.shape), ("namespaces", .texts),
      ("topologyKey", .text) ]

def WeightedPodAffinityTerm.shape : Shape :=
  .record "WeightedPodAffinityTerm"
    [("podAffinityTerm", PodAffinityTerm.shape), ("weight", .bit32)]

def TopologySpreadConstraint.shape : Shape :=
  .record "TopologySpreadConstraint"
    [ ("labelSelector", LabelSelector.shape), ("matchLabelKeys", .texts),
      ("maxSkew", .bit32), ("minDomains", .bit32),
      ("nodeAffinityPolicy", .text), ("nodeTaintsPolicy", .text),
      ("topologyKey", .text), ("whenUnsatisfiable", .text) ]

/-! ### Affinity -/

/-- What is preferred and what is required of a place. -/
def Affinities.shape (typeName : String) (preferred required : Shape) :
    Shape :=
  .record typeName
    [ ("preferredDuringSchedulingIgnoredDuringExecution",
        .listOf preferred),
      ("requiredDuringSchedulingIgnoredDuringExecution", required) ]

def Affinity.shape : Shape :=
  .record "Affinity"
    [ ("nodeAffinity",
        Affinities.shape "NodeAffinity" PreferredSchedulingTerm.shape
          NodeSelector.shape),
      ("podAffinity",
        Affinities.shape "PodAffinity" WeightedPodAffinityTerm.shape
          (.listOf PodAffinityTerm.shape)),
      ("podAntiAffinity",
        Affinities.shape "PodAntiAffinity" WeightedPodAffinityTerm.shape
          (.listOf PodAffinityTerm.shape)) ]

/-! ### Names and claims -/

def PodDNSConfigOption.shape : Shape :=
  .record "PodDNSConfigOption" [("name", .text), ("value", .text)]

def PodDNSConfig.shape : Shape :=
  .record "PodDNSConfig"
    [ ("nameservers", .texts), ("options", .listOf PodDNSConfigOption.shape),
      ("searches", .texts) ]

def HostAlias.shape : Shape :=
  .record "HostAlias" [("hostnames", .texts), ("ip", .text)]

def PodOS.shape : Shape := .record "PodOS" [("name", .text)]

def PodReadinessGate.shape : Shape :=
  .record "PodReadinessGate" [("conditionType", .text)]

def PodSchedulingGate.shape : Shape :=
  .record "PodSchedulingGate" [("name", .text)]

def PodResourceClaim.shape : Shape :=
  .record "PodResourceClaim"
    [ ("name", .text), ("resourceClaimName", .text),
      ("resourceClaimTemplateName", .text) ]

end PodTelemetry.Kubernetes

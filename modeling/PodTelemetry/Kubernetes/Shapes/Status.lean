import PodTelemetry.Kubernetes.Shapes.Basic

namespace PodTelemetry.Kubernetes

open PodTelemetry.Json (Fields Shape)

/-! ## What is observed of running pods -/

/-! ### Containers -/

def ContainerStateRunning.shape : Shape :=
  .record "ContainerStateRunning" [("startedAt", instant)]

def ContainerStateTerminated.shape : Shape :=
  .record "ContainerStateTerminated"
    [ ("containerID", .text), ("exitCode", .bit32), ("finishedAt", instant),
      ("message", .text), ("reason", .text), ("signal", .bit32),
      ("startedAt", instant) ]

def ContainerStateWaiting.shape : Shape :=
  .record "ContainerStateWaiting" [("message", .text), ("reason", .text)]

def ContainerState.shape : Shape :=
  .record "ContainerState"
    [ ("running", ContainerStateRunning.shape),
      ("terminated", ContainerStateTerminated.shape),
      ("waiting", ContainerStateWaiting.shape) ]

def ResourceHealth.shape : Shape :=
  .record "ResourceHealth" [("health", .text), ("resourceID", .text)]

def ResourceStatus.shape : Shape :=
  .record "ResourceStatus"
    [("name", .text), ("resources", .listOf ResourceHealth.shape)]

def LinuxContainerUser.shape : Shape :=
  .record "LinuxContainerUser"
    [ ("gid", .bit64), ("supplementalGroups", .listOf .bit64),
      ("uid", .bit64) ]

def ContainerUser.shape : Shape :=
  .record "ContainerUser" [("linux", LinuxContainerUser.shape)]

def VolumeMountStatus.shape : Shape :=
  .record "VolumeMountStatus"
    [ ("mountPath", .text), ("name", .text), ("readOnly", .flag),
      ("recursiveReadOnly", .text) ]

def ContainerStatus.shape : Shape :=
  .record "ContainerStatus"
    [ ("allocatedResources", quantities),
      ("allocatedResourcesStatus", .listOf ResourceStatus.shape),
      ("containerID", .text), ("image", .text), ("imageID", .text),
      ("lastState", ContainerState.shape), ("name", .text), ("ready", .flag),
      ("resources", ResourceRequirements.shape), ("restartCount", .bit32),
      ("started", .flag), ("state", ContainerState.shape),
      ("user", ContainerUser.shape),
      ("volumeMounts", .listOf VolumeMountStatus.shape) ]

/-! ### Pods -/

def PodCondition.shape : Shape :=
  .record "PodCondition"
    [ ("lastProbeTime", instant), ("lastTransitionTime", instant),
      ("message", .text), ("reason", .text), ("status", .text),
      ("type", .text) ]

/-- An address of the pod or of its node. -/
def Address.shape (typeName : String) : Shape :=
  .record typeName [("ip", .text)]

def PodResourceClaimStatus.shape : Shape :=
  .record "PodResourceClaimStatus"
    [("name", .text), ("resourceClaimName", .text)]

def PodStatus.fields : Fields :=
  [ ("conditions", .listOf PodCondition.shape),
    ("containerStatuses", .listOf ContainerStatus.shape),
    ("ephemeralContainerStatuses", .listOf ContainerStatus.shape),
    ("hostIP", .text), ("hostIPs", .listOf (Address.shape "HostIP")),
    ("initContainerStatuses", .listOf ContainerStatus.shape),
    ("message", .text), ("nominatedNodeName", .text), ("phase", .text),
    ("podIP", .text), ("podIPs", .listOf (Address.shape "PodIP")),
    ("qosClass", .text), ("reason", .text), ("resize", .text),
    ("resourceClaimStatuses", .listOf PodResourceClaimStatus.shape),
    ("startTime", instant) ]

end PodTelemetry.Kubernetes

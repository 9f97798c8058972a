import PodTelemetry.Kubernetes.Shapes.Basic

namespace PodTelemetry.Kubernetes

open PodTelemetry.Json (Shape)

/-! ## What is known of containers beside what is read -/

/-! ### Environments taken from elsewhere -/

/-- The name of a config map or of a secret that may be missing. -/
def EnvSource.shape (typeName : String) : Shape :=
  .record typeName [("name", .text), ("optional", .flag)]

def EnvFromSource.shape : Shape :=
  .record "EnvFromSource"
    [ ("configMapRef", EnvSource.shape "ConfigMapEnvSource"),
      ("prefix", .text), ("secretRef", EnvSource.shape "SecretEnvSource") ]

/-! ### Handlers and probes -/

def ExecAction.shape : Shape := .record "ExecAction" [("command", .texts)]

def GRPCAction.shape : Shape :=
  .record "GRPCAction" [("port", .bit32), ("service", .text)]

def HTTPHeader.shape : Shape :=
  .record "HTTPHeader" [("name", .text), ("value", .text)]

def HTTPGetAction.shape : Shape :=
  .record "HTTPGetAction"
    [ ("host", .text), ("httpHeaders", .listOf HTTPHeader.shape),
      ("path", .text), ("port", numberOrName), ("scheme", .text) ]

def SleepAction.shape : Shape := .record "SleepAction" [("seconds", .bit64)]

def TCPSocketAction.shape : Shape :=
  .record "TCPSocketAction" [("host", .text), ("port", numberOrName)]

def LifecycleHandler.shape : Shape :=
  .record "LifecycleHandler"
    [ ("exec", ExecAction.shape), ("httpGet", HTTPGetAction.shape),
      ("sleep", SleepAction.shape), ("tcpSocket", TCPSocketAction.shape) ]

def Lifecycle.shape : Shape :=
  .record "Lifecycle"
    [ ("postStart", LifecycleHandler.shape),
      ("preStop", LifecycleHandler.shape) ]

def Probe.shape : Shape :=
  .record "Probe"
    [ ("exec", ExecAction.shape), ("failureThreshold", .bit32),
      ("grpc", GRPCAction.shape), ("httpGet", HTTPGetAction.shape),
      ("initialDelaySeconds", .bit32), ("periodSeconds", .bit32),
      ("successThreshold", .bit32), ("tcpSocket", TCPSocketAction.shape),
      ("terminationGracePeriodSeconds", .bit64), ("timeoutSeconds", .bit32) ]

/-! ### Resources and devices -/

def ContainerResizePolicy.shape : Shape :=
  .record "ContainerResizePolicy"
    [("resourceName", .text), ("restartPolicy", .text)]

def VolumeDevice.shape : Shape :=
  .record "VolumeDevice" [("devicePath", .text), ("name", .text)]

/-! ### Security -/

/-- A profile of the node that confines processes. -/
def Profile.shape (typeName : String) : Shape :=
  .record typeName [("localhostProfile", .text), ("type", .text)]

def Capabilities.shape : Shape :=
  .record "Capabilities" [("add", .texts), ("drop", .texts)]

def SELinuxOptions.shape : Shape :=
  .record "SELinuxOptions"
    [("level", .text), ("role", .text), ("type", .text), ("user", .text)]

def WindowsSecurityContextOptions.shape : Shape :=
  .record "WindowsSecurityContextOptions"
    [ ("gmsaCredentialSpec", .text), ("gmsaCredentialSpecName", .text),
      ("hostProcess", .flag), ("runAsUserName", .text) ]

def SecurityContext.shape : Shape :=
  .record "SecurityContext"
    [ ("allowPrivilegeEscalation", .flag),
      ("appArmorProfile", Profile.shape "AppArmorProfile"),
      ("capabilities", Capabilities.shape), ("privileged", .flag),
      ("procMount", .text), ("readOnlyRootFilesystem", .flag),
      ("runAsGroup", .bit64), ("runAsNonRoot", .flag), ("runAsUser", .bit64),
      ("seLinuxOptions", SELinuxOptions.shape),
      ("seccompProfile", Profile.shape "SeccompProfile"),
      ("windowsOptions", WindowsSecurityContextOptions.shape) ]

/-- What goes for the whole pod, unless a container says otherwise. -/
def PodSecurityContext.shape : Shape :=
  .record "PodSecurityContext"
    [ ("appArmorProfile", Profile.shape "AppArmorProfile"),
      ("fsGroup", .bit64), ("fsGroupChangePolicy", .text),
      ("runAsGroup", .bit64), ("runAsNonRoot", .flag), ("runAsUser", .bit64),
      ("seLinuxChangePolicy", .text),
      ("seLinuxOptions", SELinuxOptions.shape),
      ("seccompProfile", Profile.shape "SeccompProfile"),
      ("supplementalGroups", .listOf .bit64),
      ("supplementalGroupsPolicy", .text),
      ("sysctls",
        .listOf (.record "Sysctl" [("name", .text), ("value", .text)])),
      ("windowsOptions", WindowsSecurityContextOptions.shape) ]

end PodTelemetry.Kubernetes

import PodTelemetry.Kubernetes.Shapes.Container
import PodTelemetry.Kubernetes.Shapes.Placement
import PodTelemetry.Kubernetes.Shapes.Status
import PodTelemetry.Kubernetes.Shapes.Volume

namespace PodTelemetry.Kubernetes

open PodTelemetry.Json (Decoder Fields Shape)

/-! ## Pods

The parts that telemetry injection reads or writes, and those next to them,
have fields of their own.  Further known members have to be of their shapes;
they are carried along as they came, nulls left out. -/

structure VolumeMount where
  mountPath : String := ""
  mountPropagation : Option String := none
  name : String := ""
  readOnly : Option Bool := none
  recursiveReadOnly : Option String := none
  subPath : Option String := none
  subPathExpr : Option String := none
  deriving DecidableEq, Repr, Inhabited

structure ContainerPort where
  containerPort : Int := 0
  hostIP : Option String := none
  hostPort : Option Int := none
  name : Option String := none
  protocol : Option String := none
  deriving DecidableEq, Repr, Inhabited

structure Container where
  args : Option (List String) := none
  command : Option (List String) := none
  env : Option (List EnvVar) := none
  image : Option String := none
  name : String := ""
  ports : Option (List ContainerPort) := none
  volumeMounts : Option (List VolumeMount) := none
  carried : Dictionary Json := Dictionary.empty
  deriving DecidableEq, Repr, Inhabited

/-- A directory that lives as long as the pod and starts empty. -/
structure EmptyDirVolumeSource where
  medium : Option String := none
  sizeLimit : Option String := none
  deriving DecidableEq, Repr, Inhabited

structure Volume where
  emptyDir : Option EmptyDirVolumeSource := none
  name : String := ""
  carried : Dictionary Json := Dictionary.empty
  deriving DecidableEq, Repr, Inhabited

structure PodSpec where
  containers : List Container := []
  hostNetwork : Option Bool := none
  initContainers : Option (List Container) := none
  nodeName : Option String := none
  nodeSelector : Option (Dictionary String) := none
  priority : Option Int := none
  terminationGracePeriodSeconds : Option Int := none
  volumes : Option (List Volume) := none
  carried : Dictionary Json := Dictionary.empty
  deriving DecidableEq, Repr, Inhabited

/-- The observed state of a pod, all of which is carried along. -/
structure PodStatus where
  carried : Dictionary Json := Dictionary.empty
  deriving DecidableEq, Repr, Inhabited

structure Pod where
  metadata : ObjectMeta := {}
  spec : Option PodSpec := none
  status : Option PodStatus := none
  deriving DecidableEq, Repr, Inhabited

/-! ### Reading -/

def VolumeMount.ofJson : Decoder VolumeMount := fun json => do
  let members ← Decoder.members "VolumeMount" json
  let mountPath ← Decoder.defaulted members "mountPath" Decoder.string
  let mountPropagation ←
    Decoder.optional members "mountPropagation" Decoder.string
  let name ← Decoder.defaulted members "name" Decoder.string
  let readOnly ← Decoder.optional members "readOnly" Decoder.bool
  let recursiveReadOnly ←
    Decoder.optional members "recursiveReadOnly" Decoder.string
  let subPath ← Decoder.optional members "subPath" Decoder.string
  let subPathExpr ← Decoder.optional members "subPathExpr" Decoder.string
  return {
    mountPath, mountPropagation, name, readOnly, recursiveReadOnly, subPath,
    subPathExpr }

def ContainerPort.ofJson : Decoder ContainerPort := fun json => do
  let members ← Decoder.members "ContainerPort" json
  let containerPort ←
    Decoder.defaulted members "containerPort" Decoder.int32
  let hostIP ← Decoder.optional members "hostIP" Decoder.string
  let hostPort ← Decoder.optional members "hostPort" Decoder.int32
  let name ← Decoder.optional members "name" Decoder.string
  let protocol ← Decoder.optional members "protocol" Decoder.string
  return { containerPort, hostIP, hostPort, name, protocol }

/-! #### Containers

Members that are carried along are looked at in their turn, so that of several
faults the one under the first key is found. -/

def Container.fieldsAfterEnv : Fields :=
  [("envFrom", .listOf EnvFromSource.shape)]

def Container.fieldsAfterImage : Fields :=
  [ ("imagePullPolicy", .text), ("lifecycle", Lifecycle.shape),
    ("livenessProbe", Probe.shape) ]

def Container.fieldsAfterPorts : Fields :=
  [ ("readinessProbe", Probe.shape),
    ("resizePolicy", .listOf ContainerResizePolicy.shape),
    ("resources", ResourceRequirements.shape), ("restartPolicy", .text),
    ("securityContext", SecurityContext.shape),
    ("startupProbe", Probe.shape), ("stdin", .flag), ("stdinOnce", .flag) ]

def Container.fieldsBeforeMounts : Fields :=
  [ ("terminationMessagePath", .text), ("terminationMessagePolicy", .text),
    ("tty", .flag), ("volumeDevices", .listOf VolumeDevice.shape) ]

def Container.fieldsAfterMounts : Fields := [("workingDir", .text)]

def Container.carriedFields : Fields :=
  fieldsAfterEnv ++ fieldsAfterImage ++ fieldsAfterPorts ++
  fieldsBeforeMounts ++ fieldsAfterMounts

def Container.ofJson : Decoder Container := fun json => do
  let members ← Decoder.members "Container" json
  let args ← Decoder.optional members "args" (Decoder.list Decoder.string)
  let command ←
    Decoder.optional members "command" (Decoder.list Decoder.string)
  let env ← Decoder.optional members "env" (Decoder.list EnvVar.ofJson)
  fieldsAfterEnv.check members
  let image ← Decoder.optional members "image" Decoder.string
  fieldsAfterImage.check members
  let name ← Decoder.defaulted members "name" Decoder.string
  let ports ←
    Decoder.optional members "ports" (Decoder.list ContainerPort.ofJson)
  fieldsAfterPorts.check members
  fieldsBeforeMounts.check members
  let volumeMounts ←
    Decoder.optional members "volumeMounts" (Decoder.list VolumeMount.ofJson)
  fieldsAfterMounts.check members
  return {
    args, command, env, image, name, ports, volumeMounts,
    carried := Decoder.carried members carriedFields.keys }

/-- A container that is put into a running pod to look at it. -/
def EphemeralContainer.shape : Shape :=
  .record "EphemeralContainer" <|
    [ ("args", .texts), ("command", .texts),
      ("env", .listOf (.ofDecoder EnvVar.ofJson)) ] ++
    Container.fieldsAfterEnv ++ [("image", .text)] ++
    Container.fieldsAfterImage ++
    [ ("name", .text),
      ("ports", .listOf (.ofDecoder ContainerPort.ofJson)) ] ++
    Container.fieldsAfterPorts ++ [("targetContainerName", .text)] ++
    Container.fieldsBeforeMounts ++
    [("volumeMounts", .listOf (.ofDecoder VolumeMount.ofJson))] ++
    Container.fieldsAfterMounts

/-! #### Volumes -/

def EmptyDirVolumeSource.ofJson : Decoder EmptyDirVolumeSource :=
  fun json => do
    let members ← Decoder.members "EmptyDirVolumeSource" json
    let medium ← Decoder.optional members "medium" Decoder.string
    let sizeLimit ← Decoder.optional members "sizeLimit" Decoder.string
    return { medium, sizeLimit }

def Volume.carriedFields : Fields :=
  fieldsBeforeEmptyDir ++ fieldsAfterEmptyDir ++ fieldsAfterName

def Volume.ofJson : Decoder Volume := fun json => do
  let members ← Decoder.members "Volume" json
  fieldsBeforeEmptyDir.check members
  let emptyDir ←
    Decoder.optional members "emptyDir" EmptyDirVolumeSource.ofJson
  fieldsAfterEmptyDir.check members
  let name ← Decoder.defaulted members "name" Decoder.string
  fieldsAfterName.check members
  return {
    emptyDir, name,
    carried := Decoder.carried members carriedFields.keys }

/-! #### Specs -/

def PodSpec.fieldsBeforeContainers : Fields :=
  [ ("activeDeadlineSeconds", .bit64), ("affinity", Affinity.shape),
    ("automountServiceAccountToken", .flag) ]

def PodSpec.fieldsAfterContainers : Fields :=
  [ ("dnsConfig", PodDNSConfig.shape), ("dnsPolicy", .text),
    ("enableServiceLinks", .flag),
    ("ephemeralContainers", .listOf EphemeralContainer.shape),
    ("hostAliases", .listOf HostAlias.shape), ("hostIPC", .flag) ]

def PodSpec.fieldsAfterNetwork : Fields :=
  [ ("hostPID", .flag), ("hostUsers", .flag), ("hostname", .text),
    ("imagePullSecrets", .listOf LocalObjectReference.shape) ]

def PodSpec.fieldsAfterSelector : Fields :=
  [ ("os", PodOS.shape), ("overhead", quantities),
    ("preemptionPolicy", .text) ]

def PodSpec.fieldsAfterPriority : Fields :=
  [ ("priorityClassName", .text),
    ("readinessGates", .listOf PodReadinessGate.shape),
    ("resourceClaims", .listOf PodResourceClaim.shape),
    ("resources", ResourceRequirements.shape), ("restartPolicy", .text),
    ("runtimeClassName", .text), ("schedulerName", .text),
    ("schedulingGates", .listOf PodSchedulingGate.shape),
    ("securityContext", PodSecurityContext.shape),
    ("serviceAccount", .text), ("serviceAccountName", .text),
    ("setHostnameAsFQDN", .flag), ("shareProcessNamespace", .flag),
    ("subdomain", .text) ]

def PodSpec.fieldsBeforeVolumes : Fields :=
  [ ("tolerations", .listOf Toleration.shape),
    ("topologySpreadConstraints", .listOf TopologySpreadConstraint.shape) ]

def PodSpec.carriedFields : Fields :=
  fieldsBeforeContainers ++ fieldsAfterContainers ++ fieldsAfterNetwork ++
  fieldsAfterSelector ++ fieldsAfterPriority ++ fieldsBeforeVolumes

def PodSpec.ofJson : Decoder PodSpec := fun json => do
  let members ← Decoder.members "PodSpec" json
  fieldsBeforeContainers.check members
  let containers ←
    Decoder.defaulted members "containers" (Decoder.list Container.ofJson)
  fieldsAfterContainers.check members
  let hostNetwork ← Decoder.optional members "hostNetwork" Decoder.bool
  fieldsAfterNetwork.check members
  let initContainers ←
    Decoder.optional members "initContainers" (Decoder.list Container.ofJson)
  let nodeName ← Decoder.optional members "nodeName" Decoder.string
  let nodeSelector ←
    Decoder.optional members "nodeSelector"
      (Decoder.dictionary Decoder.string)
  fieldsAfterSelector.check members
  let priority ← Decoder.optional members "priority" Decoder.int32
  fieldsAfterPriority.check members
  let terminationGracePeriodSeconds ←
    Decoder.optional members "terminationGracePeriodSeconds" Decoder.int64
  fieldsBeforeVolumes.check members
  let volumes ←
    Decoder.optional members "volumes" (Decoder.list Volume.ofJson)
  return {
    containers, hostNetwork, initContainers, nodeName, nodeSelector, priority,
    terminationGracePeriodSeconds, volumes,
    carried := Decoder.carried members carriedFields.keys }

/-! #### Pods -/

def PodStatus.ofJson : Decoder PodStatus := fun json => do
  let members ← Decoder.members "PodStatus" json
  fields.check members
  return { carried := Decoder.carried members fields.keys }

def Pod.ofJson : Decoder Pod := fun json => do
  let members ← Decoder.members "Pod" json
  Decoder.constant members "apiVersion" "v1" "v1"
  Decoder.constant members "kind" "Pod" "Pod"
  let metadata ← Decoder.defaulted members "metadata" ObjectMeta.ofJson
  let spec ← Decoder.optional members "spec" PodSpec.ofJson
  let status ← Decoder.optional members "status" PodStatus.ofJson
  return { metadata, spec, status }

/-! ### Writing -/

def VolumeMount.toJson (mount : VolumeMount) : Json :=
  .object <|
    [("mountPath", .string mount.mountPath)] ++
    Json.optionalMember "mountPropagation" .string mount.mountPropagation ++
    [("name", .string mount.name)] ++
    Json.optionalMember "readOnly" .bool mount.readOnly ++
    Json.optionalMember "recursiveReadOnly" .string mount.recursiveReadOnly ++
    Json.optionalMember "subPath" .string mount.subPath ++
    Json.optionalMember "subPathExpr" .string mount.subPathExpr

def ContainerPort.toJson (port : ContainerPort) : Json :=
  .object <|
    [("containerPort", Json.ofInt port.containerPort)] ++
    Json.optionalMember "hostIP" .string port.hostIP ++
    Json.optionalMember "hostPort" Json.ofInt port.hostPort ++
    Json.optionalMember "name" .string port.name ++
    Json.optionalMember "protocol" .string port.protocol

def Container.toJson (container : Container) : Json :=
  Json.ofMembers <|
    Json.optionalMember "args" Json.ofStrings container.args ++
    Json.optionalMember "command" Json.ofStrings container.command ++
    Json.optionalMember "env" (Json.ofList EnvVar.toJson) container.env ++
    Json.optionalMember "image" .string container.image ++
    [("name", .string container.name)] ++
    Json.optionalMember "ports" (Json.ofList ContainerPort.toJson)
      container.ports ++
    Json.optionalMember "volumeMounts" (Json.ofList VolumeMount.toJson)
      container.volumeMounts ++
    container.carried.entries

def EmptyDirVolumeSource.toJson (source : EmptyDirVolumeSource) : Json :=
  .object <|
    Json.optionalMember "medium" .string source.medium ++
    Json.optionalMember "sizeLimit" .string source.sizeLimit

def Volume.toJson (volume : Volume) : Json :=
  Json.ofMembers <|
    Json.optionalMember "emptyDir" EmptyDirVolumeSource.toJson
      volume.emptyDir ++
    [("name", .string volume.name)] ++ volume.carried.entries

def PodSpec.toJson (spec : PodSpec) : Json :=
  Json.ofMembers <|
    [("containers", Json.ofList Container.toJson spec.containers)] ++
    Json.optionalMember "hostNetwork" .bool spec.hostNetwork ++
    Json.optionalMember "initContainers" (Json.ofList Container.toJson)
      spec.initContainers ++
    Json.optionalMember "nodeName" .string spec.nodeName ++
    Json.optionalMember "nodeSelector" (Json.ofDictionary .string)
      spec.nodeSelector ++
    Json.optionalMember "priority" Json.ofInt spec.priority ++
    Json.optionalMember "terminationGracePeriodSeconds" Json.ofInt
      spec.terminationGracePeriodSeconds ++
    Json.optionalMember "volumes" (Json.ofList Volume.toJson) spec.volumes ++
    spec.carried.entries

def PodStatus.toJson (status : PodStatus) : Json :=
  .object status.carried.entries

def Pod.toJson (pod : Pod) : Json :=
  .object <|
    [ ("apiVersion", .string "v1"), ("kind", .string "Pod"),
      ("metadata", pod.metadata.toJson) ] ++
    Json.optionalMember "spec" PodSpec.toJson pod.spec ++
    Json.optionalMember "status" PodStatus.toJson pod.status

/-! ### The first container -/

/-- Telemetry is injected into the first container; a pod without a spec has
none. -/
def Pod.firstContainer? (pod : Pod) : Option Container :=
  pod.spec.bind fun spec => spec.containers.head?

/-- Changes the first container, if there is one. -/
def Pod.updateFirstContainer (change : Container → Container) (pod : Pod) :
    Pod :=
  { pod with
    spec := pod.spec.map fun spec =>
      match spec.containers with
      | [] => spec
      | first :: others => { spec with containers := change first :: others } }

/-- The variables of a container, none when there is no list of them. -/
def Container.variables (container : Container) : List EnvVar :=
  container.env.getD []

end PodTelemetry.Kubernetes

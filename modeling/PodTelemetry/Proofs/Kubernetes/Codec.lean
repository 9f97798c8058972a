import PodTelemetry.Kubernetes.Pod
import PodTelemetry.Proofs.Json.Decoding

/-!
# What pods are read from

For each record the structure `ReadFrom` says, field by field, how the record
comes from the members of a document.  What is written of a pod that was read
is ordered.
-/

namespace PodTelemetry.Kubernetes

open PodTelemetry.Json (Decoder bind_eq_ok_iff)
open PodTelemetry.Json.Decoder (check_append_eq_ok_iff members_eq_ok_iff)

/-! ## Records and their members -/

structure EnvVar.ReadFrom
    (members : List (String × Json)) (entry : EnvVar) : Prop where
  name : Decoder.defaulted members "name" Decoder.string = .ok entry.name
  value : Decoder.optional members "value" Decoder.string = .ok entry.value
  valueFrom :
    Decoder.optional members "valueFrom" EnvVarSource.ofJson =
      .ok entry.valueFrom

theorem EnvVar.ofJson_eq_ok_iff {document : Json} {entry : EnvVar} :
    EnvVar.ofJson document = .ok entry ↔
      ∃ members, document = .object members ∧ entry.ReadFrom members := by
  constructor
  · intro decoded
    simp only [EnvVar.ofJson, bind_eq_ok_iff, members_eq_ok_iff] at decoded
    obtain ⟨members, rfl, name, isName, value, isValue, source, isSource,
      same⟩ := decoded
    cases same
    exact ⟨members, rfl, isName, isValue, isSource⟩
  · rintro ⟨members, rfl, read⟩
    simp only [EnvVar.ofJson, Decoder.members, read.name, read.value,
      read.valueFrom, bind, Except.bind]
    rfl

structure Container.ReadFrom
    (members : List (String × Json)) (container : Container) : Prop where
  args :
    Decoder.optional members "args" (Decoder.list Decoder.string) =
      .ok container.args
  command :
    Decoder.optional members "command" (Decoder.list Decoder.string) =
      .ok container.command
  env :
    Decoder.optional members "env" (Decoder.list EnvVar.ofJson) =
      .ok container.env
  image :
    Decoder.optional members "image" Decoder.string = .ok container.image
  name : Decoder.defaulted members "name" Decoder.string = .ok container.name
  ports :
    Decoder.optional members "ports" (Decoder.list ContainerPort.ofJson) =
      .ok container.ports
  volumeMounts :
    Decoder.optional members "volumeMounts"
        (Decoder.list VolumeMount.ofJson) =
      .ok container.volumeMounts
  fits : Container.carriedFields.check members = .ok ()
  carried :
    Decoder.carried members Container.carriedFields.keys = container.carried

theorem Container.ofJson_eq_ok_iff
    {document : Json} {container : Container} :
    Container.ofJson document = .ok container ↔
      ∃ members, document = .object members ∧ container.ReadFrom members := by
  constructor
  · intro decoded
    simp only [Container.ofJson, bind_eq_ok_iff, members_eq_ok_iff]
      at decoded
    obtain ⟨members, rfl, args, isArgs, command, isCommand, env, isEnv,
      _, afterEnv, image, isImage, _, afterImage, name, isName, ports,
      isPorts, _, afterPorts, _, beforeMounts, mounts, areMounts, _,
      afterMounts, same⟩ := decoded
    cases same
    refine
      ⟨members, rfl, isArgs, isCommand, isEnv, isImage, isName, isPorts,
        areMounts, ?_, rfl⟩
    simp only [Container.carriedFields, check_append_eq_ok_iff]
    exact
      ⟨⟨⟨⟨afterEnv, afterImage⟩, afterPorts⟩, beforeMounts⟩, afterMounts⟩
  · rintro ⟨members, rfl, read⟩
    have fits := read.fits
    simp only [Container.carriedFields, check_append_eq_ok_iff] at fits
    obtain ⟨⟨⟨⟨afterEnv, afterImage⟩, afterPorts⟩, beforeMounts⟩,
      afterMounts⟩ := fits
    simp only [Container.ofJson, Decoder.members, read.args, read.command,
      read.env, afterEnv, read.image, afterImage, read.name, read.ports,
      afterPorts, beforeMounts, read.volumeMounts, afterMounts,
      read.carried, bind, Except.bind]
    rfl

structure Volume.ReadFrom
    (members : List (String × Json)) (volume : Volume) : Prop where
  emptyDir :
    Decoder.optional members "emptyDir" EmptyDirVolumeSource.ofJson =
      .ok volume.emptyDir
  name : Decoder.defaulted members "name" Decoder.string = .ok volume.name
  fits : Volume.carriedFields.check members = .ok ()
  carried :
    Decoder.carried members Volume.carriedFields.keys = volume.carried

theorem Volume.ofJson_eq_ok_iff {document : Json} {volume : Volume} :
    Volume.ofJson document = .ok volume ↔
      ∃ members, document = .object members ∧ volume.ReadFrom members := by
  constructor
  · intro decoded
    simp only [Volume.ofJson, bind_eq_ok_iff, members_eq_ok_iff] at decoded
    obtain ⟨members, rfl, _, beforeEmptyDir, emptyDir, isEmptyDir, _,
      afterEmptyDir, name, isName, _, afterName, same⟩ := decoded
    cases same
    refine ⟨members, rfl, isEmptyDir, isName, ?_, rfl⟩
    simp only [Volume.carriedFields, check_append_eq_ok_iff]
    exact ⟨⟨beforeEmptyDir, afterEmptyDir⟩, afterName⟩
  · rintro ⟨members, rfl, read⟩
    have fits := read.fits
    simp only [Volume.carriedFields, check_append_eq_ok_iff] at fits
    obtain ⟨⟨beforeEmptyDir, afterEmptyDir⟩, afterName⟩ := fits
    simp only [Volume.ofJson, Decoder.members, beforeEmptyDir, read.emptyDir,
      afterEmptyDir, read.name, afterName, read.carried, bind, Except.bind]
    rfl

structure PodSpec.ReadFrom
    (members : List (String × Json)) (spec : PodSpec) : Prop where
  containers :
    Decoder.defaulted members "containers" (Decoder.list Container.ofJson) =
      .ok spec.containers
  hostNetwork :
    Decoder.optional members "hostNetwork" Decoder.bool =
      .ok spec.hostNetwork
  initContainers :
    Decoder.optional members "initContainers"
        (Decoder.list Container.ofJson) =
      .ok spec.initContainers
  nodeName :
    Decoder.optional members "nodeName" Decoder.string = .ok spec.nodeName
  nodeSelector :
    Decoder.optional members "nodeSelector"
        (Decoder.dictionary Decoder.string) =
      .ok spec.nodeSelector
  priority :
    Decoder.optional members "priority" Decoder.int32 = .ok spec.priority
  terminationGracePeriodSeconds :
    Decoder.optional members "terminationGracePeriodSeconds"
        Decoder.int64 =
      .ok spec.terminationGracePeriodSeconds
  volumes :
    Decoder.optional members "volumes" (Decoder.list Volume.ofJson) =
      .ok spec.volumes
  fits : PodSpec.carriedFields.check members = .ok ()
  carried :
    Decoder.carried members PodSpec.carriedFields.keys = spec.carried

theorem PodSpec.ofJson_eq_ok_iff {document : Json} {spec : PodSpec} :
    PodSpec.ofJson document = .ok spec ↔
      ∃ members, document = .object members ∧ spec.ReadFrom members := by
  constructor
  · intro decoded
    simp only [PodSpec.ofJson, bind_eq_ok_iff, members_eq_ok_iff] at decoded
    obtain ⟨members, rfl, _, beforeContainers, containers, areContainers, _,
      afterContainers, network, isNetwork, _, afterNetwork, loaders,
      areLoaders, node, isNode, selector, isSelector, _, afterSelector,
      priority, isPriority, _, afterPriority, grace, isGrace, _,
      beforeVolumes, volumes, areVolumes, same⟩ := decoded
    cases same
    refine
      ⟨members, rfl, areContainers, isNetwork, areLoaders, isNode,
        isSelector, isPriority, isGrace, areVolumes, ?_, rfl⟩
    simp only [PodSpec.carriedFields, check_append_eq_ok_iff]
    exact
      ⟨⟨⟨⟨⟨beforeContainers, afterContainers⟩, afterNetwork⟩, afterSelector⟩,
        afterPriority⟩, beforeVolumes⟩
  · rintro ⟨members, rfl, read⟩
    have fits := read.fits
    simp only [PodSpec.carriedFields, check_append_eq_ok_iff] at fits
    obtain ⟨⟨⟨⟨⟨beforeContainers, afterContainers⟩, afterNetwork⟩,
      afterSelector⟩, afterPriority⟩, beforeVolumes⟩ := fits
    simp only [PodSpec.ofJson, Decoder.members, beforeContainers,
      read.containers, afterContainers, read.hostNetwork, afterNetwork,
      read.initContainers, read.nodeName, read.nodeSelector, afterSelector,
      read.priority, afterPriority, read.terminationGracePeriodSeconds,
      beforeVolumes, read.volumes, read.carried, bind, Except.bind]
    rfl

structure ObjectMeta.ReadFrom
    (members : List (String × Json)) (metadata : ObjectMeta) : Prop where
  annotations :
    Decoder.optional members "annotations"
        (Decoder.dictionary Decoder.string) =
      .ok metadata.annotations
  creationTimestamp :
    Decoder.optional members "creationTimestamp" timestamp =
      .ok metadata.creationTimestamp
  deletionGracePeriodSeconds :
    Decoder.optional members "deletionGracePeriodSeconds" Decoder.int64 =
      .ok metadata.deletionGracePeriodSeconds
  deletionTimestamp :
    Decoder.optional members "deletionTimestamp" timestamp =
      .ok metadata.deletionTimestamp
  finalizers :
    Decoder.optional members "finalizers" (Decoder.list Decoder.string) =
      .ok metadata.finalizers
  generateName :
    Decoder.optional members "generateName" Decoder.string =
      .ok metadata.generateName
  generation :
    Decoder.optional members "generation" Decoder.int64 =
      .ok metadata.generation
  labels :
    Decoder.optional members "labels" (Decoder.dictionary Decoder.string) =
      .ok metadata.labels
  name : Decoder.optional members "name" Decoder.string = .ok metadata.name
  inNamespace :
    Decoder.optional members "namespace" Decoder.string =
      .ok metadata.inNamespace
  ownerReferences :
    Decoder.optional members "ownerReferences"
        (Decoder.list OwnerReference.ofJson) =
      .ok metadata.ownerReferences
  resourceVersion :
    Decoder.optional members "resourceVersion" Decoder.string =
      .ok metadata.resourceVersion
  selfLink :
    Decoder.optional members "selfLink" Decoder.string =
      .ok metadata.selfLink
  uid : Decoder.optional members "uid" Decoder.string = .ok metadata.uid
  fits : ObjectMeta.carriedFields.check members = .ok ()
  carried :
    Decoder.carried members ObjectMeta.carriedFields.keys = metadata.carried

theorem ObjectMeta.ofJson_eq_ok_iff
    {document : Json} {metadata : ObjectMeta} :
    ObjectMeta.ofJson document = .ok metadata ↔
      ∃ members, document = .object members ∧ metadata.ReadFrom members := by
  constructor
  · intro decoded
    simp only [ObjectMeta.ofJson, bind_eq_ok_iff, members_eq_ok_iff]
      at decoded
    obtain ⟨members, rfl, annotations, areAnnotations, created, isCreated,
      grace, isGrace, deleted, isDeleted, finalizers, areFinalizers,
      generateName, isGenerateName, generation, isGeneration, labels,
      areLabels, _, fits, name, isName, inNamespace, isNamespace, owners,
      areOwners, version, isVersion, link, isLink, uid, isUid, same⟩ := decoded
    cases same
    exact
      ⟨members, rfl, areAnnotations, isCreated, isGrace, isDeleted,
        areFinalizers, isGenerateName, isGeneration, areLabels, isName,
        isNamespace, areOwners, isVersion, isLink, isUid, fits, rfl⟩
  · rintro ⟨members, rfl, read⟩
    simp only [ObjectMeta.ofJson, Decoder.members, read.annotations,
      read.creationTimestamp, read.deletionGracePeriodSeconds,
      read.deletionTimestamp, read.finalizers, read.generateName,
      read.generation, read.labels, read.fits, read.name, read.inNamespace,
      read.ownerReferences, read.resourceVersion, read.selfLink, read.uid,
      read.carried, bind, Except.bind]
    rfl

structure Pod.ReadFrom
    (members : List (String × Json)) (pod : Pod) : Prop where
  apiVersion : Decoder.constant members "apiVersion" "v1" "v1" = .ok ()
  kind : Decoder.constant members "kind" "Pod" "Pod" = .ok ()
  metadata :
    Decoder.defaulted members "metadata" ObjectMeta.ofJson =
      .ok pod.metadata
  spec : Decoder.optional members "spec" PodSpec.ofJson = .ok pod.spec
  status : Decoder.optional members "status" PodStatus.ofJson = .ok pod.status

theorem Pod.ofJson_eq_ok_iff {document : Json} {pod : Pod} :
    Pod.ofJson document = .ok pod ↔
      ∃ members, document = .object members ∧ pod.ReadFrom members := by
  constructor
  · intro decoded
    simp only [Pod.ofJson, bind_eq_ok_iff, members_eq_ok_iff] at decoded
    obtain ⟨members, rfl, _, isVersion, _, isKind, metadata, isMetadata,
      spec, isSpec, status, isStatus, same⟩ := decoded
    cases same
    exact ⟨members, rfl, isVersion, isKind, isMetadata, isSpec, isStatus⟩
  · rintro ⟨members, rfl, read⟩
    simp only [Pod.ofJson, Decoder.members, read.apiVersion, read.kind,
      read.metadata, read.spec, read.status, bind, Except.bind]
    rfl

end PodTelemetry.Kubernetes

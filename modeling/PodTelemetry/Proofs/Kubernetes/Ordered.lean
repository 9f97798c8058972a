import PodTelemetry.Proofs.Kubernetes.Codec

/-!
# Pods are written in order

What is written of a record has ascending keys, whatever the record holds; the
members that are carried along were ordered in the document already.
-/

namespace PodTelemetry.Kubernetes

open PodTelemetry.Json
open PodTelemetry.Json.Decoder (Orderly)

/-! ## Records without members carried along -/

@[simp]
theorem ObjectFieldSelector.ordered_toJson
    (selector : ObjectFieldSelector) :
    selector.toJson.Ordered := by
  have taken :=
    keys_append (keys_optionalMember "apiVersion" .string selector.apiVersion)
      (keys_member "fieldPath" (.string selector.fieldPath))
  exact ordered_of_keys (by decide) taken (by simp)

@[simp]
theorem KeySelector.ordered_toJson (selector : KeySelector) :
    selector.toJson.Ordered := by
  have taken :=
    keys_append
      (keys_append (keys_member "key" (.string selector.key))
        (keys_member "name" (.string selector.name)))
      (keys_optionalMember "optional" .bool selector.isOptional)
  exact ordered_of_keys (by decide) taken (by simp)

@[simp]
theorem ResourceFieldSelector.ordered_toJson
    (selector : ResourceFieldSelector) :
    selector.toJson.Ordered := by
  have taken :=
    keys_append
      (keys_append
        (keys_optionalMember "containerName" .string selector.containerName)
        (keys_optionalMember "divisor" .string selector.divisor))
      (keys_member "resource" (.string selector.resource))
  exact ordered_of_keys (by decide) taken (by simp)

@[simp]
theorem EnvVarSource.ordered_toJson (source : EnvVarSource) :
    source.toJson.Ordered := by
  have taken :=
    keys_append
      (keys_append
        (keys_append
          (keys_optionalMember "configMapKeyRef" KeySelector.toJson
            source.configMapKeyRef)
          (keys_optionalMember "fieldRef" ObjectFieldSelector.toJson
            source.fieldRef))
        (keys_optionalMember "resourceFieldRef" ResourceFieldSelector.toJson
          source.resourceFieldRef))
      (keys_optionalMember "secretKeyRef" KeySelector.toJson
        source.secretKeyRef)
  exact ordered_of_keys (by decide) taken (by simp)

@[simp]
theorem EnvVar.ordered_toJson (entry : EnvVar) :
    entry.toJson.Ordered := by
  have taken :=
    keys_append
      (keys_append (keys_member "name" (.string entry.name))
        (keys_optionalMember "value" .string entry.value))
      (keys_optionalMember "valueFrom" EnvVarSource.toJson entry.valueFrom)
  exact ordered_of_keys (by decide) taken (by simp)

@[simp]
theorem OwnerReference.ordered_toJson (owner : OwnerReference) :
    owner.toJson.Ordered := by
  have taken :=
    keys_append
      (keys_append
        (keys_append (keys_member "apiVersion" (.string owner.apiVersion))
          (keys_optionalMember "blockOwnerDeletion" .bool
            owner.blockOwnerDeletion))
        (keys_optionalMember "controller" .bool owner.controller))
      (keys_append (keys_member "kind" (.string owner.kind))
        (keys_append (keys_member "name" (.string owner.name))
          (keys_member "uid" (.string owner.uid))))
  exact ordered_of_keys (by decide) taken (by simp)

@[simp]
theorem VolumeMount.ordered_toJson (mount : VolumeMount) :
    mount.toJson.Ordered := by
  have taken :=
    keys_append
      (keys_append
        (keys_append
          (keys_append
            (keys_append
              (keys_append
                (keys_member "mountPath" (.string mount.mountPath))
                (keys_optionalMember "mountPropagation" .string
                  mount.mountPropagation))
              (keys_member "name" (.string mount.name)))
            (keys_optionalMember "readOnly" .bool mount.readOnly))
          (keys_optionalMember "recursiveReadOnly" .string
            mount.recursiveReadOnly))
        (keys_optionalMember "subPath" .string mount.subPath))
      (keys_optionalMember "subPathExpr" .string mount.subPathExpr)
  exact ordered_of_keys (by decide) taken (by simp)

@[simp]
theorem ContainerPort.ordered_toJson (port : ContainerPort) :
    port.toJson.Ordered := by
  have taken :=
    keys_append
      (keys_append
        (keys_append
          (keys_append
            (keys_member "containerPort" (ofInt port.containerPort))
            (keys_optionalMember "hostIP" .string port.hostIP))
          (keys_optionalMember "hostPort" ofInt port.hostPort))
        (keys_optionalMember "name" .string port.name))
      (keys_optionalMember "protocol" .string port.protocol)
  exact ordered_of_keys (by decide) taken (by simp)

@[simp]
theorem EmptyDirVolumeSource.ordered_toJson
    (source : EmptyDirVolumeSource) :
    source.toJson.Ordered := by
  have taken :=
    keys_append (keys_optionalMember "medium" .string source.medium)
      (keys_optionalMember "sizeLimit" .string source.sizeLimit)
  exact ordered_of_keys (by decide) taken (by simp)

/-! ## Keys of records -/

theorem EnvVar.isRecord_toJson (entry : EnvVar) : IsRecord entry.toJson :=
  ⟨_, rfl, (ordered_object_iff.1 entry.ordered_toJson).1⟩

theorem Container.isRecord_toJson (container : Container) :
    IsRecord container.toJson :=
  isRecord_ofMembers _

theorem PodSpec.isRecord_toJson (spec : PodSpec) : IsRecord spec.toJson :=
  isRecord_ofMembers _

theorem ObjectMeta.isRecord_toJson (metadata : ObjectMeta) :
    IsRecord metadata.toJson :=
  isRecord_ofMembers _

theorem Pod.isRecord_toJson (pod : Pod) : IsRecord pod.toJson := by
  have taken :=
    keys_append
      (keys_append
        (keys_append (keys_member "apiVersion" (.string "v1"))
          (keys_append (keys_member "kind" (.string "Pod"))
            (keys_member "metadata" pod.metadata.toJson)))
        (keys_optionalMember "spec" PodSpec.toJson pod.spec))
      (keys_optionalMember "status" PodStatus.toJson pod.status)
  exact ⟨_, rfl, Entries.ascending_of_keys (by decide) taken⟩

/-! ## Records with members carried along -/

theorem Container.orderly :
    Orderly Container.ofJson Container.toJson := by
  intro document container ordered decoded
  obtain ⟨members, rfl, read⟩ := Container.ofJson_eq_ok_iff.1 decoded
  have carried : OrderedMembers container.carried.entries := by
    rw [← read.carried]
    exact orderedMembers_iff.2 (Decoder.ordered_carried ordered _)
  apply ordered_ofMembers
  simp [carried, ordered_ofList]

theorem Volume.orderly : Orderly Volume.ofJson Volume.toJson := by
  intro document volume ordered decoded
  obtain ⟨members, rfl, read⟩ := Volume.ofJson_eq_ok_iff.1 decoded
  have carried : OrderedMembers volume.carried.entries := by
    rw [← read.carried]
    exact orderedMembers_iff.2 (Decoder.ordered_carried ordered _)
  apply ordered_ofMembers
  simp [carried]

theorem PodStatus.orderly : Orderly PodStatus.ofJson PodStatus.toJson := by
  intro document status ordered decoded
  simp only [PodStatus.ofJson, bind_eq_ok_iff,
    Decoder.members_eq_ok_iff] at decoded
  obtain ⟨members, rfl, _, _, same⟩ := decoded
  cases same
  exact
    ordered_object_iff.2
      ⟨Dictionary.ascending _, Decoder.ordered_carried ordered _⟩

theorem ObjectMeta.orderly :
    Orderly ObjectMeta.ofJson ObjectMeta.toJson := by
  intro document metadata ordered decoded
  obtain ⟨members, rfl, read⟩ := ObjectMeta.ofJson_eq_ok_iff.1 decoded
  have carried : OrderedMembers metadata.carried.entries := by
    rw [← read.carried]
    exact orderedMembers_iff.2 (Decoder.ordered_carried ordered _)
  apply ordered_ofMembers
  simp [carried, ordered_ofList]

theorem PodSpec.orderly : Orderly PodSpec.ofJson PodSpec.toJson := by
  intro document spec ordered decoded
  obtain ⟨members, rfl, read⟩ := PodSpec.ofJson_eq_ok_iff.1 decoded
  have carried : OrderedMembers spec.carried.entries := by
    rw [← read.carried]
    exact orderedMembers_iff.2 (Decoder.ordered_carried ordered _)
  have containers :=
    Container.orderly.list.defaulted (ordered_ofList nofun) ordered
      read.containers
  have loaders := Container.orderly.list.optional ordered read.initContainers
  have volumes := Volume.orderly.list.optional ordered read.volumes
  apply ordered_ofMembers
  simpa [carried, containers] using And.intro loaders volumes

theorem Pod.orderly : Orderly Pod.ofJson Pod.toJson := by
  intro document pod ordered decoded
  obtain ⟨members, rfl, read⟩ := Pod.ofJson_eq_ok_iff.1 decoded
  have plain : (default : ObjectMeta).toJson.Ordered :=
    ordered_ofMembers orderedMembers_nil
  have metadata := ObjectMeta.orderly.defaulted plain ordered read.metadata
  have spec := PodSpec.orderly.optional ordered read.spec
  have status := PodStatus.orderly.optional ordered read.status
  obtain ⟨_, written, ascending⟩ := pod.isRecord_toJson
  cases written
  refine ordered_object_iff.2 ⟨ascending, orderedMembers_iff.1 ?_⟩
  simpa [metadata] using And.intro spec status

end PodTelemetry.Kubernetes

import PodTelemetry.Proofs.Kubernetes.Ordered

/-!
# Pods that are added to

A pod grows when variables of its first container get a value, when variables,
mounts, volumes and init containers are added behind those that are there, and
when its annotations change.  Every such change carries over to whatever
document the pod was read from.
-/

namespace PodTelemetry.Kubernetes

open PodTelemetry.Json
open PodTelemetry.Json.Decoder

/-! ## Variables -/

theorem ObjectFieldSelector.ofJson_toJson (selector : ObjectFieldSelector) :
    ObjectFieldSelector.ofJson selector.toJson = .ok selector := by
  refine bind_eq_ok_iff.2 ⟨_, rfl, bind_eq_ok_iff.2 ?_⟩
  refine
    ⟨selector.apiVersion,
      optional_written .string (by simp) nofun fun _ => rfl,
      bind_eq_ok_iff.2 ⟨selector.fieldPath, ?_, rfl⟩⟩
  exact defaulted_written .string (by simp) nofun rfl

theorem KeySelector.ofJson_toJson
    (typeName : String) (selector : KeySelector) :
    KeySelector.ofJson typeName selector.toJson = .ok selector := by
  refine bind_eq_ok_iff.2 ⟨_, rfl, bind_eq_ok_iff.2 ?_⟩
  refine
    ⟨selector.key,
      defaulted_written .string (by simp) nofun rfl,
      bind_eq_ok_iff.2 ⟨selector.name, ?_, bind_eq_ok_iff.2 ?_⟩⟩
  · exact defaulted_written .string (by simp) nofun rfl
  · exact
      ⟨selector.isOptional,
        optional_written .bool (by simp) nofun fun _ => rfl, rfl⟩

theorem ResourceFieldSelector.ofJson_toJson
    (selector : ResourceFieldSelector) :
    ResourceFieldSelector.ofJson selector.toJson = .ok selector := by
  refine bind_eq_ok_iff.2 ⟨_, rfl, bind_eq_ok_iff.2 ?_⟩
  refine
    ⟨selector.containerName,
      optional_written .string (by simp) nofun fun _ => rfl,
      bind_eq_ok_iff.2 ⟨selector.divisor, ?_, bind_eq_ok_iff.2 ?_⟩⟩
  · exact optional_written .string (by simp) nofun fun _ => rfl
  · exact
      ⟨selector.resource,
        defaulted_written .string (by simp) nofun rfl, rfl⟩

theorem EnvVarSource.ofJson_toJson (source : EnvVarSource) :
    EnvVarSource.ofJson source.toJson = .ok source := by
  refine bind_eq_ok_iff.2 ⟨_, rfl, bind_eq_ok_iff.2 ?_⟩
  refine
    ⟨source.configMapKeyRef,
      optional_written KeySelector.toJson (by simp) nofun
        (KeySelector.ofJson_toJson _),
      bind_eq_ok_iff.2 ⟨source.fieldRef, ?_, bind_eq_ok_iff.2 ?_⟩⟩
  · exact
      optional_written _ (by simp) nofun ObjectFieldSelector.ofJson_toJson
  · refine
      ⟨source.resourceFieldRef,
        optional_written _ (by simp) nofun ResourceFieldSelector.ofJson_toJson,
        bind_eq_ok_iff.2 ⟨source.secretKeyRef, ?_, rfl⟩⟩
    exact
      optional_written KeySelector.toJson (by simp) nofun
        (KeySelector.ofJson_toJson _)

/-- A variable is read back from what is written of it. -/
theorem EnvVar.readable (entry : EnvVar) :
    Readable EnvVar.ofJson EnvVar.toJson entry := by
  refine ⟨entry.ordered_toJson, EnvVar.ofJson_eq_ok_iff.2 ⟨_, rfl, ?_⟩⟩
  refine ⟨?_, ?_, ?_⟩
  · exact defaulted_written .string (by simp) nofun rfl
  · exact optional_written .string (by simp) nofun fun _ => rfl
  · exact optional_written _ (by simp) nofun EnvVarSource.ofJson_toJson

/-- The variable itself, or with another text as its value. -/
def EnvVar.Revalued (old new : EnvVar) : Prop :=
  new = old ∨ ∃ text, new = { old with value := some text }

theorem EnvVar.Revalued.refl (entry : EnvVar) : entry.Revalued entry :=
  Or.inl rfl

theorem EnvVar.Revalued.trans
    {first second third : EnvVar}
    (earlier : first.Revalued second) (later : second.Revalued third) :
    first.Revalued third := by
  rcases earlier with rfl | ⟨text, rfl⟩
  · exact later
  · rcases later with rfl | ⟨other, rfl⟩
    · exact Or.inr ⟨text, rfl⟩
    · exact Or.inr ⟨other, rfl⟩

theorem EnvVar.Revalued.follows
    {old new : EnvVar} (revalued : old.Revalued new) :
    Follows EnvVar.ofJson EnvVar.toJson old new := by
  rcases revalued with rfl | ⟨text, rfl⟩
  · exact Follows.refl (fun _ entry _ _ => entry.ordered_toJson) new
  · intro document ordered decoded
    obtain ⟨members, rfl, read⟩ := EnvVar.ofJson_eq_ok_iff.1 decoded
    have value :
        OptionFollows Decoder.string .string old.value (some text) := by
      cases old.value with
      | none =>
          exact .added (ordered_string text) (string_ne_null text) rfl
      | some before =>
          exact .changed (Follows.string before text)
    obtain ⟨valueResult, valuePart, valueBack⟩ :=
      value.member string_null ordered read.value
    obtain ⟨result, transfers, changed, kept⟩ :=
      Transfers.record ["value"] (fun _ => valueResult)
        old.isRecord_toJson
        ({ old with value := some text } : EnvVar).isRecord_toJson
        old.ordered_toJson ordered
        (by simpa [EnvVar.toJson] using valuePart)
        (by
          intro key other
          have noValue : "value" ≠ key := fun same => other (by simp [same])
          simp [EnvVar.toJson, noValue])
    refine
      ⟨.object result, transfers,
        EnvVar.ofJson_eq_ok_iff.2 ⟨result, rfl, ?_, ?_, ?_⟩⟩
    · rw [defaulted_congr (kept "name" (by decide))]
      exact read.name
    · exact valueBack result (changed "value" (by decide))
    · rw [optional_congr (kept "valueFrom" (by decide))]
      exact read.valueFrom

theorem EnvVar.extends_trans
    {first second third : List EnvVar}
    (earlier :
      Extends EnvVar.Revalued (Readable EnvVar.ofJson EnvVar.toJson) first
        second)
    (later :
      Extends EnvVar.Revalued (Readable EnvVar.ofJson EnvVar.toJson) second
        third) :
    Extends EnvVar.Revalued (Readable EnvVar.ofJson EnvVar.toJson) first
      third := by
  refine Extends.trans ?_ (fun _ new _ _ => new.readable) earlier later
  intro _ _ _ before after
  exact before.trans after

/-! ## Containers -/

/-- Variables and mounts are added, and variables get a value. -/
structure Container.Grown (old new : Container) : Prop where
  env :
    PodTelemetry.Grown EnvVar.Revalued
      (Readable EnvVar.ofJson EnvVar.toJson) old.env new.env
  volumeMounts :
    PodTelemetry.Grown Eq (Readable VolumeMount.ofJson VolumeMount.toJson)
      old.volumeMounts new.volumeMounts
  others : new = { old with env := new.env, volumeMounts := new.volumeMounts }

theorem Container.Grown.refl (container : Container) :
    container.Grown container :=
  ⟨.refl container.env, .refl container.volumeMounts, rfl⟩

theorem Container.Grown.trans
    {first second third : Container}
    (earlier : first.Grown second) (later : second.Grown third) :
    first.Grown third := by
  refine ⟨?_, ?_, ?_⟩
  · refine
      PodTelemetry.Grown.trans ?_ (fun _ new _ _ => new.readable) earlier.env
        later.env
    intro _ _ _ before after
    exact before.trans after
  · exact earlier.volumeMounts.trans_of_eq later.volumeMounts
  · rw [later.others, earlier.others]

private theorem mountOrderly :
    Orderly VolumeMount.ofJson VolumeMount.toJson :=
  fun _ mount _ _ => mount.ordered_toJson

theorem Container.Grown.follows
    {old new : Container} (grown : old.Grown new) :
    Follows Container.ofJson Container.toJson old new := by
  intro document ordered decoded
  have oldOrdered := Container.orderly document old ordered decoded
  obtain ⟨members, rfl, read⟩ := Container.ofJson_eq_ok_iff.1 decoded
  have env :
      OptionFollows (Decoder.list EnvVar.ofJson) (ofList EnvVar.toJson)
        old.env new.env := by
    apply OptionFollows.list _ _ grown.env
    · exact fun _ entry _ _ => entry.ordered_toJson
    · exact EnvVar.Revalued.follows
  have mounts :
      OptionFollows (Decoder.list VolumeMount.ofJson)
        (ofList VolumeMount.toJson) old.volumeMounts new.volumeMounts :=
    OptionFollows.list_of_eq mountOrderly grown.volumeMounts
  obtain ⟨envResult, envPart, envBack⟩ :=
    env.member (list_null _) ordered read.env
  obtain ⟨mountResult, mountPart, mountBack⟩ :=
    mounts.member (list_null _) ordered read.volumeMounts
  have carried :
      ∀ key, key ∉ carriedFields.keys →
        Entries.readLast key old.carried.entries = none :=
    fun key other => readLast_carried ordered read.carried other
  obtain ⟨result, transfers, changed, kept⟩ :=
    Transfers.record ["env", "volumeMounts"]
      (fun key => if key = "env" then envResult else mountResult)
      old.isRecord_toJson new.isRecord_toJson oldOrdered ordered
      (by
        rw [grown.others]
        simp [Container.toJson, carried "env" (by decide),
          carried "volumeMounts" (by decide), envPart, mountPart])
      (by
        intro key other
        simp only [List.mem_cons, List.not_mem_nil, or_false, not_or]
          at other
        rw [grown.others]
        simp [Container.toJson, Ne.symm other.1, Ne.symm other.2])
  refine
    ⟨.object result, transfers,
      Container.ofJson_eq_ok_iff.2 ⟨result, rfl, ?_⟩⟩
  rw [grown.others]
  exact
    { args := (optional_congr (kept _ (by decide)) _).trans read.args
      command := (optional_congr (kept _ (by decide)) _).trans read.command
      env := envBack result (changed _ (by decide))
      image := (optional_congr (kept _ (by decide)) _).trans read.image
      name := (defaulted_congr (kept _ (by decide)) _).trans read.name
      ports := (optional_congr (kept _ (by decide)) _).trans read.ports
      volumeMounts := mountBack result (changed _ (by decide))
      fits := check_of_kept kept (by decide) read.fits
      carried :=
        (carried_congr ordered transfers.ordered kept (by decide)).trans
          read.carried }

/-! ## Specs -/

/-- Containers grow, and volumes and init containers are added. -/
structure PodSpec.Grown (old new : PodSpec) : Prop where
  containers :
    Extends Container.Grown (fun _ => False) old.containers new.containers
  initContainers :
    PodTelemetry.Grown Eq (Readable Container.ofJson Container.toJson)
      old.initContainers new.initContainers
  volumes :
    PodTelemetry.Grown Eq (Readable Volume.ofJson Volume.toJson)
      old.volumes new.volumes
  others :
    new =
      { old with
        containers := new.containers
        initContainers := new.initContainers
        volumes := new.volumes }

theorem PodSpec.Grown.refl (spec : PodSpec) : spec.Grown spec :=
  ⟨.refl .refl spec.containers, .refl spec.initContainers,
    .refl spec.volumes, rfl⟩

theorem PodSpec.Grown.trans
    {first second third : PodSpec}
    (earlier : first.Grown second) (later : second.Grown third) :
    first.Grown third := by
  refine ⟨?_, ?_, ?_, ?_⟩
  · refine Extends.trans ?_ ?_ earlier.containers later.containers
    · intro _ _ _ before after
      exact before.trans after
    · exact fun _ _ _ impossible => impossible
  · exact earlier.initContainers.trans_of_eq later.initContainers
  · exact earlier.volumes.trans_of_eq later.volumes
  · rw [later.others, earlier.others]

/-- Containers are written even when a document has none, so a spec without
containers is left out. -/
theorem PodSpec.Grown.follows
    {old new : PodSpec} (grown : old.Grown new)
    (given : old.containers ≠ []) :
    Follows PodSpec.ofJson PodSpec.toJson old new := by
  intro document ordered decoded
  have oldOrdered := PodSpec.orderly document old ordered decoded
  obtain ⟨members, rfl, read⟩ := PodSpec.ofJson_eq_ok_iff.1 decoded
  have containers :
      Follows (Decoder.list Container.ofJson) (ofList Container.toJson)
        old.containers new.containers := by
    refine
      Follows.list ?_
        (grown.containers.mono fun _ impossible => impossible.elim)
    exact Container.Grown.follows
  have loaders :
      OptionFollows (Decoder.list Container.ofJson)
        (ofList Container.toJson) old.initContainers new.initContainers :=
    OptionFollows.list_of_eq Container.orderly grown.initContainers
  have volumes :
      OptionFollows (Decoder.list Volume.ofJson) (ofList Volume.toJson)
        old.volumes new.volumes :=
    OptionFollows.list_of_eq Volume.orderly grown.volumes
  obtain ⟨containerResult, containerPart, containerBack⟩ :=
    containers.member (list_null _) given ordered read.containers
  obtain ⟨loaderResult, loaderPart, loaderBack⟩ :=
    loaders.member (list_null _) ordered read.initContainers
  obtain ⟨volumeResult, volumePart, volumeBack⟩ :=
    volumes.member (list_null _) ordered read.volumes
  have carried :
      ∀ key, key ∉ carriedFields.keys →
        Entries.readLast key old.carried.entries = none :=
    fun key other => readLast_carried ordered read.carried other
  obtain ⟨result, transfers, changed, kept⟩ :=
    Transfers.record ["containers", "initContainers", "volumes"]
      (fun key =>
        if key = "containers" then containerResult
        else if key = "initContainers" then loaderResult
        else volumeResult)
      old.isRecord_toJson new.isRecord_toJson oldOrdered ordered
      (by
        rw [grown.others]
        simp [PodSpec.toJson, carried "containers" (by decide),
          carried "initContainers" (by decide), carried "volumes" (by decide),
          containerPart, loaderPart, volumePart])
      (by
        intro key other
        simp only [List.mem_cons, List.not_mem_nil, or_false, not_or]
          at other
        rw [grown.others]
        simp [PodSpec.toJson, Ne.symm other.1, Ne.symm other.2.1,
          Ne.symm other.2.2])
  refine
    ⟨.object result, transfers, PodSpec.ofJson_eq_ok_iff.2 ⟨result, rfl, ?_⟩⟩
  rw [grown.others]
  exact
    { containers := containerBack result (changed _ (by decide))
      hostNetwork :=
        (optional_congr (kept _ (by decide)) _).trans read.hostNetwork
      initContainers := loaderBack result (changed _ (by decide))
      nodeName := (optional_congr (kept _ (by decide)) _).trans read.nodeName
      nodeSelector :=
        (optional_congr (kept _ (by decide)) _).trans read.nodeSelector
      priority := (optional_congr (kept _ (by decide)) _).trans read.priority
      terminationGracePeriodSeconds :=
        (optional_congr (kept _ (by decide)) _).trans
          read.terminationGracePeriodSeconds
      volumes := volumeBack result (changed _ (by decide))
      fits := check_of_kept kept (by decide) read.fits
      carried :=
        (carried_congr ordered transfers.ordered kept (by decide)).trans
          read.carried }

/-! ## Metadata -/

/-- The metadata itself, or with other annotations. -/
def ObjectMeta.Annotated (old new : ObjectMeta) : Prop :=
  new = old ∨
    ∃ annotations, new = { old with annotations := some annotations }

theorem ObjectMeta.Annotated.follows
    {old new : ObjectMeta} (annotated : old.Annotated new) :
    Follows ObjectMeta.ofJson ObjectMeta.toJson old new := by
  rcases annotated with rfl | ⟨annotations, rfl⟩
  · exact Follows.refl ObjectMeta.orderly new
  · intro document ordered decoded
    have oldOrdered := ObjectMeta.orderly document old ordered decoded
    obtain ⟨members, rfl, read⟩ := ObjectMeta.ofJson_eq_ok_iff.1 decoded
    have texts :
        OptionFollows (Decoder.dictionary Decoder.string)
          (ofDictionary .string) old.annotations (some annotations) := by
      cases old.annotations with
      | none =>
          have inOrder := ordered_ofTexts annotations
          exact .added inOrder nofun ((texts_eq_ok_iff inOrder).2 rfl)
      | some before =>
          exact .changed (Follows.texts before annotations)
    obtain ⟨textResult, textPart, textBack⟩ :=
      texts.member nofun ordered read.annotations
    have carried :
        Entries.readLast "annotations" old.carried.entries = none :=
      readLast_carried ordered read.carried (by decide)
    obtain ⟨result, transfers, changed, kept⟩ :=
      Transfers.record ["annotations"] (fun _ => textResult)
        old.isRecord_toJson
        ({ old with annotations := some annotations } :
          ObjectMeta).isRecord_toJson
        oldOrdered ordered
        (by simpa [ObjectMeta.toJson, carried] using textPart)
        (by
          intro key other
          simp only [List.mem_singleton] at other
          simp [ObjectMeta.toJson, Ne.symm other])
    have optionalKept :
        ∀ {α : Type} (key : String) (decode : Decoder α),
          key ∉ ["annotations"] →
            Decoder.optional result key decode =
              Decoder.optional members key decode :=
      fun key decode other => optional_congr (kept key other) decode
    refine
      ⟨.object result, transfers,
        ObjectMeta.ofJson_eq_ok_iff.2 ⟨result, rfl, ?_⟩⟩
    refine
      { annotations := textBack result (changed _ (by decide))
        creationTimestamp :=
          (optionalKept _ _ (by decide)).trans read.creationTimestamp
        deletionGracePeriodSeconds :=
          (optionalKept _ _ (by decide)).trans read.deletionGracePeriodSeconds
        deletionTimestamp :=
          (optionalKept _ _ (by decide)).trans read.deletionTimestamp
        finalizers := (optionalKept _ _ (by decide)).trans read.finalizers
        generateName := (optionalKept _ _ (by decide)).trans read.generateName
        generation := (optionalKept _ _ (by decide)).trans read.generation
        labels := (optionalKept _ _ (by decide)).trans read.labels
        name := (optionalKept _ _ (by decide)).trans read.name
        inNamespace := (optionalKept _ _ (by decide)).trans read.inNamespace
        ownerReferences :=
          (optionalKept _ _ (by decide)).trans read.ownerReferences
        resourceVersion :=
          (optionalKept _ _ (by decide)).trans read.resourceVersion
        selfLink := (optionalKept _ _ (by decide)).trans read.selfLink
        uid := (optionalKept _ _ (by decide)).trans read.uid
        fits := check_of_kept kept (by decide) read.fits
        carried := ?_ }
    exact
      (carried_congr ordered transfers.ordered kept (by decide)).trans
        read.carried

/-! ## Pods -/

/-- The annotations change and the spec grows. -/
structure Pod.Grown (old new : Pod) : Prop where
  metadata : old.metadata.Annotated new.metadata
  spec : Option.Rel PodSpec.Grown old.spec new.spec
  others : new = { old with metadata := new.metadata, spec := new.spec }

theorem ObjectMeta.ofJson_null (metadata : ObjectMeta) :
    ObjectMeta.ofJson .null ≠ .ok metadata := by
  intro decoded
  obtain ⟨_, impossible, _⟩ := ObjectMeta.ofJson_eq_ok_iff.1 decoded
  cases impossible

theorem PodSpec.ofJson_null (spec : PodSpec) :
    PodSpec.ofJson .null ≠ .ok spec := by
  intro decoded
  obtain ⟨_, impossible, _⟩ := PodSpec.ofJson_eq_ok_iff.1 decoded
  cases impossible

theorem Pod.Grown.follows
    {old new : Pod} (grown : old.Grown new)
    (hasContainers : ∀ spec, old.spec = some spec → spec.containers ≠ [])
    (hasMetadata : old.metadata ≠ default) :
    Follows Pod.ofJson Pod.toJson old new := by
  intro document ordered decoded
  have oldOrdered := Pod.orderly document old ordered decoded
  obtain ⟨members, rfl, read⟩ := Pod.ofJson_eq_ok_iff.1 decoded
  have spec :
      OptionFollows PodSpec.ofJson PodSpec.toJson old.spec new.spec := by
    have grownSpec := grown.spec
    generalize new.spec = newSpec at grownSpec
    cases found : old.spec with
    | none =>
        rw [found] at grownSpec
        cases grownSpec
        exact .kept PodSpec.orderly none
    | some spec =>
        rw [found] at grownSpec
        cases grownSpec with
        | some specGrown =>
            exact .changed (specGrown.follows (hasContainers spec found))
  obtain ⟨metadataResult, metadataPart, metadataBack⟩ :=
    grown.metadata.follows.member ObjectMeta.ofJson_null hasMetadata ordered
      read.metadata
  obtain ⟨specResult, specPart, specBack⟩ :=
    spec.member PodSpec.ofJson_null ordered read.spec
  obtain ⟨result, transfers, changed, kept⟩ :=
    Transfers.record ["metadata", "spec"]
      (fun key => if key = "metadata" then metadataResult else specResult)
      old.isRecord_toJson new.isRecord_toJson oldOrdered ordered
      (by
        rw [grown.others]
        simp [Pod.toJson, metadataPart, specPart])
      (by
        intro key other
        simp only [List.mem_cons, List.not_mem_nil, or_false, not_or]
          at other
        rw [grown.others]
        simp [Pod.toJson, Ne.symm other.1, Ne.symm other.2])
  refine
    ⟨.object result, transfers, Pod.ofJson_eq_ok_iff.2 ⟨result, rfl, ?_⟩⟩
  rw [grown.others]
  exact
    { apiVersion :=
        (constant_congr (kept _ (by decide)) _ _).trans read.apiVersion
      kind := (constant_congr (kept _ (by decide)) _ _).trans read.kind
      metadata := metadataBack result (changed _ (by decide))
      spec := specBack result (changed _ (by decide))
      status := (optional_congr (kept _ (by decide)) _).trans read.status }

end PodTelemetry.Kubernetes

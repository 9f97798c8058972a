import PodTelemetry.Proofs.Injection.Footprint
import PodTelemetry.Proofs.Json.Operations
import PodTelemetry.Proofs.Mutation.Outcome

/-!
# What a patch touches

A patch is computed from two documents as wholes, but every one of its
operations is about something that injection is for: the record of the outcome,
the value of one of two variables, or an item behind the end of one of four
lists.  This is shown record by record, from the variable out to the pod.
-/

namespace PodTelemetry.Mutation

open PodTelemetry.Injection
open PodTelemetry.Json
open PodTelemetry.Kubernetes

variable {operator : OperatorConfig} {cluster : Cluster}
variable {inNamespace : String} {pod : Pod} {patch : Json.Patch}
variable {operation : Operation}

/-! ## The first container -/

/-- A variable that is given a text differs in its value only. -/
theorem writes_value
    {entry : EnvVar} {text : String}
    (member :
      operation ∈
        differences entry.toJson
          ({ entry with value := some text } : EnvVar).toJson) :
    Writes ["value"] operation := by
  have kept :
      ∀ key, key ∉ ["value"] →
        ({ entry with value := some text } : EnvVar).toJson.get? key =
          entry.toJson.get? key := by
    intro key other
    rw [List.mem_singleton] at other
    simp [EnvVar.toJson, Ne.symm other]
  obtain ⟨key, isKey, _, isOperation⟩ :=
    exists_memberOperation_of_kept ["value"] entry.isRecord_toJson
      (EnvVar.isRecord_toJson _) entry.ordered_toJson kept member
  rw [List.mem_singleton.1 isKey] at isOperation
  have isValue :
      MemberOperation "value" (entry.value.map .string)
        (some (.string text)) operation := by
    simpa [EnvVar.toJson] using isOperation
  exact isValue.writes

/-- Variables that may be rewritten get a value, and others come behind all of
them. -/
theorem variable_operation
    {mayChange : Nat → Prop} {olds news : List EnvVar}
    (reworked : Reworked mayChange olds news)
    (member :
      operation ∈
        differences (ofList EnvVar.toJson olds) (ofList EnvVar.toJson news)) :
    (∃ index,
      mayChange index ∧ Writes [toString index, "value"] operation) ∨
    ∃ index value,
      olds.length ≤ index ∧ operation = .add [toString index] value := by
  cases itemOperation_of_mem_differences member with
  | @added index item beyond isNew =>
      rw [List.length_map] at beyond
      exact Or.inr ⟨index, item, beyond, rfl⟩
  | removed shorter =>
      simp only [List.length_map] at shorter
      have isOld :=
        List.getElem?_eq_getElem (l := olds) (i := news.length) shorter
      obtain ⟨new, isNew, _⟩ := reworked _ _ isOld
      simp at isNew
  | @within index before after inner isOld isNew isInner =>
      rw [List.getElem?_map] at isOld isNew
      obtain ⟨old, isBefore, rfl⟩ := Option.map_eq_some_iff.1 isOld
      obtain ⟨new, isAfter, rfl⟩ := Option.map_eq_some_iff.1 isNew
      obtain ⟨other, isOther, change⟩ := reworked index old isBefore
      rw [isAfter] at isOther
      cases isOther
      rcases change with rfl | ⟨allowed, text, rfl⟩
      · exact
          absurd isInner (not_mem_differences_self (EnvVar.ordered_toJson _))
      · exact Or.inl ⟨index, allowed, (writes_value isInner).under _⟩

section Lists

variable {α : Type} {encode : α → Json} {key : String}

/-- What is carried along unread would take the place of the list in both
records. -/
theorem appended_operation
    {withJava : Prop} {old new : Option (List α)} {carried : Option Json}
    (appended : Appended withJava old new)
    (ordered :
      ∀ value,
        carried.or (old.map (ofList encode)) = some value → value.Ordered)
    (isOperation :
      MemberOperation key (carried.or (old.map (ofList encode)))
        (carried.or (new.map (ofList encode))) operation) :
    withJava ∧ Lengthens [key] old operation := by
  obtain ⟨ordered, isOperation⟩ := MemberOperation.of_or ordered isOperation
  rcases appended with rfl | ⟨allowed, added, rfl⟩
  · exact absurd isOperation (MemberOperation.irrefl ordered)
  · refine ⟨allowed, isOperation.lengthens fun items isOld => ?_⟩
    exact ordered _ (congrArg (Option.map _) isOld)

end Lists

section Records

variable {withJava : Prop} {spec : PodSpec} {first : Container}
variable {others : List Container}

theorem environment_operation
    (rework : Rework withJava spec first) {carried : Option Json}
    (ordered :
      ∀ value,
        carried.or (first.env.map (ofList EnvVar.toJson)) = some value →
          value.Ordered)
    (isOperation :
      MemberOperation "env"
        (carried.or (first.env.map (ofList EnvVar.toJson)))
        (carried.or (rework.env.map (ofList EnvVar.toJson))) operation) :
    (∃ index,
      Rewritable withJava first.variables index ∧
      Writes ["env", toString index, "value"] operation) ∨
    Lengthens ["env"] first.env operation := by
  obtain ⟨ordered, isOperation⟩ := MemberOperation.of_or ordered isOperation
  rcases rework.entries with same | ⟨written, isWritten, reworked⟩
  · rw [same] at isOperation
    exact absurd isOperation (MemberOperation.irrefl ordered)
  · rw [isWritten] at isOperation
    cases absent : first.env with
    | none =>
        rw [absent] at isOperation
        cases isOperation
        exact Or.inr (.whole rfl _)
    | some olds =>
        have isOlds : first.variables = olds := by
          rw [Container.variables, absent]
          rfl
        rw [absent] at isOperation
        rw [isOlds] at reworked
        cases isOperation with
        | within member =>
            rcases variable_operation reworked member with
              ⟨index, place, writes⟩ | ⟨index, value, behind, rfl⟩
            · rw [isOlds]
              exact Or.inl ⟨index, place, writes.under "env"⟩
            · exact Or.inr (.item rfl behind value)

/-- What happens in the first container. -/
theorem container_operation
    (rework : Rework withJava spec first) (ordered : first.toJson.Ordered)
    (member :
      operation ∈ differences first.toJson rework.container.toJson) :
    (∃ index,
      Rewritable withJava first.variables index ∧
      Writes ["env", toString index, "value"] operation) ∨
    Lengthens ["env"] first.env operation ∨
    (withJava ∧
      Lengthens ["volumeMounts"] first.volumeMounts operation) := by
  have kept :
      ∀ key, key ∉ ["env", "volumeMounts"] →
        rework.container.toJson.get? key = first.toJson.get? key := by
    intro key other
    rw [List.mem_pair, not_or] at other
    simp [Container.toJson, Rework.container, Ne.symm other.1,
      Ne.symm other.2]
  obtain ⟨key, isKey, inOrder, isOperation⟩ :=
    exists_memberOperation_of_kept ["env", "volumeMounts"]
      first.isRecord_toJson rework.container.isRecord_toJson ordered kept
      member
  rcases List.mem_pair.1 isKey with rfl | rfl
  · have reads (container : Container) :
        container.toJson.get? "env" =
          (Entries.readLast "env" container.carried.entries).or
            (container.env.map (ofList EnvVar.toJson)) := by
      simp [Container.toJson]
    rw [reads] at inOrder
    rw [reads, reads] at isOperation
    rcases environment_operation rework inOrder isOperation with
      value | lengthens
    · exact Or.inl value
    · exact Or.inr (Or.inl lengthens)
  · have reads (container : Container) :
        container.toJson.get? "volumeMounts" =
          (Entries.readLast "volumeMounts" container.carried.entries).or
            (container.volumeMounts.map (ofList VolumeMount.toJson)) := by
      simp [Container.toJson]
    rw [reads] at inOrder
    rw [reads, reads] at isOperation
    exact
      Or.inr
        (Or.inr (appended_operation rework.mounts inOrder isOperation))

/-! ## The pod around it -/

/-- What happens in the spec. -/
theorem spec_operation
    (rework : Rework withJava spec first) (ordered : spec.toJson.Ordered)
    (containers : spec.containers = first :: others)
    (member :
      operation ∈ differences spec.toJson (rework.outcome others).toJson) :
    (first.toJson.Ordered ∧
      ∃ inner ∈ differences first.toJson rework.container.toJson,
        operation = (inner.under "0").under "containers") ∨
    (withJava ∧
      Lengthens ["initContainers"] spec.initContainers operation) ∨
    (withJava ∧ Lengthens ["volumes"] spec.volumes operation) := by
  have kept :
      ∀ key, key ∉ ["containers", "initContainers", "volumes"] →
        (rework.outcome others).toJson.get? key = spec.toJson.get? key := by
    intro key other
    simp only [List.mem_cons, List.not_mem_nil, or_false, not_or] at other
    simp [PodSpec.toJson, Rework.outcome, Ne.symm other.1,
      Ne.symm other.2.1, Ne.symm other.2.2]
  obtain ⟨key, isKey, inOrder, isOperation⟩ :=
    exists_memberOperation_of_kept
      ["containers", "initContainers", "volumes"]
      spec.isRecord_toJson (rework.outcome others).isRecord_toJson ordered
      kept member
  simp only [List.mem_cons, List.not_mem_nil, or_false] at isKey
  rcases isKey with rfl | rfl | rfl
  · have reads (spec : PodSpec) :
        spec.toJson.get? "containers" =
          (Entries.readLast "containers" spec.carried.entries).or
            (some (ofList Container.toJson spec.containers)) := by
      simp [PodSpec.toJson]
    rw [reads, containers] at inOrder
    rw [reads, reads, containers] at isOperation
    obtain ⟨listOrder, inList⟩ := MemberOperation.of_or inOrder isOperation
    have listOrdered := listOrder _ rfl
    cases inList with
    | within isInner =>
        obtain ⟨inner, isWithin, rfl⟩ :=
          exists_of_mem_differences_cons listOrdered isInner
        refine Or.inl ⟨?_, inner, isWithin, rfl⟩
        exact ordered_array_iff.1 listOrdered _ List.mem_cons_self
  · have reads (spec : PodSpec) :
        spec.toJson.get? "initContainers" =
          (Entries.readLast "initContainers" spec.carried.entries).or
            (spec.initContainers.map (ofList Container.toJson)) := by
      simp [PodSpec.toJson]
    rw [reads] at inOrder
    rw [reads, reads] at isOperation
    exact
      Or.inr
        (Or.inl (appended_operation rework.loaders inOrder isOperation))
  · have reads (spec : PodSpec) :
        spec.toJson.get? "volumes" =
          (Entries.readLast "volumes" spec.carried.entries).or
            (spec.volumes.map (ofList Volume.toJson)) := by
      simp [PodSpec.toJson]
    rw [reads] at inOrder
    rw [reads, reads] at isOperation
    exact
      Or.inr
        (Or.inr (appended_operation rework.storage inOrder isOperation))

end Records

/-! ## The record of the outcome -/

/-- Texts that differ under some keys only. -/
theorem text_operation
    {old new : Dictionary String} (keys : List String)
    (kept : ∀ key, key ∉ keys → new.get? key = old.get? key)
    (member :
      operation ∈
        differences (ofDictionary .string old) (ofDictionary .string new)) :
    ∃ key ∈ keys,
      Writes [key] operation ∨
        (operation = .remove [key] ∧ new.get? key = none) := by
  have keptTexts :
      ∀ key, key ∉ keys →
        (ofDictionary .string new).get? key =
          (ofDictionary .string old).get? key := by
    intro key other
    rw [get?_ofDictionary, get?_ofDictionary, kept key other]
  obtain ⟨key, isKey, _, isOperation⟩ :=
    exists_memberOperation_of_kept keys (isRecord_ofDictionary _ old)
      (isRecord_ofDictionary _ new) (ordered_ofTexts old) keptTexts member
  refine ⟨key, isKey, ?_⟩
  rw [get?_ofDictionary, get?_ofDictionary] at isOperation
  cases isNew : new.get? key with
  | none =>
      rw [isNew] at isOperation
      generalize (old.get? key).map Json.string = before at isOperation
      cases isOperation
      exact Or.inr ⟨rfl, rfl⟩
  | some text =>
      rw [isNew] at isOperation
      exact Or.inl isOperation.writes

/-- What happens in metadata that has annotations before and afterwards. -/
theorem metadata_operation
    {metadata : ObjectMeta} {old : Dictionary String}
    (isOld : metadata.annotations = some old) {new : Dictionary String}
    (ordered : metadata.toJson.Ordered)
    (member :
      operation ∈
        differences metadata.toJson
          ({ metadata with annotations := some new } :
            ObjectMeta).toJson) :
    ∃ inner ∈
        differences (ofDictionary .string old) (ofDictionary .string new),
      operation = inner.under "annotations" := by
  have kept :
      ∀ key, key ∉ ["annotations"] →
        ({ metadata with annotations := some new } : ObjectMeta).toJson.get?
            key =
          metadata.toJson.get? key := by
    intro key other
    rw [List.mem_singleton] at other
    simp [ObjectMeta.toJson, Ne.symm other]
  obtain ⟨key, isKey, inOrder, isOperation⟩ :=
    exists_memberOperation_of_kept ["annotations"] metadata.isRecord_toJson
      (ObjectMeta.isRecord_toJson _) ordered kept member
  rw [List.mem_singleton.1 isKey] at isOperation inOrder
  have reads (metadata : ObjectMeta) :
      metadata.toJson.get? "annotations" =
        (Entries.readLast "annotations" metadata.carried.entries).or
          (metadata.annotations.map (ofDictionary .string)) := by
    simp [ObjectMeta.toJson]
  rw [reads, isOld] at inOrder
  rw [reads, reads, isOld] at isOperation
  obtain ⟨_, inTexts⟩ := MemberOperation.of_or inOrder isOperation
  cases inTexts with
  | within isInner =>
      exact ⟨_, isInner, rfl⟩

/-! ## The whole patch -/

/-- The operations that the patch of a pod may consist of. -/
inductive Footprint
    (pod : Pod) (spec : PodSpec) (first : Container) (after : Pod) :
    Operation → Prop
  | record {key : String} {operation : Operation}
      (isRecord : key = Annotation.status ∨ key = Annotation.reason)
      (writes : Writes ["metadata", "annotations", key] operation) :
      Footprint pod spec first after operation
  | cleared
      (success :
        after.metadata.annotation? Annotation.status = some "success") :
      Footprint pod spec first after
        (.remove ["metadata", "annotations", Annotation.reason])
  | value {index : Nat} {operation : Operation}
      (place :
        Rewritable (.java ∈ Injector.selected pod.metadata.annotations)
          first.variables index)
      (writes :
        Writes ["spec", "containers", "0", "env", toString index, "value"]
          operation) :
      Footprint pod spec first after operation
  | entry {operation : Operation}
      (lengthens :
        Lengthens ["spec", "containers", "0", "env"] first.env operation) :
      Footprint pod spec first after operation
  | mount {operation : Operation}
      (withJava : .java ∈ Injector.selected pod.metadata.annotations)
      (lengthens :
        Lengthens ["spec", "containers", "0", "volumeMounts"]
          first.volumeMounts operation) :
      Footprint pod spec first after operation
  | loader {operation : Operation}
      (withJava : .java ∈ Injector.selected pod.metadata.annotations)
      (lengthens :
        Lengthens ["spec", "initContainers"] spec.initContainers operation) :
      Footprint pod spec first after operation
  | storage {operation : Operation}
      (withJava : .java ∈ Injector.selected pod.metadata.annotations)
      (lengthens :
        Lengthens ["spec", "volumes"] spec.volumes operation) :
      Footprint pod spec first after operation

section Patches

variable {spec : PodSpec} {first : Container} {others : List Container}
variable {after : Pod}

theorem Footprint.of_spec
    (rework :
      Rework (.java ∈ Injector.selected pod.metadata.annotations) spec first)
    (ordered : spec.toJson.Ordered)
    (containers : spec.containers = first :: others)
    (member :
      operation ∈ differences spec.toJson (rework.outcome others).toJson) :
    Footprint pod spec first after (operation.under "spec") := by
  rcases spec_operation rework ordered containers member with
    ⟨firstOrdered, inner, isInner, rfl⟩ | ⟨withJava, lengthens⟩ |
      ⟨withJava, lengthens⟩
  · rcases container_operation rework firstOrdered isInner with
      ⟨index, place, writes⟩ | lengthens | ⟨withJava, lengthens⟩
    · exact
        .value place
          (((writes.under "0").under "containers").under "spec")
    · exact .entry (((lengthens.under "0").under "containers").under "spec")
    · exact
        .mount withJava
          (((lengthens.under "0").under "containers").under "spec")
  · exact .loader withJava (lengthens.under "spec")
  · exact .storage withJava (lengthens.under "spec")

/-- The annotations that a fault, or none, is recorded in. -/
def recorded
    (fault : Option InjectionFault) (annotations : Dictionary String) :
    Dictionary String :=
  match fault with
  | none =>
      (annotations.insert Annotation.status Status.success).erase
        Annotation.reason
  | some fault =>
      (annotations.insert Annotation.status Status.error).insert
        Annotation.reason fault.error.text

theorem recordOutcome_eq (fault : Option InjectionFault) (pod : Pod) :
    recordOutcome fault pod =
      { pod with
        metadata :=
          { pod.metadata with
            annotations :=
              some
                (recorded fault
                  (pod.metadata.annotations.getD Dictionary.empty)) } } := by
  cases fault <;> rfl

/-- The status is always recorded, and the reason unless it is a success. -/
theorem recorded_eq_none
    {annotations : Dictionary String} {fault : Option InjectionFault}
    {key : String}
    (isKey : key = Annotation.status ∨ key = Annotation.reason)
    (gone : (recorded fault annotations).get? key = none) :
    key = Annotation.reason ∧
      (recorded fault annotations).get? Annotation.status =
        some "success" := by
  rcases isKey with rfl | rfl
  · cases fault <;>
      simp [recorded, Dictionary.get?_insert, Dictionary.get?_erase,
        status_ne_reason] at gone
  · cases fault with
    | none =>
        refine ⟨rfl, ?_⟩
        simp only [recorded, Dictionary.get?_insert, Dictionary.get?_erase,
          status_ne_reason, if_false, if_true]
        rfl
    | some fault =>
        simp [recorded, Dictionary.get?_insert] at gone

theorem Footprint.of_annotations
    {annotations : Dictionary String} (fault : Option InjectionFault)
    (isAfter :
      after.metadata.annotations = some (recorded fault annotations))
    (member :
      operation ∈
        differences (ofDictionary .string annotations)
          (ofDictionary .string (recorded fault annotations))) :
    Footprint pod spec first after
      ((operation.under "annotations").under "metadata") := by
  have isRecorded (key : String) :
      after.metadata.annotation? key =
        (recorded fault annotations).get? key := by
    rw [ObjectMeta.annotation?, isAfter, Option.bind_some]
  have kept :
      ∀ key, key ∉ [ Annotation.status, Annotation.reason] →
        (recorded fault annotations).get? key = annotations.get? key := by
    intro key other
    rw [List.mem_pair, not_or] at other
    cases fault <;>
      simp [recorded, Dictionary.get?_insert, Dictionary.get?_erase,
        other.1, other.2]
  obtain ⟨key, isKey, isOperation⟩ :=
    text_operation [ Annotation.status, Annotation.reason] kept member
  rcases isOperation with writes | ⟨rfl, gone⟩
  · refine .record (List.mem_pair.1 isKey) ?_
    exact (writes.under "annotations").under "metadata"
  · obtain ⟨rfl, success⟩ := recorded_eq_none (List.mem_pair.1 isKey) gone
    refine .cleared ?_
    rw [isRecorded, success]

theorem footprint_of_mem_differences
    (rework :
      Rework (.java ∈ Injector.selected pod.metadata.annotations) spec first)
    (fault : Option InjectionFault) (ordered : pod.toJson.Ordered)
    (isSpec : pod.spec = some spec)
    (containers : spec.containers = first :: others)
    {annotations : Dictionary String}
    (isAnnotated : pod.metadata.annotations = some annotations)
    (isAfter :
      after = recordOutcome fault (withSpec (rework.outcome others) pod))
    (member : operation ∈ differences pod.toJson after.toJson) :
    Footprint pod spec first after operation := by
  rw [recordOutcome_eq] at isAfter
  have afterMetadata :
      after.metadata =
        { pod.metadata with
          annotations := some (recorded fault annotations) } := by
    rw [isAfter]
    simp only [withSpec, isAnnotated, Option.getD_some]
  have afterSpec : after.spec = some (rework.outcome others) := by
    rw [isAfter]
    rfl
  have kept :
      ∀ key, key ∉ ["metadata", "spec"] →
        after.toJson.get? key = pod.toJson.get? key := by
    intro key other
    rw [List.mem_pair, not_or] at other
    rw [isAfter]
    simp [Pod.toJson, withSpec, Ne.symm other.1, Ne.symm other.2]
  obtain ⟨key, isKey, inOrder, isOperation⟩ :=
    exists_memberOperation_of_kept ["metadata", "spec"] pod.isRecord_toJson
      after.isRecord_toJson ordered kept member
  rcases List.mem_pair.1 isKey with rfl | rfl
  · have reads (pod : Pod) :
        pod.toJson.get? "metadata" = some pod.metadata.toJson := by
      simp [Pod.toJson]
    rw [reads] at inOrder
    rw [reads, reads, afterMetadata] at isOperation
    cases isOperation with
    | within isInner =>
        obtain ⟨inmost, isInmost, rfl⟩ :=
          metadata_operation isAnnotated (inOrder _ rfl) isInner
        refine .of_annotations fault ?_ isInmost
        rw [afterMetadata]
  · have reads (pod : Pod) :
        pod.toJson.get? "spec" = pod.spec.map PodSpec.toJson := by
      simp [Pod.toJson]
    rw [reads, isSpec] at inOrder
    rw [reads, reads, isSpec, afterSpec] at isOperation
    cases isOperation with
    | within isInner =>
        exact .of_spec rework (inOrder _ rfl) containers isInner

end Patches

theorem exists_annotations
    (concerned : Concerned pod) :
    ∃ annotations, pod.metadata.annotations = some annotations := by
  obtain ⟨asked, _⟩ := concerned_iff.1 concerned
  cases given : pod.metadata.annotations with
  | none =>
      rw [given] at asked
      exact absurd rfl asked
  | some annotations =>
      exact ⟨annotations, rfl⟩

/-- Every operation of a patch records the outcome in one of two annotations,
takes a reason away from a success, gives a value to the first declaration of
attributes or, with the Java agent, to the first options for Java, or puts an
item behind the end of the variables or, with the Java agent, of the mounts,
the volumes and the init containers.  The patch is empty exactly when the
working copy is the pod itself. -/
theorem patch_footprint
    {document : Json} (ordered : document.Ordered)
    (decoded : Pod.ofJson document = .ok pod)
    (patched :
      ((decide operator inNamespace pod).run cluster).result =
        .ok (.patched patch)) :
    ∃ spec first others found agent,
      pod.spec = some spec ∧
      spec.containers = first :: others ∧
      cluster (.findNamespace inNamespace) = .ok found ∧
      cluster .listAgents = .ok [agent] ∧
      let after :=
        workingCopy
          { config := InjectionConfig.ofSpec agent.spec operator
            attributes := ((Attributes.derive found pod).run cluster).result }
          (Injector.selected pod.metadata.annotations) pod
      (∀ operation ∈ patch, Footprint pod spec first after operation) ∧
      (patch = [] ↔ after = pod) := by
  obtain ⟨concerned, found, agent, isFound, isListed, isPatch⟩ :=
    (decide_ends operator cluster inNamespace pod).patched_eq patched
  obtain ⟨asked, first, isFirst⟩ := concerned_iff.1 concerned
  obtain ⟨spec, others, isSpec, containers⟩ :=
    Pod.firstContainer?_eq_some_iff.1 isFirst
  obtain ⟨annotations, isAnnotated⟩ := exists_annotations concerned
  let injectors := Injector.selected pod.metadata.annotations
  let context := contextOf operator cluster found agent pod
  obtain ⟨rework, isReached⟩ :=
    exists_rework_injectAll context isSpec containers injectors
  refine
    ⟨spec, first, others, found, agent, isSpec, containers, isFound, isListed,
      ?_⟩
  intro after
  have isAfter :
      after =
        recordOutcome (Injector.injectAll context pod injectors).fault
          (withSpec (rework.outcome others) pod) := by
    rw [← isReached]
    rfl
  have inOrder := Pod.orderly document pod ordered decoded
  rw [isPatch]
  exact
    ⟨fun operation member =>
      footprint_of_mem_differences rework _ inOrder isSpec containers
        isAnnotated isAfter member,
      patchFor_workingCopy_eq_nil_iff ordered decoded concerned context
        injectors⟩

/-- The places of the record as they are written in a patch. -/
example :
    Json.Pointer.text ["metadata", "annotations", Annotation.status] =
      "/metadata/annotations/otel.splunk.com~1injection-status" := by
  decide +kernel

/-- The sample pod has a stale reason, an empty list of variables and no
mounts, so that every kind of operation but a rewritten value is there. -/
theorem samplePatch_footprint :
    ∃ spec first after,
      samplePod.spec = some spec ∧ samplePatch ≠ [] ∧
      ∀ operation ∈ samplePatch,
        Footprint samplePod spec first after operation := by
  obtain ⟨spec, first, _, _, _, isSpec, _, _, _, allowed, _⟩ :=
    patch_footprint ordered_sampleDocument ofJson_sampleDocument
      decide_samplePod
  exact ⟨spec, first, _, isSpec, by decide +kernel, allowed⟩

end PodTelemetry.Mutation

import PodTelemetry.Proofs.Mutation.Patching

/-!
# What is recorded of an injection

The annotations of the pod after injection say whether it succeeded, and why
not.  Whatever they said before makes no difference, and other annotations
stay as they were.
-/

namespace PodTelemetry.Mutation

open PodTelemetry.Injection
open PodTelemetry.Kubernetes

variable {operator : OperatorConfig} {cluster : Cluster}
variable {inNamespace : String} {pod : Pod} {patch : Json.Patch}

/-! ## Recorded annotations -/

theorem annotation?_getD (metadata : ObjectMeta) (key : String) :
    (metadata.annotations.getD Dictionary.empty).get? key =
      metadata.annotation? key := by
  unfold ObjectMeta.annotation?
  cases metadata.annotations with
  | none =>
      rfl
  | some annotations =>
      rfl

theorem annotation?_recordOutcome_none (pod : Pod) (key : String) :
    (recordOutcome none pod).metadata.annotation? key =
      if key = Annotation.reason then none
      else if key = Annotation.status then some Status.success
      else pod.metadata.annotation? key := by
  rw [← annotation?_getD pod.metadata key, ← Dictionary.get?_insert,
    ← Dictionary.get?_erase]
  rfl

theorem annotation?_recordOutcome_some
    (fault : InjectionFault) (pod : Pod) (key : String) :
    (recordOutcome (some fault) pod).metadata.annotation? key =
      if key = Annotation.reason then some fault.error.text
      else if key = Annotation.status then some Status.error
      else pod.metadata.annotation? key := by
  rw [← annotation?_getD pod.metadata key, ← Dictionary.get?_insert,
    ← Dictionary.get?_insert]
  rfl

theorem status_ne_reason : Annotation.status ≠ Annotation.reason := by
  decide

theorem recorded_success (pod : Pod) :
    (recordOutcome none pod).metadata.annotation? Annotation.status =
        some "success" ∧
      (recordOutcome none pod).metadata.annotation? Annotation.reason =
        none := by
  rw [annotation?_recordOutcome_none, annotation?_recordOutcome_none,
    if_neg status_ne_reason, if_pos rfl, if_pos rfl]
  exact ⟨rfl, rfl⟩

theorem recorded_fault (fault : InjectionFault) (pod : Pod) :
    (recordOutcome (some fault) pod).metadata.annotation?
          Annotation.status =
        some "error" ∧
      (recordOutcome (some fault) pod).metadata.annotation?
          Annotation.reason =
        some fault.error.text := by
  rw [annotation?_recordOutcome_some, annotation?_recordOutcome_some,
    if_neg status_ne_reason, if_pos rfl, if_pos rfl]
  exact ⟨rfl, rfl⟩

theorem annotation?_recordOutcome_of_ne
    (fault : Option InjectionFault) (pod : Pod) {key : String}
    (notStatus : key ≠ Annotation.status)
    (notReason : key ≠ Annotation.reason) :
    (recordOutcome fault pod).metadata.annotation? key =
      pod.metadata.annotation? key := by
  cases fault with
  | none =>
      rw [annotation?_recordOutcome_none, if_neg notReason, if_neg notStatus]
  | some fault =>
      rw [annotation?_recordOutcome_some, if_neg notReason, if_neg notStatus]

/-- The working copy records the fault that the variables there were before
lead to. -/
theorem workingCopy_eq_recordOutcome
    (context : InjectionContext) (injectors : List Injector)
    {container : Container}
    (found : pod.firstContainer? = some container) :
    ∃ injected,
      workingCopy context injectors pod =
        recordOutcome (faultOf container.variables injectors) injected ∧
      injected.metadata = pod.metadata := by
  have stepped := stepped_injectAll context found injectors
  obtain ⟨spec, _, isInjected⟩ := stepped.grown
  refine
    ⟨(Injector.injectAll context pod injectors).pod, ?_, by rw [isInjected]⟩
  rw [← stepped.fault]
  rfl

/-- A success is recorded of nothing else. -/
theorem fault_of_success
    {context : InjectionContext} {injectors : List Injector}
    (success :
      (workingCopy context injectors pod).metadata.annotation?
          Annotation.status =
        some "success") :
    (Injector.injectAll context pod injectors).fault = none := by
  unfold workingCopy at success
  generalize Injector.injectAll context pod injectors = injected at success
  obtain ⟨injectedPod, fault, skipped⟩ := injected
  cases fault with
  | none =>
      rfl
  | some fault =>
      have failed := (recorded_fault fault injectedPod).1
      exact absurd (failed.symm.trans success) (by decide)

/-! ## The truth of the record -/

/-- After the patch the status is a success, without a reason, unless the
first container declares attributes with a source, or the Java agent is asked
for and the first variable for Java options has a source.  Then the status is
an error, and the reason says which, the attributes coming first.  This holds
whatever status and reason there were before. -/
theorem outcome_recorded
    {document : Json} (ordered : document.Ordered)
    (decoded : Pod.ofJson document = .ok pod)
    (patched :
      ((decide operator inNamespace pod).run cluster).result =
        .ok (.patched patch)) :
    ∃ container result after,
      pod.firstContainer? = some container ∧
      patch.carriedOut? document = some result ∧
      Pod.ofJson result = .ok after ∧
      let sourcedAttributes :=
        ∃ entry ∈ container.variables,
          entry.name = Env.resourceAttributes ∧ entry.valueFrom ≠ none
      let sourcedJavaOptions :=
        Injector.java ∈ Injector.selected pod.metadata.annotations ∧
          ∃ entry,
            container.variables.find?
                (fun entry => entry.name = Env.javaOptions) =
              some entry ∧
            entry.valueFrom ≠ none
      (¬ sourcedAttributes ∧ ¬ sourcedJavaOptions →
        after.metadata.annotation? Annotation.status = some "success" ∧
        after.metadata.annotation? Annotation.reason = none) ∧
      (sourcedAttributes →
        after.metadata.annotation? Annotation.status = some "error" ∧
        after.metadata.annotation? Annotation.reason =
          some
            ("injection error: OTEL_RESOURCE_ATTRIBUTES is set through " ++
              "valueFrom; cannot merge resource attributes")) ∧
      (¬ sourcedAttributes ∧ sourcedJavaOptions →
        after.metadata.annotation? Annotation.status = some "error" ∧
        after.metadata.annotation? Annotation.reason =
          some
            ("injection error: JAVA_TOOL_OPTIONS is set through " ++
              "valueFrom; cannot append the Java agent")) ∧
      ∀ key, key ≠ Annotation.status → key ≠ Annotation.reason →
        after.metadata.annotation? key = pod.metadata.annotation? key := by
  obtain ⟨concerned, found, agent, _, _, isPatch⟩ :=
    (decide_ends operator cluster inNamespace pod).patched_eq patched
  obtain ⟨asked, container, first⟩ := concerned_iff.1 concerned
  let injectors := Injector.selected pod.metadata.annotations
  let context := contextOf operator cluster found agent pod
  obtain ⟨result, transfers, back⟩ :=
    transfers_patched ordered decoded concerned context injectors
  have carriedOut : patch.carriedOut? document = some result := by
    rw [isPatch]
    exact transfers.carriedOut
  refine
    ⟨container, result, workingCopy context injectors pod, first, carriedOut,
      back, ?_⟩
  intro sourcedAttributes sourcedJavaOptions
  obtain ⟨injected, isCopy, sameMetadata⟩ :=
    workingCopy_eq_recordOutcome context injectors first
  rw [isCopy]
  refine ⟨?_, ?_, ?_, fun key notStatus notReason => ?_⟩
  · rintro ⟨plain, accepted⟩
    have success : faultOf container.variables injectors = none := by
      rw [faultOf, if_neg asked, if_neg fun sourced => plain
          (hasSourcedAttributes_iff.1 sourced),
        if_neg fun refused => accepted
          ⟨refused.1, javaVariables?_eq_none_iff_sourced.1 refused.2⟩]
    rw [success]
    exact recorded_success injected
  · intro sourced
    have failed :
        faultOf container.variables injectors = some .sourcedAttributes := by
      rw [faultOf, if_neg asked,
        if_pos (hasSourcedAttributes_iff.2 sourced)]
    rw [failed]
    exact recorded_fault _ injected
  · rintro ⟨plain, selected, sourced⟩
    have failed :
        faultOf container.variables injectors =
          some .sourcedJavaOptions := by
      rw [faultOf, if_neg asked, if_neg fun sourced => plain
          (hasSourcedAttributes_iff.1 sourced),
        if_pos ⟨selected, javaVariables?_eq_none_iff_sourced.2 sourced⟩]
    rw [failed]
    exact recorded_fault _ injected
  · rw [annotation?_recordOutcome_of_ne _ _ notStatus notReason,
      sameMetadata]

theorem sample_outcome_recorded :
    ∃ result after,
      samplePatch.carriedOut? sampleDocument = some result ∧
      Pod.ofJson result = .ok after ∧
      after.metadata.annotation? Annotation.status = some "success" ∧
      after.metadata.annotation? Annotation.reason = none := by
  obtain ⟨container, result, after, first, carriedOut, back, success, _⟩ :=
    outcome_recorded ordered_sampleDocument ofJson_sampleDocument
      decide_samplePod
  have isContainer : container = { env := some [], name := "web" } :=
    (Option.some.inj first).symm
  have noVariables : container.variables = [] := by
    rw [isContainer]
    rfl
  refine ⟨result, after, carriedOut, back, success ?_⟩
  simp [noVariables]

end PodTelemetry.Mutation

import PodTelemetry.Proofs.Injection.Stability
import PodTelemetry.Proofs.Mutation.Discipline
import PodTelemetry.Proofs.Mutation.Outcome

/-!
# Deciding again about a patched pod

A pod that was patched asks for the same injectors, has the same attributes
derived for it, and is its own working copy.  So it gets a patch without
operations when it is decided about again.
-/

namespace PodTelemetry.Mutation

open PodTelemetry.Injection
open PodTelemetry.Kubernetes

variable {operator : OperatorConfig} {cluster : Cluster}
variable {inNamespace : String} {pod : Pod} {patch : Json.Patch}

/-! ## The record again -/

theorem recordOutcome_recordOutcome
    (fault : Option InjectionFault) (pod : Pod) :
    recordOutcome fault (recordOutcome fault pod) =
      recordOutcome fault pod := by
  cases fault with
  | none =>
      simp only [recordOutcome, Option.getD_some]
      congr 3
      apply Dictionary.eq_of_get?_eq
      intro key
      simp only [Dictionary.get?_erase, Dictionary.get?_insert]
      grind
  | some fault =>
      simp only [recordOutcome, Option.getD_some]
      congr 3
      apply Dictionary.eq_of_get?_eq
      intro key
      simp only [Dictionary.get?_insert]
      grind

theorem app_ne :
    Annotation.app ≠ Annotation.status ∧
      Annotation.app ≠ Annotation.reason := by
  decide

theorem appName_ne :
    Annotation.appName ≠ Annotation.status ∧
      Annotation.appName ≠ Annotation.reason := by
  decide

/-- The pod after injection is its own working copy. -/
theorem workingCopy_workingCopy
    {context : InjectionContext}
    (settled : Attributes.Settled context.attributes)
    (injectors : List Injector) {container : Container}
    (found : pod.firstContainer? = some container) :
    workingCopy context injectors (workingCopy context injectors pod) =
      workingCopy context injectors pod := by
  obtain ⟨_, sameFault, samePod⟩ :=
    injectAll_injectAll settled found injectors
  obtain ⟨last, isLast, _⟩ :=
    (stepped_injectAll context found injectors).first
  unfold workingCopy
  generalize Injector.injectAll context pod injectors = injected
    at sameFault samePod isLast
  obtain ⟨injectedPod, fault, skipped⟩ := injected
  have app :=
    annotation?_recordOutcome_of_ne fault injectedPod
      app_ne.1 app_ne.2
  have appName :=
    annotation?_recordOutcome_of_ne fault injectedPod
      appName_ne.1 appName_ne.2
  have again :
      Injector.injectAll context (recordOutcome fault injectedPod)
          injectors =
        { Injector.injectAll context injectedPod injectors with
          pod :=
            { (Injector.injectAll context injectedPod injectors).pod with
              metadata := (recordOutcome fault injectedPod).metadata } } :=
    injectAll_withMetadata context isLast app appName injectors
  simp only [again, sameFault, samePod]
  exact recordOutcome_recordOutcome fault injectedPod

/-! ## What is asked for and derived again -/

theorem selected_workingCopy
    (context : InjectionContext) (injectors : List Injector)
    {container : Container}
    (found : pod.firstContainer? = some container) :
    Injector.selected
        (workingCopy context injectors pod).metadata.annotations =
      Injector.selected pod.metadata.annotations := by
  obtain ⟨injected, isCopy, sameMetadata⟩ :=
    workingCopy_eq_recordOutcome context injectors found
  have triggers :
      ∀ injector : Injector,
        injector.annotation ≠ Annotation.status ∧
          injector.annotation ≠ Annotation.reason := by
    intro injector
    cases injector <;> decide
  rw [isCopy]
  apply List.filter_congr
  intro injector _
  have same :=
    annotation?_recordOutcome_of_ne
      (faultOf container.variables injectors) injected
      (triggers injector).1 (triggers injector).2
  rw [sameMetadata] at same
  unfold ObjectMeta.annotation? at same
  rw [same]

theorem fieldsOf_of_grown
    {old new : Pod} (grown : old.Grown new) (name : String) :
    Attributes.fieldsOf name new = Attributes.fieldsOf name old := by
  have metadata :
      new.metadata.name = old.metadata.name ∧
        new.metadata.uid = old.metadata.uid := by
    rcases grown.metadata with same | ⟨annotations, same⟩ <;> simp [same]
  have specGrown := grown.spec
  unfold Attributes.fieldsOf
  rw [metadata.1, metadata.2]
  generalize old.spec = oldSpec at specGrown
  generalize new.spec = newSpec at specGrown
  cases specGrown with
  | none =>
      rfl
  | @some before after growth =>
      have node : after.nodeName = before.nodeName := by
        rw [growth.others]
      have containers := growth.containers
      simp only [node]
      generalize before.containers = olds at containers
      generalize after.containers = news at containers
      cases containers with
      | added fresh =>
          have empty : news = [] := List.eq_nil_iff_forall_not_mem.2 fresh
          rw [empty]
      | changed first others =>
          have named := congrArg Container.name first.others
          simp [named]

theorem derive_of_grown
    {old new : Pod} (grown : old.Grown new) (found : Namespace) :
    Attributes.derive found new = Attributes.derive found old := by
  have owners : new.metadata.owners = old.metadata.owners := by
    rcases grown.metadata with same | ⟨annotations, same⟩
    · rw [same]
    · rw [same]
      rfl
  unfold Attributes.derive Attributes.ofPod
  simp only [fieldsOf_of_grown grown, owners]

/-! ## Nothing to do again -/

/-- When no derived value holds a comma or an equals sign or has blanks at its
ends, the pod that a patch leads to gets the empty patch in the same
cluster, whether injection succeeded or failed. -/
theorem patched_again
    {document : Json} (ordered : document.Ordered)
    (decoded : Pod.ofJson document = .ok pod)
    (patched :
      ((decide operator inNamespace pod).run cluster).result =
        .ok (.patched patch))
    (clean :
      ∀ found key value,
        cluster (.findNamespace inNamespace) = .ok found →
        ((Attributes.derive found pod).run cluster).result.get? key =
            some value →
          Attributes.Plain value) :
    ∃ result after,
      patch.carriedOut? document = some result ∧
      Pod.ofJson result = .ok after ∧
      ((decide operator inNamespace after).run cluster).result =
        .ok (.patched []) := by
  obtain ⟨concerned, found, agent, isFound, isListed, isPatch⟩ :=
    (decide_ends operator cluster inNamespace pod).patched_eq patched
  obtain ⟨asked, container, first⟩ := concerned_iff.1 concerned
  let injectors := Injector.selected pod.metadata.annotations
  let context := contextOf operator cluster found agent pod
  let after := workingCopy context injectors pod
  obtain ⟨result, transfers, back⟩ :=
    transfers_patched ordered decoded concerned context injectors
  have carriedOut : patch.carriedOut? document = some result := by
    rw [isPatch]
    exact transfers.carriedOut
  have settled : Attributes.Settled context.attributes := by
    intro key value isDerived
    have plainKeys := ((Attributes.keeps_derive found pod).run cluster).1
    exact
      ⟨plainKeys key value isDerived,
        clean found key value isFound isDerived⟩
  have sameSelected :
      Injector.selected after.metadata.annotations = injectors :=
    selected_workingCopy context injectors first
  have sameContext :
      contextOf operator cluster found agent after = context := by
    unfold contextOf
    rw [derive_of_grown (grown_workingCopy context injectors first) found]
    rfl
  obtain ⟨next, isNext, _⟩ :=
    (stepped_injectAll context first injectors).first
  have stillConcerned : Concerned after := by
    refine concerned_iff.2 ⟨?_, next, isNext⟩
    rw [sameSelected]
    exact asked
  -- The cluster answers as before, so the second decision ends like the first.
  have ends := decide_ends operator cluster inNamespace after
  obtain ⟨again, isAgain⟩ :=
    ends.patched_iff.2
      ⟨stillConcerned, ⟨found, isFound⟩, agent, isListed⟩
  obtain ⟨_, otherFound, otherAgent, isOther, isOtherListed, againEq⟩ :=
    ends.patched_eq isAgain
  rw [isFound] at isOther
  cases isOther
  rw [isListed] at isOtherListed
  cases isOtherListed
  have nothing : again = [] := by
    rw [againEq, sameContext, sameSelected,
      workingCopy_workingCopy settled injectors first]
    exact
      Json.differences_self
        (Pod.orderly result after transfers.ordered back)
  refine ⟨result, after, carriedOut, back, ?_⟩
  rw [isAgain, nothing]

theorem derive_samplePod :
    ((Attributes.derive sampleNamespace samplePod).run
        sampleCluster).result.entries =
      [("k8s.container.name", "web"), ("k8s.namespace.name", "shop")] := by
  decide +kernel

theorem sample_patched_again :
    ∃ result after,
      samplePatch.carriedOut? sampleDocument = some result ∧
      Pod.ofJson result = .ok after ∧
      ((decide {} "shop" after).run sampleCluster).result =
        .ok (.patched []) := by
  refine
    patched_again ordered_sampleDocument ofJson_sampleDocument
      decide_samplePod ?_
  intro found key value isFound isDerived
  have isSample : sampleNamespace = found := Except.ok.inj isFound
  rw [← isSample] at isDerived
  have member := Entries.mem_of_read isDerived
  rw [derive_samplePod] at member
  have isValue : value = "web" ∨ value = "shop" := by
    simp only [List.mem_cons, Prod.mk.injEq, List.not_mem_nil, or_false]
      at member
    exact member.imp (·.2) (·.2)
  rcases isValue with rfl | rfl
  · exact Attributes.plain_of_trim_eq (by decide) (by decide) (by decide)
  · exact Attributes.plain_of_trim_eq (by decide) (by decide) (by decide)

end PodTelemetry.Mutation

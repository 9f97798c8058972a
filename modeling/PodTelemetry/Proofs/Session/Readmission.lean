import PodTelemetry.Proofs.Injection.Filling
import PodTelemetry.Proofs.Json.Operations
import PodTelemetry.Proofs.Mutation.Stability
import PodTelemetry.Proofs.Session.Admissions

/-!
# Admitting a pod again once it is complete

A pod may be admitted before its name, its uid and its node are known, and
again when they are.  They are attributes, too, so that the second admission
rewrites what the first one declared, unless the container declared them
itself.
-/

namespace PodTelemetry.Session

open PodTelemetry.Attributes (Filled LateField Plain Settled)
open PodTelemetry.Injection
open PodTelemetry.Kubernetes
open PodTelemetry.Mutation (Concerned annotation?_recordOutcome_of_ne
  concerned_iff contextOf fault_of_success patchFor
  patchFor_workingCopy_eq_nil_iff recordOutcome workingCopy)

variable {context other : InjectionContext} {injectors : List Injector}
variable {pod filled : Pod} {container : Container}

/-! ## The record on a complete pod -/

/-- What is recorded on the annotations is recorded on the pod. -/
theorem recordOutcome_eq_self
    {fault : Option InjectionFault}
    (same :
      filled.metadata.annotations =
        (recordOutcome fault pod).metadata.annotations) :
    recordOutcome fault filled = filled := by
  have again :
      (recordOutcome fault filled).metadata.annotations =
        filled.metadata.annotations := by
    have twice :=
      congrArg (fun recorded : Pod => recorded.metadata.annotations)
        (Mutation.recordOutcome_recordOutcome fault pod)
    rw [same, ← twice]
    cases fault <;> simp only [recordOutcome, same]
  calc
    recordOutcome fault filled =
        { filled with
          metadata :=
            { filled.metadata with
              annotations :=
                (recordOutcome fault filled).metadata.annotations } } := by
      cases fault <;> rfl
    _ = filled := by rw [again]

theorem moved_of_filled
    {fault : Option InjectionFault}
    (isFilled : Filled (recordOutcome fault pod) filled) :
    Moved pod filled := by
  have kept :
      ∀ key, key ≠ Annotation.status → key ≠ Annotation.reason →
        filled.metadata.annotation? key = pod.metadata.annotation? key := by
    intro key notStatus notReason
    rw [← annotation?_recordOutcome_of_ne fault pod notStatus notReason,
      ObjectMeta.annotation?, isFilled.annotations]
    rfl
  exact
    ⟨kept _ Mutation.app_ne.1 Mutation.app_ne.2,
      kept _ Mutation.appName_ne.1 Mutation.appName_ne.2,
      isFilled.spec⟩

/-! ## The working copy of a complete pod -/

section WorkingCopy

variable {injected : Pod} {first : Container}

/-- When every attribute is declared by now, there is nothing to do. -/
theorem workingCopy_of_covered
    (settled : Settled context.attributes)
    (isFirst : injected.firstContainer? = some first)
    (stable : ∀ injector ∈ injectors, Stable context injector injected)
    (isFilled : Filled (recordOutcome none injected) filled)
    (sameConfig : other.config = context.config)
    (covered : Covered context other first.variables) :
    workingCopy other injectors filled = filled := by
  have isMoved := moved_of_filled isFilled
  obtain ⟨noFault, samePod⟩ :=
    injectAll_of_stable fun injector member =>
      (stable injector member).moved settled isFirst isMoved sameConfig
        covered
  simp only [workingCopy, noFault, samePod]
  exact recordOutcome_eq_self isFilled.annotations

/-- The injectors succeed on the complete pod, too. -/
theorem fault_of_filled
    (isFirst : injected.firstContainer? = some first)
    (stable : ∀ injector ∈ injectors, Stable context injector injected)
    (isFilled : Filled (recordOutcome none injected) filled)
    (other : InjectionContext) :
    (Injector.injectAll other filled injectors).fault = none := by
  have filledFirst : filled.firstContainer? = some first :=
    (moved_of_filled isFilled).firstContainer?_eq.trans isFirst
  rw [(stepped_injectAll other filledFirst injectors).fault,
    ← (stepped_injectAll context isFirst injectors).fault]
  exact (injectAll_of_stable stable).1

/-- Where the injectors find their work, every attribute is declared. -/
theorem declared_of_stable
    (settled : Settled context.attributes) (asked : injectors ≠ [])
    (isFirst : injected.firstContainer? = some first)
    (stable : ∀ injector ∈ injectors, Stable context injector injected)
    {key : String} (derived : (context.attributes.get? key).isSome) :
    Declared key first.variables := by
  obtain ⟨injector, member⟩ := List.exists_mem_of_ne_nil _ asked
  exact
    ((stable injector member).configured_of_any settled isFirst).2.declared
      settled derived

/-- When there is nothing to do, every attribute is declared by now. -/
theorem declared_of_workingCopy
    (settled : Settled other.attributes) (asked : injectors ≠ [])
    (isFirst : filled.firstContainer? = some first)
    (noFault : (Injector.injectAll other filled injectors).fault = none)
    (fixed : workingCopy other injectors filled = filled)
    {key : String} (derived : (other.attributes.get? key).isSome) :
    Declared key first.variables := by
  have isRecorded :
      recordOutcome none (Injector.injectAll other filled injectors).pod =
        filled := by
    rw [← noFault]
    exact fixed
  have kept :
      (Injector.injectAll other filled injectors).pod.firstContainer? =
        (recordOutcome none
          (Injector.injectAll other filled injectors).pod).firstContainer? :=
    rfl
  refine
    declared_of_stable settled asked ?_
      (stable_injectAll settled isFirst noFault) derived
  rw [kept, isRecorded]
  exact isFirst

/-- All that is done to the complete pod is done to its spec. -/
theorem path_of_mem_patchFor
    (isFirst : injected.firstContainer? = some first)
    (stable : ∀ injector ∈ injectors, Stable context injector injected)
    (isFilled : Filled (recordOutcome none injected) filled)
    (ordered : filled.toJson.Ordered) :
    ∀ operation ∈ patchFor filled (workingCopy other injectors filled),
      ["spec"] <+: operation.path := by
  have filledFirst : filled.firstContainer? = some first :=
    (moved_of_filled isFilled).firstContainer?_eq.trans isFirst
  have noFault := fault_of_filled isFirst stable isFilled other
  obtain ⟨spec, _, isGrown⟩ :=
    (stepped_injectAll other filledFirst injectors).grown
  have isCopy : workingCopy other injectors filled = { filled with spec } := by
    simp only [workingCopy, noFault, isGrown]
    have recorded := recordOutcome_eq_self isFilled.annotations
    calc
      recordOutcome none { filled with spec } =
          { recordOutcome none filled with spec } := rfl
      _ = { filled with spec } := by rw [recorded]
  rw [isCopy]
  refine
    Json.path_of_mem_differences filled.isRecord_toJson
      (Pod.isRecord_toJson _) ordered fun other elsewhere => ?_
  simp [Pod.toJson, Ne.symm elsewhere]

/-- Nothing is left to do just when every attribute is declared by now. -/
theorem patchFor_eq_nil_iff
    (settled : Settled context.attributes)
    (otherSettled : Settled other.attributes) (asked : injectors ≠ [])
    (isFirst : injected.firstContainer? = some first)
    (stable : ∀ injector ∈ injectors, Stable context injector injected)
    (isFilled : Filled (recordOutcome none injected) filled)
    (sameConfig : other.config = context.config)
    {document : Json} (ordered : document.Ordered)
    (decoded : Pod.ofJson document = .ok filled)
    (concerned : Concerned filled) :
    patchFor filled (workingCopy other injectors filled) = [] ↔
      Covered context other first.variables := by
  rw [patchFor_workingCopy_eq_nil_iff ordered decoded concerned]
  constructor
  · intro fixed key derived
    exact
      Or.inr
        (declared_of_workingCopy otherSettled asked
          ((moved_of_filled isFilled).firstContainer?_eq.trans isFirst)
          (fault_of_filled isFirst stable isFilled other) fixed derived)
  · intro covered
    exact
      workingCopy_of_covered settled isFirst stable isFilled sameConfig
        covered

end WorkingCopy

/-! ## The second admission -/

/-- The attributes are settled still when plain values were filled in. -/
theorem settled_of_filled
    {old : Pod} {cluster : Cluster} {isIn : Namespace}
    (isFilled : Filled old filled)
    (isFirst : old.firstContainer? = some container)
    (clean :
      ∀ key value,
        ((Attributes.derive isIn old).run cluster).result.get? key =
            some value →
          Plain value) :
    Settled ((Attributes.derive isIn filled).run cluster).result := by
  refine Attributes.settled_derive fun key value derived => ?_
  rcases (isFilled.derive isFirst cluster isIn).1 key value derived with
    before | ⟨field, _, isValue, changed⟩
  · exact clean key value before
  · rcases isFilled.fields field with same | ⟨_, _, plain⟩
    · exact absurd same changed
    · rw [isValue]
      exact plain

/-- What is derived of the complete pod is declared just when the fields that
were filled in are. -/
theorem covered_iff
    {old : Pod} {cluster : Cluster} {isIn : Namespace} {env : List EnvVar}
    (isFilled : Filled old filled)
    (isFirst : old.firstContainer? = some container)
    (isContext :
      context.attributes = ((Attributes.derive isIn old).run cluster).result)
    (isOther :
      other.attributes = ((Attributes.derive isIn filled).run cluster).result)
    (declared :
      ∀ key, (context.attributes.get? key).isSome → Declared key env) :
    Covered context other env ↔
      ∀ field : LateField,
        field.valueIn filled = field.valueIn old ∨
          Declared field.key env := by
  obtain ⟨onlyFields, allFields⟩ := isFilled.derive isFirst cluster isIn
  rw [← isOther] at onlyFields allFields
  rw [← isContext] at onlyFields
  constructor
  · intro covered field
    by_cases same : field.valueIn filled = field.valueIn old
    · exact Or.inl same
    · have known := ((isFilled.fields field).resolve_left same).2.1
      exact
        Or.inr
          ((covered field.key (allFields field known)).elim
            (declared field.key) id)
  · intro fields key derived
    obtain ⟨value, isValue⟩ := Option.isSome_iff_exists.1 derived
    rcases onlyFields key value isValue with
      before | ⟨field, isKey, _, changed⟩
    · exact Or.inl (Option.isSome_iff_exists.2 ⟨value, before⟩)
    · rw [isKey]
      exact Or.inr ((fields field).resolve_left changed)

/-- The second admission asks for the same injectors as the first one. -/
theorem decide_of_filled
    (session : Session) {old : Pod} (isFilled : Filled old filled)
    (concerned : Concerned old) (ordered : session.pod.Ordered)
    (decoded : Pod.ofJson session.pod = .ok filled)
    {isIn : Namespace} {agent : Agent}
    (isFound :
      session.cluster (.findNamespace session.inNamespace) = .ok isIn)
    (isListed : session.cluster .listAgents = .ok [agent]) :
    Concerned filled ∧
      session.decide.1.result =
        .ok
          (.patched
            (patchFor filled
              (workingCopy
                (contextOf session.operator session.cluster isIn agent filled)
                (Injector.selected old.metadata.annotations) filled))) := by
  obtain ⟨asked, first, isFirst⟩ := concerned_iff.1 concerned
  have sameSelected :
      Injector.selected filled.metadata.annotations =
        Injector.selected old.metadata.annotations := by
    rw [isFilled.annotations]
  have stillConcerned : Concerned filled := by
    refine
      concerned_iff.2
        ⟨?_, first, isFilled.firstContainer?_eq.trans isFirst⟩
    rw [sameSelected]
    exact asked
  refine ⟨stillConcerned, ?_⟩
  rw [← sameSelected]
  exact
    (decide_ends ordered decoded).patched_of_concerned stillConcerned isFound
      isListed

/-- A pod that was admitted with success gets name, uid and node, as far as
they were not known, and is admitted again in the same cluster.  Then nothing
but its spec is patched, and that is left alone if, and only if, its first
container had declared each attribute that was filled in. -/
theorem readmission
    {session : Session} (ordered : session.pod.Ordered)
    (decoded : Pod.ofJson session.pod = .ok pod) {patch : Json.Patch}
    (patched : session.decide.1.result = .ok (.patched patch))
    (clean :
      ∀ isIn key value,
        session.cluster (.findNamespace session.inNamespace) = .ok isIn →
        ((Attributes.derive isIn pod).run session.cluster).result.get? key =
            some value →
          Plain value) :
    ∃ after first,
      Pod.ofJson session.decide.2.pod = .ok after ∧
      after.firstContainer? = some first ∧
      (after.metadata.annotation? Annotation.status = some "success" →
        ∀ document filled,
          document.Ordered → Pod.ofJson document = .ok filled →
          Filled after filled →
          ∃ again,
            { session with pod := document }.decide.1.result =
              .ok (.patched again) ∧
            (∀ operation ∈ again, ["spec"] <+: operation.path) ∧
            (again = [] ↔
              ∀ field : LateField,
                field.valueIn filled = field.valueIn after ∨
                  Declared field.key first.variables)) := by
  obtain ⟨concerned, _, isIn, agent, isFound, isListed, back⟩ :=
    (decide_ends ordered decoded).of_patched patched
  obtain ⟨asked, container, found⟩ := concerned_iff.1 concerned
  let injectors := Injector.selected pod.metadata.annotations
  let context := contextOf session.operator session.cluster isIn agent pod
  let after := workingCopy context injectors pod
  obtain ⟨first, isFirst, _⟩ :=
    (stepped_injectAll context found injectors).first
  have afterFirst : after.firstContainer? = some first := isFirst
  refine ⟨after, first, back, afterFirst, ?_⟩
  intro success document filled filledOrdered filledDecoded isFilled
  -- The first admission left every injector its work, recorded as a success.
  have settled : Settled context.attributes :=
    Attributes.settled_derive fun key value derived =>
      clean isIn key value isFound derived
  have noFault := fault_of_success success
  have stable := stable_injectAll settled found noFault
  have recorded :
      Filled
        (recordOutcome none (Injector.injectAll context pod injectors).pod)
        filled := by
    rw [← noFault]
    exact isFilled
  have sameDerived :
      Attributes.derive isIn after = Attributes.derive isIn pod :=
    Mutation.derive_of_grown
      (Mutation.grown_workingCopy context injectors found) isIn
  -- The second one asks for the same injectors in another context.
  let next : Session := { session with pod := document }
  let other := contextOf session.operator session.cluster isIn agent filled
  have sameSelected :
      Injector.selected after.metadata.annotations = injectors :=
    Mutation.selected_workingCopy context injectors found
  have stillConcerned : Concerned after :=
    concerned_iff.2 ⟨sameSelected ▸ asked, first, afterFirst⟩
  obtain ⟨filledConcerned, isPatched⟩ :=
    decide_of_filled next isFilled stillConcerned filledOrdered filledDecoded
      isFound isListed
  rw [sameSelected] at isPatched
  have otherSettled : Settled other.attributes := by
    refine settled_of_filled isFilled afterFirst fun key value derived => ?_
    rw [sameDerived] at derived
    exact clean isIn key value isFound derived
  have isContext :
      context.attributes =
        ((Attributes.derive isIn after).run session.cluster).result := by
    rw [sameDerived]
    rfl
  refine
    ⟨_, isPatched,
      path_of_mem_patchFor isFirst stable recorded
        (Pod.orderly document filled filledOrdered filledDecoded), ?_⟩
  exact
    (patchFor_eq_nil_iff settled otherSettled asked isFirst stable recorded
        rfl filledOrdered filledDecoded filledConcerned).trans
      (covered_iff isFilled afterFirst isContext rfl fun key derived =>
        declared_of_stable settled asked isFirst stable derived)

/-! ## A pod whose name is generated -/

/-- What is filled in once the pod is created and has a node. -/
def samplePlacement : Json.Patch :=
  [.add ["metadata", "name"] (.string "web-x7k2p"),
    .add ["metadata", "uid"] (.string "8f14e45f-ceea-467f-a0e6-6f1c0d2f7a11"),
    .add ["spec", "nodeName"] (.string "node-1")]

/-- The pod after it was admitted and placed. -/
def samplePlacedDocument : Json :=
  .object
    [("metadata", .object
        [("annotations", .object
            [("otel.splunk.com/inject-config", .string "true"),
              ("otel.splunk.com/injection-status", .string "success")]),
          ("generateName", .string "web-"), ("name", .string "web-x7k2p"),
          ("uid", .string "8f14e45f-ceea-467f-a0e6-6f1c0d2f7a11")]),
      ("spec", .object
        [("containers", .array
            [.object
              [("env", .array
                  [.object
                    [("name", .string "SPLUNK_OTEL_AGENT"),
                      ("valueFrom", .object
                        [("fieldRef", .object
                            [("apiVersion", .string "v1"),
                              ("fieldPath", .string "status.hostIP")])])],
                    .object
                      [("name", .string "OTEL_SERVICE_NAME"),
                        ("value", .string "app")],
                    .object
                      [("name", .string "OTEL_EXPORTER_OTLP_ENDPOINT"),
                        ("value",
                          .string "http://$(SPLUNK_OTEL_AGENT):4317")],
                    .object
                      [("name", .string "OTEL_TRACES_EXPORTER"),
                        ("value", .string "otlp")],
                    .object
                      [("name", .string "OTEL_RESOURCE_ATTRIBUTES"),
                        ("value",
                          .string
                            ("k8s.container.name=app," ++
                              "k8s.namespace.name=shop"))]]),
                ("name", .string "app")]]),
          ("nodeName", .string "node-1")])]

theorem ordered_samplePlacedDocument : samplePlacedDocument.Ordered := by
  simp only [samplePlacedDocument, Json.Ordered, Json.OrderedMembers,
    Json.OrderedItems, Entries.Ascending]
  decide +kernel

def sampleAdmitted : Pod :=
  workingCopy
    (contextOf {} (sampleTopology true).cluster Mutation.sampleNamespace
      (sampleAgent true) samplePod)
    [.config] samplePod

def samplePlaced : Pod :=
  { sampleAdmitted with
    metadata :=
      { sampleAdmitted.metadata with
        name := some "web-x7k2p"
        uid := some "8f14e45f-ceea-467f-a0e6-6f1c0d2f7a11" }
    spec :=
      sampleAdmitted.spec.map fun spec =>
        { spec with nodeName := some "node-1" } }

theorem filled_samplePlaced : Filled sampleAdmitted samplePlaced := by
  refine ⟨fun field => Or.inr ?_, rfl, rfl, some "node-1", rfl⟩
  cases field with
  | name | uid | node =>
      exact
        ⟨by decide +kernel, by decide +kernel,
          Attributes.plain_of_trim_eq (by decide +kernel)
            (by decide +kernel) (by decide +kernel)⟩

theorem plain_derive_samplePod
    {isIn : Namespace} {key value : String}
    (isFound : sampleSession.cluster (.findNamespace "shop") = .ok isIn)
    (derived :
      ((Attributes.derive isIn samplePod).run
          sampleSession.cluster).result.get? key =
        some value) :
    Plain value := by
  have isSample : Mutation.sampleNamespace = isIn := Except.ok.inj isFound
  rw [← isSample] at derived
  exact Attributes.plain_of_get? (by decide +kernel) derived

/-- The container does not declare the name of the pod, and so its spec is
patched again. -/
theorem samplePlaced_readmission :
    ∃ again,
      { sampleSession with pod := samplePlacedDocument }.decide.1.result =
        .ok (.patched again) ∧
      again ≠ [] ∧ ∀ operation ∈ again, ["spec"] <+: operation.path := by
  have patched :
      sampleSession.decide.1.result =
        .ok (.patched (patchFor samplePod sampleAdmitted)) := by
    decide +kernel
  obtain ⟨after, first, isAfter, isFirst, admits⟩ :=
    readmission ordered_sampleSession ofJson_sampleSession patched
      fun _ _ _ => plain_derive_samplePod
  have decoded :
      Pod.ofJson sampleSession.decide.2.pod = .ok sampleAdmitted := by
    decide +kernel
  have same : after = sampleAdmitted :=
    Except.ok.inj (isAfter.symm.trans decoded)
  subst same
  obtain ⟨again, isAgain, inSpec, unchanged⟩ :=
    admits (by decide +kernel) samplePlacedDocument samplePlaced
      ordered_samplePlacedDocument (by decide +kernel) filled_samplePlaced
  refine ⟨again, isAgain, fun nothing => ?_, inSpec⟩
  rcases unchanged.1 nothing .name with same | ⟨value, member⟩
  · exact absurd same (by decide +kernel)
  · have pairs :
        (sampleAdmitted.firstContainer?.map fun first =>
            (Attributes.declaredPieces first.variables).filterMap
              Attributes.pair?) =
          some
            [("k8s.container.name", "app"),
              ("k8s.namespace.name", "shop")] := by
      decide +kernel
    rw [isFirst, Option.map_some] at pairs
    rw [Option.some.inj pairs] at member
    simp [LateField.key, Attributes.podNameKey] at member

/-- The attributes that the container declares are rewritten, and the name of
the service is declared a second time. -/
theorem variables_of_samplePlaced :
    sampleSession.decide.2.status? = some "success" ∧
    (sampleSession.decide.2.edit samplePlacement).1.pod =
      samplePlacedDocument ∧
    { sampleSession with pod := samplePlacedDocument }.decide.1.result =
      .ok
        (.patched
          [.replace ["spec", "containers", "0", "env", "4", "value"]
              (.string
                ("k8s.container.name=app,k8s.namespace.name=shop," ++
                  "k8s.node.name=node-1,k8s.pod.name=web-x7k2p," ++
                  "k8s.pod.uid=8f14e45f-ceea-467f-a0e6-6f1c0d2f7a11")),
            .add ["spec", "containers", "0", "env", "5"]
              (.object
                [("name", .string "OTEL_SERVICE_NAME"),
                  ("value", .string "web-x7k2p")])]) := by
  decide +kernel

end PodTelemetry.Session

import PodTelemetry.Proofs.Injection.Declarations
import PodTelemetry.Proofs.Session.Admissions

/-!
# Settings after many admissions

However the topology changes between the admissions of a pod, each value of a
setting is declared once, in the order in which the values first were current.
The declaration that counts is the last one, which need not be that of the
current value.
-/

namespace PodTelemetry.Session

open PodTelemetry.Injection
open PodTelemetry.Kubernetes
open PodTelemetry.Mutation (Concerned concerned_iff fault_of_success
  workingCopy)

/-! ## Values in the order of their first appearance -/

theorem eraseDups_concat (values : List String) (value : String) :
    (values ++ [value]).eraseDups =
      if value ∈ values then values.eraseDups
      else values.eraseDups ++ [value] := by
  rw [List.eraseDups_append]
  by_cases known : value ∈ values
  · simp [List.removeAll, known]
  · simp [List.removeAll, known, List.eraseDups_cons]

theorem withAdditions_eraseDups
    (name : String) (values : List String) (value : String) :
    withAdditions (values.eraseDups.map (EnvVar.literal name))
        [EnvVar.literal name value] =
      (values ++ [value]).eraseDups.map (EnvVar.literal name) := by
  have same :
      EnvVar.literal name value ∈
          values.eraseDups.map (EnvVar.literal name) ↔
        value ∈ values := by
    simp [EnvVar.literal]
  rw [eraseDups_concat, withAdditions_cons]
  by_cases known : value ∈ values
  · rw [if_pos (same.2 known), if_pos known]
    rfl
  · rw [if_neg fun member => known (same.1 member), if_neg known,
      List.map_append]
    rfl

/-- The last of the values without repetitions is the one that appeared last
for the first time. -/
theorem getLast?_eraseDups_eq_some_iff
    {values : List String} {value : String} (member : value ∈ values) :
    values.eraseDups.getLast? = some value ↔
      ∀ other ∈ values, values.idxOf other ≤ values.idxOf value := by
  induction values using List.reverseRecOn with
  | nil =>
      cases member
  | append_singleton earlier newest inductionHypothesis =>
      rw [eraseDups_concat]
      by_cases known : newest ∈ earlier
      · have within :
            ∀ other, other ∈ earlier ++ [newest] ↔ other ∈ earlier := by
          intro other
          simp only [List.mem_append, List.mem_singleton]
          exact or_iff_left_of_imp fun same => same ▸ known
        rw [if_pos known, inductionHypothesis ((within value).1 member)]
        refine forall_congr' fun other => ?_
        rw [within]
        refine imp_congr_right fun isEarlier => ?_
        rw [List.idxOf_append_of_mem isEarlier,
          List.idxOf_append_of_mem ((within value).1 member)]
      · have atEnd :
            (earlier ++ [newest]).idxOf newest = earlier.length := by
          simp [List.idxOf_append_of_notMem known]
        rw [if_neg known, List.getLast?_concat, Option.some.injEq]
        constructor
        · rintro rfl other isOther
          have inRange := List.idxOf_lt_length_of_mem isOther
          rw [atEnd]
          simpa [Nat.lt_succ_iff] using inRange
        · intro isLast
          by_contra different
          have isEarlier : value ∈ earlier := by
            simpa [Ne.symm different] using member
          have before := isLast newest (by simp)
          rw [atEnd, List.idxOf_append_of_mem isEarlier] at before
          exact
            absurd (List.idxOf_lt_length_of_mem isEarlier)
              (Nat.not_lt.2 before)

/-! ## What admissions leave declared -/

/-- The values that the setting had, in the order of their first appearance,
each declared once. -/
def declarationsOfAll
    (setting : Setting) (configs : List InjectionConfig) : List EnvVar :=
  (configs.map setting.valueIn).eraseDups.map (EnvVar.literal setting.name)

/-- The pod that is read from the session's document declares what the
configurations came to, provided that anything is injected at all. -/
structure Declares
    (session : Session) (configs : List InjectionConfig)
    (pod : Pod) (first : Container) : Prop where
  ordered : session.pod.Ordered
  decoded : Pod.ofJson session.pod = .ok pod
  isFirst : pod.firstContainer? = some first
  declared :
    Concerned pod → hasSourcedAttributes first.variables = false →
      ∀ setting : Setting,
        setting.declarations first.variables =
          declarationsOfAll setting configs

variable {session : Session} {configs : List InjectionConfig} {pod : Pod}
variable {first : Container}

/-- What is declared after a patch, in terms of the working copy that was
made. -/
theorem Declares.patched
    (before : Declares session configs pod first) {after : Session}
    {context : InjectionContext} (concerned : Concerned pod)
    (ordered : after.pod.Ordered)
    (decoded :
      Pod.ofJson after.pod =
        .ok
          (workingCopy context
            (Injector.selected pod.metadata.annotations) pod)) :
    ∃ last,
      Declares after (configs ++ [context.config])
        (workingCopy context (Injector.selected pod.metadata.annotations)
          pod)
        last ∧
      (hasSourcedAttributes first.variables = false →
        ∀ setting : Setting,
          setting.declarations last.variables =
            declarationsOfAll setting (configs ++ [context.config])) := by
  have asked := (concerned_iff.1 concerned).1
  generalize Injector.selected pod.metadata.annotations = injectors
    at asked decoded ⊢
  obtain ⟨last, isLast, sameSourced, _⟩ :=
    (stepped_injectAll context before.isFirst injectors).first
  have declared :
      hasSourcedAttributes first.variables = false →
        ∀ setting : Setting,
          setting.declarations last.variables =
            declarationsOfAll setting (configs ++ [context.config]) := by
    intro plain setting
    obtain ⟨other, isOther, isDeclared⟩ :=
      setting.declarations_injectAll context before.isFirst plain asked
    rw [isLast] at isOther
    cases isOther
    rw [isDeclared, before.declared concerned plain setting]
    unfold declarationsOfAll Setting.declarationIn
    rw [withAdditions_eraseDups, List.map_append]
    rfl
  refine ⟨last, ⟨ordered, decoded, isLast, ?_⟩, declared⟩
  intro _ plain
  exact declared (sameSourced ▸ plain)

/-- One admission adds what the topology comes to, if it is known. -/
theorem Declares.admission
    (before : Declares session configs pod first) :
    ∃ admitted last,
      Declares session.decide.2 (configs ++ session.config?.toList) admitted
        last := by
  have ends := decide_ends before.ordered before.decoded
  generalize isResult : session.decide.1.result = result at ends
  generalize isDocument : session.decide.2.pod = document at ends
  cases ends with
  | unconcerned notConcerned =>
      refine ⟨pod, first, ?_, ?_, before.isFirst, ?_⟩
      · exact isDocument ▸ before.ordered
      · exact isDocument ▸ before.decoded
      · intro concerned
        exact absurd concerned notConcerned
  | turnedDown error concerned unclear =>
      rw [unclear, Option.toList_none, List.append_nil]
      refine ⟨pod, first, ?_, ?_, before.isFirst, before.declared⟩
      · exact isDocument ▸ before.ordered
      · exact isDocument ▸ before.decoded
  | patched found agent document concerned isFound isListed ordered back =>
      rw [config?_eq_some isFound isListed, Option.toList_some]
      rw [← isDocument] at ordered back
      obtain ⟨last, declares, _⟩ := before.patched concerned ordered back
      exact ⟨_, last, declares⟩

theorem Declares.under
    (before : Declares session configs pod first) (now : Circumstances) :
    Declares (session.under now) configs pod first :=
  ⟨before.ordered, before.decoded, before.isFirst, before.declared⟩

theorem Declares.admissions
    (before : Declares session configs pod first)
    (all : List Circumstances) :
    (session.admissions all).inNamespace = session.inNamespace ∧
    ∃ admitted last,
      Declares (session.admissions all)
        (configs ++ all.filterMap fun now => (session.under now).config?)
        admitted last := by
  induction all generalizing session configs pod first with
  | nil =>
      refine ⟨rfl, pod, first, ?_⟩
      rw [List.filterMap_nil, List.append_nil]
      exact before
  | cons now later inductionHypothesis =>
      obtain ⟨admitted, last, declares⟩ := (before.under now).admission
      have sameNamespace :
          (session.under now).decide.2.inNamespace = session.inNamespace :=
        inNamespace_decide (session.under now)
      obtain ⟨stays, reached⟩ := inductionHypothesis declares
      simp only [config?_under sameNamespace] at reached
      refine ⟨stays.trans sameNamespace, ?_⟩
      rw [List.append_assoc] at reached
      have isWhole :
          ((now :: later).filterMap fun now => (session.under now).config?) =
            (session.under now).config?.toList ++
              later.filterMap fun now => (session.under now).config? := by
        rw [List.filterMap_cons]
        cases (session.under now).config? <;> rfl
      rw [isWhole]
      exact reached

/-! ## The last declaration -/

/-- Where a success is recorded, attributes are not declared with a source. -/
theorem plain_of_success
    {context : InjectionContext} {injectors : List Injector}
    (asked : injectors ≠ []) (isFirst : pod.firstContainer? = some first)
    (success :
      (workingCopy context injectors pod).metadata.annotation?
          Annotation.status =
        some "success") :
    hasSourcedAttributes first.variables = false := by
  have noFault := fault_of_success success
  rw [(stepped_injectAll context isFirst injectors).fault] at noFault
  cases sourced : hasSourcedAttributes first.variables with
  | false =>
      rfl
  | true =>
      rw [faultOf, if_neg asked, if_pos sourced] at noFault
      cases noFault

theorem getLast?_declarationsOfAll
    (setting : Setting) {config : InjectionConfig}
    (member : config ∈ configs) :
    let values := configs.map setting.valueIn
    (declarationsOfAll setting configs).getLast? =
        some (EnvVar.literal setting.name (setting.valueIn config)) ↔
      ∀ other ∈ values,
        values.idxOf other ≤ values.idxOf (setting.valueIn config) := by
  intro values
  have isValue : setting.valueIn config ∈ values :=
    List.mem_map_of_mem member
  rw [← getLast?_eraseDups_eq_some_iff isValue]
  unfold declarationsOfAll
  rw [List.getLast?_map, Option.map_eq_some_iff]
  simp [EnvVar.literal, values]

/-- The declarations of the setting in the first container of the pod. -/
def declarations? (session : Session) (setting : Setting) :
    Option (List EnvVar) :=
  ((Pod.ofJson session.pod).toOption.bind (·.firstContainer?)).map
    fun first => setting.declarations first.variables

theorem Declares.status?_eq
    (declares : Declares session configs pod first) :
    session.status? = pod.metadata.annotation? Annotation.status := by
  rw [status?, declares.decoded]
  rfl

theorem Declares.declarations?_eq
    (declares : Declares session configs pod first) (setting : Setting) :
    session.declarations? setting =
      some (setting.declarations first.variables) := by
  rw [declarations?, declares.decoded]
  change pod.firstContainer?.map _ = _
  rw [declares.isFirst, Option.map_some]

/-- After an admission that records a success, every value that the topology
gave a setting so far is declared once, in the order in which the values first
were current.  So the last declaration is that of the current value if, and
only if, no other value was current for the first time later on. -/
theorem settings_admissions
    (ordered : session.pod.Ordered)
    (decoded : Pod.ofJson session.pod = .ok pod)
    (isFirst : pod.firstContainer? = some first)
    (undeclared :
      ∀ entry ∈ first.variables,
        entry.name ≠ Env.tracesExporter ∧ entry.name ≠ Env.endpoint)
    (earlier : List Circumstances) (now : Circumstances)
    {patch : Json.Patch}
    (patched :
      ((session.admissions earlier).under now).decide.1.result =
        .ok (.patched patch)) :
    let after := session.admissions (earlier ++ [now])
    ∃ config,
      (session.under now).config? = some config ∧
      (after.status? = some "success" →
        ∀ setting : Setting,
          let configs :=
            (earlier.filterMap fun before => (session.under before).config?) ++
              [config]
          let values := configs.map setting.valueIn
          after.declarations? setting =
              some (values.eraseDups.map (EnvVar.literal setting.name)) ∧
          ((after.declarations? setting).bind (·.getLast?) =
              some (EnvVar.literal setting.name (setting.valueIn config)) ↔
            ∀ other ∈ values,
              values.idxOf other ≤
                values.idxOf (setting.valueIn config))) := by
  have start : Declares session [] pod first := by
    refine ⟨ordered, decoded, isFirst, fun _ _ setting => ?_⟩
    refine List.filter_eq_nil_iff.2 fun entry member named => ?_
    have isName : entry.name = setting.name := by simpa using named
    cases setting with
    | exporter =>
        exact (undeclared entry member).1 isName
    | endpoint =>
        exact (undeclared entry member).2 isName
  obtain ⟨sameNamespace, current, container, before⟩ :=
    start.admissions earlier
  rw [List.nil_append] at before
  rw [admissions_append]
  generalize session.admissions earlier = reached at *
  have sameConfig := config?_under sameNamespace now
  have within := before.under now
  obtain ⟨concerned, afterOrdered, found, agent, isFound, isListed, back⟩ :=
    (decide_ends within.ordered within.decoded).of_patched patched
  obtain ⟨last, declares, declared⟩ :=
    before.patched concerned afterOrdered back
  intro after
  refine
    ⟨InjectionConfig.ofSpec agent.spec now.operator, ?_,
      fun success setting => ?_⟩
  · rw [← sameConfig]
    exact config?_eq_some isFound isListed
  · rw [declares.status?_eq] at success
    have plain :=
      plain_of_success (concerned_iff.1 concerned).1 before.isFirst success
    intro configs values
    have isDeclared :
        after.declarations? setting =
          some (declarationsOfAll setting configs) :=
      (declares.declarations?_eq setting).trans
        (congrArg some (declared plain setting))
    refine ⟨isDeclared, ?_⟩
    rw [isDeclared]
    exact
      getLast?_declarationsOfAll setting
        (List.mem_append_right _ (List.mem_singleton_self _))

theorem sampleSession_declarations :
    let onNodes := sampleTopology true
    let direct := sampleTopology false
    (sampleSession.admissions [direct, onNodes, direct]).declarations?
        .endpoint =
      some
        [EnvVar.literal Env.endpoint
            "https://ingest.us0.signalfx.com/v2/trace",
          EnvVar.literal Env.endpoint "http://$(SPLUNK_OTEL_AGENT):4317"] := by
  intro onNodes direct
  have patched :
      ((sampleSession.admissions [direct, onNodes]).under
          direct).decide.1.result =
        .ok (.patched []) := by
    decide +kernel
  obtain ⟨config, isConfig, recorded⟩ :=
    settings_admissions ordered_sampleSession ofJson_sampleSession rfl
      (by decide +kernel) [direct, onNodes] direct patched
  have success :
      (sampleSession.admissions [direct, onNodes, direct]).status? =
        some "success" := by
    decide +kernel
  have isDirect :
      config =
        { exporter := .jaegerThrift
          endpoint := "https://ingest.us0.signalfx.com/v2/trace"
          javaImage := ({} : OperatorConfig).defaultJavaImage } :=
    Option.some.inj (isConfig.symm.trans (by decide +kernel))
  subst isDirect
  refine (recorded success .endpoint).1.trans ?_
  decide +kernel

/-- The collectors on the nodes go, come, and go again: the third admission
finds a declaration of the current endpoint, and leaves the one of the second
admission behind it. -/
theorem endpoint_of_earlier_topology :
    let onNodes := sampleTopology true
    let direct := sampleTopology false
    let reached := sampleSession.admissions [direct, onNodes]
    let after := sampleSession.admissions [direct, onNodes, direct]
    sampleSession.declarations? .exporter = some [] ∧
    sampleSession.declarations? .endpoint = some [] ∧
    (reached.under direct).decide.1.result = .ok (.patched []) ∧
    after.status? = some "success" ∧
    (sampleSession.under direct).config?.map (·.endpoint) =
      some "https://ingest.us0.signalfx.com/v2/trace" ∧
    (after.declarations? .endpoint).bind (·.getLast?) =
      some
        (EnvVar.literal Env.endpoint
          "http://$(SPLUNK_OTEL_AGENT):4317") := by
  decide +kernel

end PodTelemetry.Session

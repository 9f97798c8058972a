import PodTelemetry.Proofs.Attributes.Closure
import PodTelemetry.Proofs.Attributes.Merging
import PodTelemetry.Proofs.Mutation.Stability

/-!
# Declared attributes that are reported

A piece of a declaration that is no pair is reported and left out.  What is
written in its place consists of pairs, unless there is nothing to write, so
that whoever merges it again has nothing to report: neither the injector that
runs next, nor the next decision about the pod.
-/

namespace PodTelemetry.Attributes

open PodTelemetry.Kubernetes (EnvVar)

variable {attributes : Attributes}

/-! ## Attributes written as pairs -/

/-- Written as one text, the attributes are pairs and nothing else.  The text
of no attributes at all is an empty piece, which is no pair. -/
structure Legible (attributes : Attributes) : Prop where
  settled : Settled attributes
  notEmpty : attributes.entries ≠ []

theorem malformed_eq_filter (pieces : List (List Char)) :
    malformed pieces =
      (pieces.filter fun piece => piece.count '=' ≠ 1).map String.ofList := by
  unfold malformed
  refine congrArg (List.map String.ofList) (List.filter_congr ?_)
  intro piece _
  rw [Bool.eq_iff_iff, Option.isNone_iff_eq_none, pair?_eq_none_iff]
  simp

theorem malformed_eq_nil_iff {pieces : List (List Char)} :
    malformed pieces = [] ↔ ∀ piece ∈ pieces, (pair? piece).isSome := by
  simp [malformed, List.filter_eq_nil_iff, Option.isSome_iff_ne_none]

theorem malformed_of_declaredText
    {env : List EnvVar} {pieces : List (List Char)}
    (declared : DeclaredText env pieces) :
    malformed (declaredPieces env) =
      (pieces.filter fun piece => piece.count '=' ≠ 1).map String.ofList := by
  rw [declaredPieces_of_declaredText declared, malformed_eq_filter]

theorem malformed_of_undeclared
    {env : List EnvVar} (undeclared : ∀ pieces, ¬ DeclaredText env pieces) :
    malformed (declaredPieces env) = [] := by
  have nothing : declaredPieces env = [] := by
    by_contra notEmpty
    exact undeclared _ (declaredText_declaredPieces notEmpty)
  rw [nothing]
  rfl

theorem Legible.malformed_piecesOf_text (legible : Legible attributes) :
    malformed (piecesOf attributes.text) = [] := by
  rw [malformed_eq_nil_iff, piecesOf_text legible.settled legible.notEmpty]
  intro piece member
  obtain ⟨entry, isEntry, rfl⟩ := List.mem_map.1 member
  obtain ⟨keyPlain, valuePlain⟩ :=
    settled_iff.1 legible.settled entry isEntry
  rw [pair?_written keyPlain valuePlain]
  rfl

theorem Legible.mergedWith
    (legible : Legible attributes) (env : List EnvVar) :
    Legible (attributes.mergedWith env).attributes where
  settled := settled_mergedWith legible.settled env
  notEmpty := by
    obtain ⟨⟨key, value⟩, member⟩ :=
      List.exists_mem_of_ne_nil _ legible.notEmpty
    have found : attributes.get? key = some value :=
      Entries.read_eq_some_of_mem attributes.ascending member
    have given : (attributes.get? key).isSome := by
      rw [found]
      rfl
    have covered : ((attributes.mergedWith env).attributes.get? key).isSome :=
      isSome_get?_overlay given (declaredPieces env)
    intro empty
    have absent : (attributes.mergedWith env).attributes.get? key = none := by
      rw [Dictionary.get?, empty]
      rfl
    rw [absent] at covered
    cases covered

end PodTelemetry.Attributes

namespace PodTelemetry.Injection

open PodTelemetry.Attributes (Legible declaredPieces declares malformed)
open PodTelemetry.Kubernetes

variable {context : InjectionContext} {pod : Pod} {container : Container}
variable {env result : List EnvVar}

/-! ## What an injector passes over -/

/-- Merging reads the variables and has nothing to report. -/
structure Tidy (env : List EnvVar) : Prop where
  plain : hasSourcedAttributes env = false
  nothing : malformed (declaredPieces env) = []

theorem tidy_configuredFor
    (legible : Legible context.attributes) (pod : Pod)
    (plain : hasSourcedAttributes env = false) :
    Tidy (configuredFor context pod env) where
  plain := hasSourcedAttributes_configuredVariables plain
  nothing := by
    let merged := (context.attributes.mergedWith env).attributes
    have isFirst :
        (configuredFor context pod env).find? declares =
          some (declaration merged) :=
      find?_declares_configuredVariables
    rw [Attributes.declaredPieces_of_find? isFirst rfl]
    exact (legible.mergedWith env).malformed_piecesOf_text

/-- Options for Java have no part in it. -/
theorem Tidy.javaVariables
    (tidy : Tidy env) (reached : javaVariables? env = some result) :
    Tidy result where
  plain := hasSourcedAttributes_javaVariables reached tidy.plain
  nothing := by
    unfold declaredPieces
    rw [find?_declares_javaVariables reached]
    exact tidy.nothing

theorem skipped_injectConfig
    (found : pod.firstContainer? = some container)
    (plain : hasSourcedAttributes container.variables = false) :
    (injectConfig context pod).skipped =
      malformed (declaredPieces container.variables) := by
  simp only [injectConfig, found, plain]
  rfl

/-- The Java agent passes over what the exporter's configuration passes
over. -/
theorem skipped_injectJava (context : InjectionContext) (pod : Pod) :
    (injectJava context pod).skipped =
      (injectConfig context pod).skipped := by
  unfold injectJava
  generalize injectConfig context pod = configured
  obtain ⟨made, fault, skipped⟩ := configured
  cases fault with
  | some fault =>
      rfl
  | none =>
      dsimp only
      cases made.firstContainer? with
      | none =>
          rfl
      | some container =>
          dsimp only
          cases javaVariables? container.variables <;> rfl

theorem skipped_inject
    (found : pod.firstContainer? = some container)
    (plain : hasSourcedAttributes container.variables = false)
    (injector : Injector) :
    (injector.inject context pod).skipped =
      malformed (declaredPieces container.variables) := by
  cases injector with
  | config =>
      exact skipped_injectConfig found plain
  | java =>
      exact
        (skipped_injectJava context pod).trans
          (skipped_injectConfig found plain)

/-- Whether an injector comes to its end or not, the next one has nothing to
pass over. -/
theorem tidy_inject
    (legible : Legible context.attributes)
    (found : pod.firstContainer? = some container)
    (plain : hasSourcedAttributes container.variables = false)
    (injector : Injector) :
    ∃ next,
      (injector.inject context pod).pod.firstContainer? = some next ∧
      Tidy next.variables := by
  let configured := configuredFor context pod container.variables
  have tidy : Tidy configured := tidy_configuredFor legible pod plain
  have isNext := firstContainer?_withVariables found configured
  cases injector with
  | config =>
      rcases injectConfig_cases context found with
        ⟨sourced, _, _⟩ | ⟨_, _, isPod⟩
      · rw [plain] at sourced
        cases sourced
      · rw [← isPod] at isNext
        exact ⟨_, isNext, tidy⟩
  | java =>
      rcases injectJava_cases context found with
        ⟨sourced, _, _⟩ | ⟨_, _, _, isPod⟩ | ⟨_, env, reached, _, isPod⟩
      · rw [plain] at sourced
        cases sourced
      · rw [← isPod] at isNext
        exact ⟨_, isNext, tidy⟩
      · have isLast :=
          firstContainer?_withAgent isNext context.config.javaImage env
        rw [← isPod] at isLast
        exact ⟨_, isLast, tidy.javaVariables reached⟩

/-- Of several injectors the first one passes over what is no pair, and leaves
nothing of the kind to the others. -/
theorem skipped_injectAll
    (legible : Legible context.attributes)
    (found : pod.firstContainer? = some container)
    (plain : hasSourcedAttributes container.variables = false)
    {injectors : List Injector} (asked : injectors ≠ []) :
    let injected := Injector.injectAll context pod injectors
    injected.skipped = malformed (declaredPieces container.variables) ∧
      ∃ last,
        injected.pod.firstContainer? = some last ∧ Tidy last.variables := by
  intro injected
  induction injectors generalizing pod container with
  | nil =>
      exact absurd rfl asked
  | cons injector rest inductionHypothesis =>
      have skipped :
          (injector.inject context pod).skipped =
            malformed (declaredPieces container.variables) :=
        skipped_inject found plain injector
      obtain ⟨next, isNext, tidy⟩ :=
        tidy_inject legible found plain injector
      simp only [injected, Injector.injectAll]
      cases (injector.inject context pod).fault with
      | some fault =>
          exact ⟨skipped, next, isNext, tidy⟩
      | none =>
          by_cases more : rest = []
          · rw [more]
            refine ⟨?_, next, isNext, tidy⟩
            rw [skipped]
            exact List.append_nil _
          · obtain ⟨nothing, last, isLast, tidyLast⟩ :=
              inductionHypothesis isNext tidy.plain more
            refine ⟨?_, last, isLast, tidyLast⟩
            dsimp only
            rw [skipped, nothing, tidy.nothing, List.append_nil]

end PodTelemetry.Injection

namespace PodTelemetry.Mutation

open PodTelemetry.Attributes
open PodTelemetry.Injection
open PodTelemetry.Kubernetes

variable {operator : OperatorConfig} {cluster : Cluster}
variable {inNamespace : String} {pod : Pod}

/-! ## Events that report a piece -/

/-- The reports of attributes that were passed over, in order. -/
def reports (events : List Event) : List Event :=
  events.filter fun event =>
    event.message = "Skipping invalid resource attribute"

@[simp]
theorem reports_append (first second : List Event) :
    reports (first ++ second) = reports first ++ reports second :=
  List.filter_append first second

theorem reports_attributeSkipped (pieces : List String) :
    reports (pieces.map attributeSkipped) = pieces.map attributeSkipped := by
  rw [reports, List.filter_eq_self]
  intro event member
  obtain ⟨piece, _, rfl⟩ := List.mem_map.1 member
  rfl

theorem message_of_mem_reportsOn
    {event : Event} {owner : OwnerReference}
    (member : event ∈ reportsOn cluster inNamespace owner) :
    event.message =
        "Failed to look up ReplicaSet owner, continuing without it" ∨
      event.message = "Ignoring owner kind" := by
  unfold reportsOn at member
  split at member
  · cases answer : cluster (.findReplicaSet inNamespace owner.name) with
    | ok replicaSet =>
        simp [answer] at member
    | error error =>
        simp only [answer, List.mem_singleton] at member
        exact Or.inl (by rw [member]; rfl)
  · split at member
    · cases member
    · rw [List.mem_singleton] at member
      exact Or.inr (by rw [member]; rfl)

/-- Deriving attributes reports owners only. -/
theorem reports_derive
    (cluster : Cluster) (found : Namespace) (pod : Pod) :
    reports ((Attributes.derive found pod).run cluster).events = [] := by
  have apart :
      ∀ message ∈
          ["Failed to look up ReplicaSet owner, continuing without it",
            "Ignoring owner kind",
            "Ownership chain exceeds depth limit, ignoring remaining owners"],
        message ≠ "Skipping invalid resource attribute" := by
    decide
  rw [(derive_ownerClosure cluster found pod).2.2, reports,
    List.filter_eq_nil_iff]
  intro event member
  rw [decide_eq_true_iff]
  refine apart _ ?_
  rcases List.mem_append.1 member with ofOwner | ofChain
  · obtain ⟨owner, _, isReport⟩ := List.mem_flatMap.1 ofOwner
    rcases message_of_mem_reportsOn isReport with same | same
    · simp [same]
    · simp [same]
  · split at ofChain
    · cases ofChain
    · rw [List.mem_singleton.1 ofChain]
      simp [chainTooLong]

/-- The event that tells how injection ended. -/
def ending
    (inNamespace : String) (pod : Pod) (injectors : List Injector)
    (config : InjectionConfig) (fault : Option InjectionFault) : Event :=
  match fault with
  | none => injectionDone inNamespace pod injectors config
  | some fault => injectionFailed inNamespace pod fault

theorem reports_ending
    (inNamespace : String) (pod : Pod) (injectors : List Injector)
    (config : InjectionConfig) (fault : Option InjectionFault) :
    reports [ending inNamespace pod injectors config fault] = [] := by
  have apart :
      "Injected telemetry configuration" ≠
          "Skipping invalid resource attribute" ∧
        "Injection failed, admitting pod with failure annotation" ≠
          "Skipping invalid resource attribute" := by
    decide
  rw [reports, List.filter_eq_nil_iff]
  intro event member
  rw [List.mem_singleton.1 member, decide_eq_true_iff]
  cases fault with
  | none =>
      exact apart.1
  | some fault =>
      exact apart.2

/-- Whenever the pod is injected into, the pieces that the injectors pass over
are reported once, between what is said of its owners and how it ended. -/
theorem events_decide
    (operator : OperatorConfig) {found : Namespace} {agent : Agent}
    (concerned : Concerned pod)
    (isFound : cluster (.findNamespace inNamespace) = .ok found)
    (isListed : cluster .listAgents = .ok [agent]) :
    let context := contextOf operator cluster found agent pod
    let injectors := Injector.selected pod.metadata.annotations
    let injected := Injector.injectAll context pod injectors
    ((decide operator inNamespace pod).run cluster).events =
      ((Attributes.derive found pod).run cluster).events ++
        (injected.skipped.map attributeSkipped ++
          [ending inNamespace pod injectors context.config
            injected.fault]) := by
  intro context injectors injected
  obtain ⟨asked, container, first⟩ := concerned_iff.1 concerned
  unfold decide
  simp only [asked, first, List.isEmpty_iff, if_false, Option.isNone_some,
    Bool.false_eq_true, Procedure.run_andThen, Procedure.run_namespaceCalled,
    Procedure.run_agents, isFound, isListed, InjectionConfig.ofAgents,
    injectInto, Procedure.run_logAll, Procedure.run_log, Procedure.run_pure,
    List.append_nil, List.nil_append]
  rfl

theorem reports_decide
    (operator : OperatorConfig) {found : Namespace} {agent : Agent}
    (concerned : Concerned pod)
    (isFound : cluster (.findNamespace inNamespace) = .ok found)
    (isListed : cluster .listAgents = .ok [agent])
    (legible :
      Legible ((Attributes.derive found pod).run cluster).result)
    {container : Container} (first : pod.firstContainer? = some container)
    (plain : hasSourcedAttributes container.variables = false) :
    reports ((decide operator inNamespace pod).run cluster).events =
      (malformed (declaredPieces container.variables)).map
        attributeSkipped := by
  have asked := (concerned_iff.1 concerned).1
  let context := contextOf operator cluster found agent pod
  have contextLegible : Legible context.attributes := legible
  have skipped := (skipped_injectAll contextLegible first plain asked).1
  rw [events_decide operator concerned isFound isListed, reports_append,
    reports_append, reports_derive, reports_ending, skipped,
    reports_attributeSkipped, List.nil_append, List.append_nil]

/-! ## Deciding, and deciding again -/

/-- The working copy is concerned by the next decision, too, and has nothing to
report. -/
theorem tidy_workingCopy
    {context : InjectionContext} (legible : Legible context.attributes)
    (concerned : Concerned pod) {container : Container}
    (first : pod.firstContainer? = some container)
    (plain : hasSourcedAttributes container.variables = false) :
    let injectors := Injector.selected pod.metadata.annotations
    let after := workingCopy context injectors pod
    Concerned after ∧
      ∃ last, after.firstContainer? = some last ∧ Tidy last.variables := by
  intro injectors after
  have asked := (concerned_iff.1 concerned).1
  obtain ⟨_, last, isLast, tidy⟩ :=
    skipped_injectAll legible first plain asked
  have isFirst : after.firstContainer? = some last := isLast
  refine ⟨concerned_iff.2 ⟨?_, last, isFirst⟩, last, isFirst, tidy⟩
  have same := selected_workingCopy context injectors first
  rw [same]
  exact asked

/-- When a pod is patched whose attributes can be merged and written, each
piece of its declared text that has not exactly one equals sign is reported
once, in order, by an event that carries the piece, and nothing else is
reported as a piece, whichever injectors run and however they end.  A decision
about the pod that the patch leads to reports none. -/
theorem malformed_reported_once
    {patch : Json.Patch}
    (patched :
      ((decide operator inNamespace pod).run cluster).result =
        .ok (.patched patch))
    (unsourced :
      ∀ container, pod.firstContainer? = some container →
        ∀ entry ∈ container.variables,
          entry.name = Env.resourceAttributes → entry.valueFrom = none)
    (derived :
      ∀ found, cluster (.findNamespace inNamespace) = .ok found →
        let attributes := ((Attributes.derive found pod).run cluster).result
        attributes.entries ≠ [] ∧
          ∀ key value, attributes.get? key = some value → Plain value) :
    ∃ container,
      pod.firstContainer? = some container ∧
      (∀ pieces, DeclaredText container.variables pieces →
        reports ((decide operator inNamespace pod).run cluster).events =
          (pieces.filter fun piece => piece.count '=' ≠ 1).map fun piece =>
            { level := .info
              message := "Skipping invalid resource attribute"
              fields := [("attribute", .text (String.ofList piece))] }) ∧
      ((∀ pieces, ¬ DeclaredText container.variables pieces) →
        reports ((decide operator inNamespace pod).run cluster).events =
          []) ∧
      ∀ document : Json,
        document.Ordered → Pod.ofJson document = .ok pod →
          ∃ result after,
            patch.carriedOut? document = some result ∧
            Pod.ofJson result = .ok after ∧
            ∀ later : OperatorConfig,
              reports ((decide later inNamespace after).run cluster).events =
                [] := by
  obtain ⟨concerned, found, agent, isFound, isListed, isPatch⟩ :=
    (decide_ends operator cluster inNamespace pod).patched_eq patched
  obtain ⟨_, container, first⟩ := concerned_iff.1 concerned
  have plain : hasSourcedAttributes container.variables = false := by
    rw [hasSourcedAttributes_eq_false_iff]
    intro entry member isDeclaration
    refine unsourced container first entry member ?_
    simpa [declares] using isDeclaration
  have legible :
      Legible ((Attributes.derive found pod).run cluster).result := by
    obtain ⟨notEmpty, plainValues⟩ := derived found isFound
    have plainKeys := ((Attributes.keeps_derive found pod).run cluster).1
    exact
      ⟨fun key value isDerived =>
        ⟨plainKeys key value isDerived, plainValues key value isDerived⟩,
        notEmpty⟩
  have reported :=
    reports_decide operator concerned isFound isListed legible first plain
  refine ⟨container, first, ?_, ?_, ?_⟩
  · intro pieces declared
    rw [reported, malformed_of_declaredText declared, List.map_map]
    rfl
  · intro undeclared
    rw [reported, malformed_of_undeclared undeclared]
    rfl
  · intro document ordered decoded
    let injectors := Injector.selected pod.metadata.annotations
    let context := contextOf operator cluster found agent pod
    let after := workingCopy context injectors pod
    obtain ⟨result, transfers, back⟩ :=
      transfers_patched ordered decoded concerned context injectors
    have carriedOut : patch.carriedOut? document = some result := by
      rw [isPatch]
      exact transfers.carriedOut
    have contextLegible : Legible context.attributes := legible
    obtain ⟨stillConcerned, last, isLast, tidy⟩ :=
      tidy_workingCopy contextLegible concerned first plain
    have sameDerived :
        Attributes.derive found after = Attributes.derive found pod :=
      derive_of_grown (grown_workingCopy context injectors first) found
    have stillLegible :
        Legible ((Attributes.derive found after).run cluster).result := by
      rw [sameDerived]
      exact legible
    refine ⟨result, after, carriedOut, back, fun later => ?_⟩
    rw [reports_decide later stillConcerned isFound isListed stillLegible
      isLast tidy.plain, tidy.nothing]
    rfl

/-- Two injectors are asked for, and the declared text has an empty piece, one
with two equals signs and one with none. -/
def sampleMalformedDocument : Json :=
  .object
    [("metadata", .object
        [("annotations", .object
            [("otel.splunk.com/inject-config", .string "true"),
              ("otel.splunk.com/inject-java", .string "true")])]),
      ("spec", .object
        [("containers", .array
            [.object
              [("env", .array
                  [.object
                    [("name", .string "OTEL_RESOURCE_ATTRIBUTES"),
                      ("value", .string "a=1,,b==2,c")]]),
                ("name", .string "web")]])])]

def sampleMalformedPod : Pod where
  metadata :=
    { annotations :=
        some
          (Dictionary.ofList
            [("otel.splunk.com/inject-config", "true"),
              ("otel.splunk.com/inject-java", "true")]) }
  spec :=
    some
      { containers :=
          [{ env :=
               some [EnvVar.literal "OTEL_RESOURCE_ATTRIBUTES" "a=1,,b==2,c"]
             name := "web" }] }

theorem ordered_sampleMalformedDocument :
    sampleMalformedDocument.Ordered := by
  simp only [sampleMalformedDocument, Json.Ordered, Json.OrderedMembers,
    Json.OrderedItems, Entries.Ascending]
  decide +kernel

theorem ofJson_sampleMalformedDocument :
    Pod.ofJson sampleMalformedDocument = .ok sampleMalformedPod := by
  decide +kernel

theorem concerned_sampleMalformedPod : Concerned sampleMalformedPod :=
  concerned_iff.2 ⟨by decide +kernel, _, rfl⟩

theorem derive_sampleMalformedPod :
    ((Attributes.derive sampleNamespace sampleMalformedPod).run
        sampleCluster).result.entries =
      [("k8s.container.name", "web"), ("k8s.namespace.name", "shop")] := by
  decide +kernel

/-- Each of the three pieces is reported once, and none of them again. -/
theorem sampleMalformed_reported_once :
    reports
        ((decide {} "shop" sampleMalformedPod).run sampleCluster).events =
      [ { level := .info, message := "Skipping invalid resource attribute"
          fields := [("attribute", .text "")] },
        { level := .info, message := "Skipping invalid resource attribute"
          fields := [("attribute", .text "b==2")] },
        { level := .info, message := "Skipping invalid resource attribute"
          fields := [("attribute", .text "c")] } ] ∧
    ∃ patch result after,
      ((decide {} "shop" sampleMalformedPod).run sampleCluster).result =
        .ok (.patched patch) ∧
      patch.carriedOut? sampleMalformedDocument = some result ∧
      Pod.ofJson result = .ok after ∧
      reports ((decide {} "shop" after).run sampleCluster).events = [] := by
  obtain ⟨patch, patched⟩ :=
    (decide_ends {} sampleCluster "shop" sampleMalformedPod).patched_iff.2
      ⟨concerned_sampleMalformedPod, ⟨_, rfl⟩, _, rfl⟩
  have unsourced :
      ∀ container, sampleMalformedPod.firstContainer? = some container →
        ∀ entry ∈ container.variables,
          entry.name = Env.resourceAttributes → entry.valueFrom = none := by
    intro container first entry member _
    cases first
    rw [List.mem_singleton.1 member]
    rfl
  obtain ⟨container, first, reported, _, again⟩ :=
    malformed_reported_once patched unsourced fun found isFound => by
      have isSample : sampleNamespace = found := Except.ok.inj isFound
      subst isSample
      refine ⟨by rw [derive_sampleMalformedPod]; simp, fun key value => ?_⟩
      refine plain_of_get? ?_
      rw [derive_sampleMalformedPod]
      decide +kernel
  cases first
  obtain ⟨result, after, carriedOut, back, nothing⟩ :=
    again sampleMalformedDocument ordered_sampleMalformedDocument
      ofJson_sampleMalformedDocument
  refine ⟨?_, patch, result, after, patched, carriedOut, back, nothing {}⟩
  refine reported [['a', '=', '1'], [], ['b', '=', '=', '2'], ['c']] ?_
  have alone :
      ∀ other ∈ ([] : List EnvVar),
        other.name ≠ "OTEL_RESOURCE_ATTRIBUTES" := by
    simp
  exact
    ⟨[], _, [], "a=1,,b==2,c", ⟨rfl, alone, rfl⟩, rfl,
      Text.splitsInto_iff.2 (by decide +kernel)⟩

end PodTelemetry.Mutation

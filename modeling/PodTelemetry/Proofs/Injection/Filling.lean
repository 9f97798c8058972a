import PodTelemetry.Proofs.Attributes.Filling
import PodTelemetry.Proofs.Injection.Stability

/-!
# Injection into a pod that was filled in

A pod that was injected into gets a name and a node, and more attributes are
derived for it.  An injector leaves it as it is just as long as the container
declares every one of them.
-/

namespace PodTelemetry.Injection

open PodTelemetry.Attributes (Settled declares declaredPieces pair? piecesOf)
open PodTelemetry.Kubernetes

variable {context other : InjectionContext} {pod placed : Pod}
variable {container : Container} {env : List EnvVar}

/-! ## Declared attributes -/

/-- The first declaration in the variables has the attribute among its
pairs. -/
def Declared (key : String) (env : List EnvVar) : Prop :=
  ∃ value, (key, value) ∈ (declaredPieces env).filterMap pair?

theorem declared_iff
    {merged : Attributes} (settled : Settled merged)
    (isFirst : env.find? declares = some (declaration merged))
    {key : String} :
    Declared key env ↔ (merged.get? key).isSome := by
  have pieces := Attributes.declaredPieces_of_find? isFirst rfl
  unfold Declared
  rw [pieces, Attributes.filterMap_pair?_piecesOf_text settled,
    Option.isSome_iff_exists]
  exact
    exists_congr fun value => Entries.mem_iff_read merged.ascending

theorem Configured.settled_merged
    (settled : Settled context.attributes) {merged : Attributes}
    (sameMerged :
      Attributes.overlay context.attributes (piecesOf merged.text) =
        merged) :
    Settled merged := by
  rw [← sameMerged]
  exact
    Attributes.settled_overlay settled fun piece member =>
      Text.not_mem_of_mem_pieces member

/-- What is derived is declared once the exporter is configured. -/
theorem Configured.declared
    (configured : Configured context pod env)
    (settled : Settled context.attributes) {key : String}
    (derived : (context.attributes.get? key).isSome) :
    Declared key env := by
  obtain ⟨merged, isFirst, sameMerged, _⟩ := configured.complete
  rw [declared_iff (Configured.settled_merged settled sameMerged) isFirst,
    ← sameMerged]
  exact Attributes.isSome_get?_overlay derived _

/-! ## Another node and other metadata -/

/-- The pod on another node, with other metadata that name the service
alike. -/
structure Moved (pod placed : Pod) : Prop where
  app :
    placed.metadata.annotation? Annotation.app =
      pod.metadata.annotation? Annotation.app
  appName :
    placed.metadata.annotation? Annotation.appName =
      pod.metadata.annotation? Annotation.appName
  spec :
    ∃ nodeName,
      placed.spec = pod.spec.map fun spec => { spec with nodeName }

theorem Moved.firstContainer?_eq (isMoved : Moved pod placed) :
    placed.firstContainer? = pod.firstContainer? := by
  obtain ⟨nodeName, isSpec⟩ := isMoved.spec
  exact Pod.firstContainer?_of_spec isSpec

theorem Moved.sameService (isMoved : Moved pod placed) :
    SameService placed pod := by
  refine sameService_of_metadata isMoved.app isMoved.appName ?_
  rw [isMoved.firstContainer?_eq]

theorem Moved.withAgent_eq
    (isMoved : Moved pod placed) {image : String}
    (loaded : withAgent image env pod = pod) :
    withAgent image env placed = placed := by
  obtain ⟨nodeName, isSpec⟩ := isMoved.spec
  have sameSpec : (withAgent image env pod).spec = pod.spec := by
    rw [loaded]
  have both :
      (withAgent image env placed).spec =
        (withAgent image env pod).spec.map
          fun spec => { spec with nodeName } := by
    simp only [withAgent, Pod.updateFirstContainer, isSpec]
    cases pod.spec with
    | none =>
        rfl
    | some spec =>
        simp only [Option.map_some]
        cases containers : spec.containers <;>
          simp [containers, withAgentLoaded]
  rw [sameSpec, ← isSpec] at both
  calc
    withAgent image env placed =
        { placed with spec := (withAgent image env placed).spec } := rfl
    _ = placed := by rw [both]

/-! ## Stability there -/

/-- Every derived attribute was derived before or is declared by now. -/
def Covered
    (context other : InjectionContext) (env : List EnvVar) : Prop :=
  ∀ key, (other.attributes.get? key).isSome →
    (context.attributes.get? key).isSome ∨ Declared key env

theorem Configured.moved
    (configured : Configured context pod env)
    (settled : Settled context.attributes) (isMoved : Moved pod placed)
    (sameConfig : other.config = context.config)
    (covered : Covered context other env) :
    Configured other placed env := by
  obtain ⟨merged, isFirst, sameMerged, present⟩ := configured.complete
  have settledMerged := Configured.settled_merged settled sameMerged
  refine ⟨configured.plain, merged, isFirst, ?_, ?_⟩
  · refine Attributes.overlay_piecesOf_text settledMerged fun key derived => ?_
    rw [← declared_iff settledMerged isFirst]
    rcases covered key derived with before | isDeclared
    · exact configured.declared settled before
    · exact isDeclared
  · rw [sameConfig, isMoved.sameService merged]
    exact present

/-- Whichever injector finds its work, the exporter is configured. -/
theorem Stable.configured_of_any
    (settled : Settled context.attributes)
    (found : pod.firstContainer? = some container)
    {injector : Injector} (stable : Stable context injector pod) :
    container.env = some container.variables ∧
      Configured context pod container.variables := by
  cases injector with
  | config =>
      exact stable.configured settled found
  | java =>
      exact (stable.config_of_java settled found).configured settled found

/-- Where loading the Java agent changes nothing, it is loaded. -/
theorem Stable.java_loaded
    (settled : Settled context.attributes)
    (found : pod.firstContainer? = some container)
    (stable : Stable context .java pod) :
    javaVariables? container.variables = some container.variables ∧
      withAgent context.config.javaImage container.variables pod = pod := by
  obtain ⟨present, configured⟩ := stable.configured_of_any settled found
  obtain ⟨noFault, isFixed⟩ := stable
  obtain ⟨_, result, reached, isPod⟩ := injectJava_of_success found noFault
  rw [configured.configuredFor_eq] at reached isPod
  rw [withVariables_of_present found present, isFixed] at isPod
  have first :=
    firstContainer?_withAgent found context.config.javaImage result
  rw [← isPod, found] at first
  have isEnv : container.env = some result :=
    congrArg Container.env (Option.some.inj first)
  rw [← variables_of_env isEnv] at reached isPod
  exact ⟨reached, isPod.symm⟩

/-- An injector that finds its work finds it in the moved pod, too, provided
that there is nothing new to declare. -/
theorem Stable.moved
    (settled : Settled context.attributes)
    (found : pod.firstContainer? = some container)
    {injector : Injector} (stable : Stable context injector pod)
    (isMoved : Moved pod placed)
    (sameConfig : other.config = context.config)
    (covered : Covered context other container.variables) :
    Stable other injector placed := by
  have first := isMoved.firstContainer?_eq.trans found
  obtain ⟨present, configured⟩ := stable.configured_of_any settled found
  have stillConfigured :=
    configured.moved settled isMoved sameConfig covered
  cases injector with
  | config =>
      exact stable_config first present stillConfigured
  | java =>
      obtain ⟨reached, loaded⟩ := stable.java_loaded settled found
      rw [← sameConfig] at loaded
      exact
        stable_java first present stillConfigured reached
          (isMoved.withAgent_eq loaded)

/-! ## All injectors -/

/-- After a success every injector finds its work. -/
theorem stable_injectAll
    (settled : Settled context.attributes)
    (found : pod.firstContainer? = some container)
    {injectors : List Injector}
    (succeeded : (Injector.injectAll context pod injectors).fault = none) :
    ∀ injector ∈ injectors,
      Stable context injector
        (Injector.injectAll context pod injectors).pod := by
  induction injectors generalizing pod container with
  | nil =>
      nofun
  | cons first rest inductionHypothesis =>
      obtain ⟨next, isNext, _⟩ := (stepped_inject context found first).first
      have again := inject_inject settled found first
      rw [Injector.injectAll] at succeeded ⊢
      cases outcome : (first.inject context pod).fault with
      | some fault =>
          rw [outcome] at succeeded
          rw [outcome] at succeeded
          cases succeeded
      | none =>
          rw [outcome] at succeeded
          have stable : Stable context first (first.inject context pod).pod :=
            ⟨again.1.trans outcome, again.2⟩
          rw [List.forall_mem_cons]
          exact
            ⟨(injectAll_injectAll settled isNext rest).1 first stable,
              inductionHypothesis isNext succeeded⟩

theorem injectAll_of_stable
    {injectors : List Injector}
    (stable : ∀ injector ∈ injectors, Stable context injector pod) :
    (Injector.injectAll context pod injectors).fault = none ∧
      (Injector.injectAll context pod injectors).pod = pod := by
  induction injectors with
  | nil =>
      exact ⟨rfl, rfl⟩
  | cons first rest inductionHypothesis =>
      rw [List.forall_mem_cons] at stable
      rw [Injector.injectAll]
      simp only [stable.1.1, stable.1.2]
      exact inductionHypothesis stable.2

end PodTelemetry.Injection

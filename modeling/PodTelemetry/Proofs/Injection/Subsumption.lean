import PodTelemetry.Proofs.Injection.Filling

/-!
# Loading the Java agent includes configuring the exporter

The exporter's configuration before the Java agent, or after it, makes no
difference to the pod and to the fault, however often either is run.
-/

namespace PodTelemetry.Injection

open PodTelemetry.Attributes (Settled)
open PodTelemetry.Kubernetes

variable {context : InjectionContext} {pod : Pod} {container : Container}

/-- The same pod comes out, with the same fault or none. -/
structure SameOutcome (first second : Injected) : Prop where
  fault : first.fault = second.fault
  pod : first.pod = second.pod

theorem SameOutcome.refl (injected : Injected) :
    SameOutcome injected injected :=
  ⟨rfl, rfl⟩

theorem SameOutcome.trans
    {first second third : Injected}
    (before : SameOutcome first second) (after : SameOutcome second third) :
    SameOutcome first third :=
  ⟨before.fault.trans after.fault, before.pod.trans after.pod⟩

/-! ## Pods without containers -/

theorem injectAll_of_noContainers
    (missing : pod.firstContainer? = none)
    {injectors : List Injector} {injector : Injector}
    (member : injector ∈ injectors) :
    Injector.injectAll context pod injectors =
      { pod, fault := some .noContainers } := by
  obtain ⟨first, rest, rfl⟩ :=
    List.exists_cons_of_ne_nil (List.ne_nil_of_mem member)
  simp only [Injector.injectAll, inject_of_noContainers missing]

/-! ## One of the two before the other -/

/-- After the Java agent both injectors find their work. -/
theorem stable_of_injectJava
    (settled : Settled context.attributes)
    (succeeded : (Injector.java.inject context pod).fault = none)
    (injector : Injector) :
    Stable context injector (Injector.java.inject context pod).pod := by
  cases first : pod.firstContainer? with
  | none =>
      rw [inject_of_noContainers first] at succeeded
      cases succeeded
  | some container =>
      obtain ⟨next, isNext, _⟩ := (stepped_inject context first .java).first
      obtain ⟨sameFault, samePod⟩ := inject_inject settled first .java
      have stableJava :
          Stable context .java (Injector.java.inject context pod).pod :=
        ⟨sameFault.trans succeeded, samePod⟩
      cases injector with
      | config =>
          exact stableJava.config_of_java settled isNext
      | java =>
          exact stableJava

/-- Loading the agent only looks at what the exporter's configuration comes
to. -/
theorem injectJava_congr
    {other : Pod}
    (same :
      SameOutcome (injectConfig context pod) (injectConfig context other)) :
    SameOutcome (injectJava context pod) (injectJava context other) := by
  unfold injectJava
  generalize injectConfig context pod = first at same
  generalize injectConfig context other = second at same
  obtain ⟨configured, fault, skipped⟩ := first
  obtain ⟨_, _, _⟩ := second
  obtain ⟨rfl, rfl⟩ := same
  cases fault with
  | some fault =>
      exact ⟨rfl, rfl⟩
  | none =>
      dsimp only
      cases configured.firstContainer? with
      | none =>
          exact ⟨rfl, rfl⟩
      | some container =>
          dsimp only
          cases javaVariables? container.variables <;> exact ⟨rfl, rfl⟩

theorem injectJava_injectConfig
    (settled : Settled context.attributes)
    (found : pod.firstContainer? = some container) :
    SameOutcome
      (injectJava context (injectConfig context pod).pod)
      (injectJava context pod) := by
  obtain ⟨sameFault, samePod⟩ := inject_inject settled found .config
  exact injectJava_congr ⟨sameFault, samePod⟩

/-- Where the exporter cannot be configured, the agent is not loaded. -/
theorem injectJava_of_injectConfig
    {fault : InjectionFault}
    (failed : (injectConfig context pod).fault = some fault) :
    injectJava context pod = injectConfig context pod := by
  unfold injectJava
  simp only [failed]

/-! ## All injectors -/

/-- A run that includes the Java agent comes to what the agent alone comes
to. -/
theorem injectAll_of_java
    (settled : Settled context.attributes)
    (found : pod.firstContainer? = some container)
    {injectors : List Injector} (member : Injector.java ∈ injectors) :
    SameOutcome (Injector.injectAll context pod injectors)
      (Injector.java.inject context pod) := by
  -- Configurations before the agent change the pod, so the induction is over
  -- all pods; behind the agent there is nothing left to do.
  induction injectors generalizing pod container with
  | nil =>
      cases member
  | cons first rest inductionHypothesis =>
      rw [Injector.injectAll]
      cases outcome : (first.inject context pod).fault with
      | some fault =>
          cases first with
          | config =>
              have same : injectJava context pod = injectConfig context pod :=
                injectJava_of_injectConfig outcome
              change SameOutcome (injectConfig context pod)
                (injectJava context pod)
              rw [same]
              exact .refl _
          | java =>
              exact .refl _
      | none =>
          cases first with
          | config =>
              have later : Injector.java ∈ rest := by
                simpa using member
              obtain ⟨next, isNext, _⟩ :=
                (stepped_inject context found .config).first
              have alone := inductionHypothesis isNext later
              exact
                SameOutcome.trans ⟨alone.fault, alone.pod⟩
                  (injectJava_injectConfig settled found)
          | java =>
              have stable :
                  ∀ injector ∈ rest,
                    Stable context injector
                      (Injector.java.inject context pod).pod :=
                fun injector _ =>
                  stable_of_injectJava settled outcome injector
              obtain ⟨restFault, restPod⟩ := injectAll_of_stable stable
              exact ⟨restFault.trans outcome.symm, restPod⟩

/-! ## The Java agent and the exporter's configuration -/

/-- The pod with other annotations. -/
def withAnnotations
    (annotations : Option (Dictionary String)) (pod : Pod) : Pod :=
  { pod with metadata := { pod.metadata with annotations } }

/-- Apart from the trigger of the exporter's configuration, the annotations
say what those of the pod say. -/
def AsksAlike (annotations : Option (Dictionary String)) (pod : Pod) : Prop :=
  ∀ key, key ≠ Annotation.injectConfig →
    annotations.bind (·.get? key) = pod.metadata.annotation? key

theorem asksAlike_insert (text : String) :
    AsksAlike
      (some
        ((pod.metadata.annotations.getD .empty).insert
          Annotation.injectConfig text))
      pod := by
  intro key other
  rw [Option.bind_some, Dictionary.get?_insert, if_neg other]
  unfold ObjectMeta.annotation?
  cases pod.metadata.annotations with
  | none =>
      rfl
  | some annotations =>
      rfl

theorem injectAll_withAnnotations
    {annotations : Option (Dictionary String)}
    (alike : AsksAlike annotations pod)
    {injectors : List Injector} {injector : Injector}
    (member : injector ∈ injectors) :
    SameOutcome
      (Injector.injectAll context (withAnnotations annotations pod) injectors)
      { Injector.injectAll context pod injectors with
        pod :=
          { (Injector.injectAll context pod injectors).pod with
            metadata := (withAnnotations annotations pod).metadata } } := by
  cases first : pod.firstContainer? with
  | none =>
      have missing :
          (withAnnotations annotations pod).firstContainer? = none := first
      rw [injectAll_of_noContainers first member,
        injectAll_of_noContainers missing member]
      exact .refl _
  | some container =>
      let other := withAnnotations annotations pod
      have app :
          other.metadata.annotation? Annotation.app =
            pod.metadata.annotation? Annotation.app :=
        alike Annotation.app (by decide)
      have appName :
          other.metadata.annotation? Annotation.appName =
            pod.metadata.annotation? Annotation.appName :=
        alike Annotation.appName (by decide)
      have moved :
          Injector.injectAll context other injectors =
            { Injector.injectAll context pod injectors with
              pod :=
                { (Injector.injectAll context pod injectors).pod with
                  metadata := other.metadata } } :=
        injectAll_withMetadata context first app appName injectors
      rw [moved]
      exact .refl _

/-- For attributes that were derived in any cluster, without commas, equals
signs and blanks at the ends of their values: injectors that include the Java
agent come to the pod and the fault that the agent alone comes to, in any
order and number; once the agent is loaded every injector succeeds and leaves
the pod as it is.  So a pod that asks for the agent is injected into alike
whether it asks for the exporter's configuration or not. -/
theorem java_subsumes_config
    (config : InjectionConfig) (cluster : Cluster) (isIn : Namespace)
    (derivedFor pod : Pod)
    (clean :
      ∀ key value,
        ((Attributes.derive isIn derivedFor).run cluster).result.get? key =
            some value →
          Attributes.Plain value) :
    let context : InjectionContext :=
      { config
        attributes :=
          ((Attributes.derive isIn derivedFor).run cluster).result }
    let loaded := Injector.java.inject context pod
    (∀ injectors, Injector.java ∈ injectors →
      SameOutcome (Injector.injectAll context pod injectors) loaded) ∧
    (loaded.fault = none →
      ∀ injector : Injector,
        SameOutcome (injector.inject context loaded.pod) loaded) ∧
    (∀ annotations, AsksAlike annotations pod →
      Injector.java ∈ Injector.selected annotations →
      SameOutcome
        (Injector.injectAll context (withAnnotations annotations pod)
          (Injector.selected annotations))
        { loaded with
          pod :=
            { loaded.pod with
              metadata := (withAnnotations annotations pod).metadata } }) := by
  intro context loaded
  have settled : Settled context.attributes :=
    Attributes.settled_derive clean
  have subsumed :
      ∀ injectors, Injector.java ∈ injectors →
        SameOutcome (Injector.injectAll context pod injectors) loaded := by
    intro injectors member
    cases first : pod.firstContainer? with
    | none =>
        simp only [loaded, inject_of_noContainers first,
          injectAll_of_noContainers first member]
        exact .refl _
    | some container =>
        exact injectAll_of_java settled first member
  refine ⟨subsumed, fun succeeded injector => ?_, ?_⟩
  · obtain ⟨noFault, isFixed⟩ :=
      stable_of_injectJava settled succeeded injector
    exact ⟨noFault.trans succeeded.symm, isFixed⟩
  · intro annotations alike asked
    have alone := subsumed (Injector.selected annotations) asked
    refine (injectAll_withAnnotations alike asked).trans ⟨alone.fault, ?_⟩
    rw [alone.pod]

/-- The container declares an attribute and a piece that is none, and has
options for Java. -/
def sampleAsking : Pod where
  metadata :=
    { name := some "cart-0"
      annotations :=
        some (Dictionary.ofList [("otel.splunk.com/inject-java", "true")]) }
  spec :=
    some
      { containers :=
          [{ name := "app"
             env :=
              some
                [EnvVar.literal Env.resourceAttributes "team=a, oops",
                  EnvVar.literal Env.javaOptions "-Xmx512m"] }] }

/-- The annotations with the trigger of the exporter's configuration. -/
def sampleTriggers : Dictionary String :=
  (sampleAsking.metadata.annotations.getD .empty).insert
    Annotation.injectConfig "TRUE"

/-- The attributes that are derived for the pod where nothing is found. -/
def sampleDerived : Attributes :=
  ((Attributes.derive { metadata := { name := some "shop" } }
      sampleAsking).run fun _ => .error ⟨.kubernetes, "not found"⟩).result

def sampleContext : InjectionContext where
  config :=
    { exporter := .otlp, endpoint := "http://splunk:4317"
      javaImage := "agent:1" }
  attributes := sampleDerived

def sampleLoaded : Injected := Injector.java.inject sampleContext sampleAsking

/-- With both triggers the sample is injected into as with one, and then
there is nothing left to do. -/
theorem sampleAsking_subsumes_config :
    sampleLoaded.fault = none ∧
    (∀ injector : Injector,
      SameOutcome (injector.inject sampleContext sampleLoaded.pod)
        sampleLoaded) ∧
    SameOutcome
      (Injector.injectAll sampleContext
        (withAnnotations (some sampleTriggers) sampleAsking)
        [.config, .java])
      { sampleLoaded with
        pod :=
          { sampleLoaded.pod with
            metadata :=
              (withAnnotations (some sampleTriggers)
                sampleAsking).metadata } } := by
  have clean :
      ∀ key value,
        sampleDerived.get? key = some value → Attributes.Plain value :=
    fun key value => Attributes.plain_of_get? (by decide +kernel)
  have succeeded : sampleLoaded.fault = none := by
    decide +kernel
  have selected :
      Injector.selected (some sampleTriggers) = [.config, .java] := by
    decide +kernel
  obtain ⟨_, again, asked⟩ :=
    java_subsumes_config sampleContext.config
      (fun _ => .error ⟨.kubernetes, "not found"⟩)
      { metadata := { name := some "shop" } } sampleAsking sampleAsking clean
  refine ⟨succeeded, again succeeded, ?_⟩
  rw [← selected]
  refine asked (some sampleTriggers) (asksAlike_insert "TRUE") ?_
  rw [selected]
  decide

end PodTelemetry.Injection

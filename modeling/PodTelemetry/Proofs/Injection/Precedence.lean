import PodTelemetry.Proofs.Injection.Injectors

/-!
# Variables that refer to others

A reference to a variable is expanded only if the variable is declared before
it.  The exporter's address may refer to the node's, which is declared first
when both are appended.  What is in the list already is not moved, so that a
reference that stood there without a declaration before it goes on without
one.
-/

namespace PodTelemetry.Injection

open PodTelemetry.Attributes (declares)
open PodTelemetry.Kubernetes

variable {context : InjectionContext} {pod : Pod} {env : List EnvVar}

/-! ## Declarations and references -/

/-- The variable is the address of the node, taken from the pod's status. -/
def DeclaresHost (entry : EnvVar) : Prop :=
  entry.name = "SPLUNK_OTEL_AGENT" ∧
    ∃ source field,
      entry.valueFrom = some source ∧ source.fieldRef = some field ∧
      field.fieldPath = "status.hostIP"

/-- The variable sends telemetry to the node, by a reference to its
address. -/
def RefersToHost (entry : EnvVar) : Prop :=
  entry.name = "OTEL_EXPORTER_OTLP_ENDPOINT" ∧
    entry.value = some "http://$(SPLUNK_OTEL_AGENT):4317"

/-- The node's address is declared before the index. -/
def HostBefore (env : List EnvVar) (index : Nat) : Prop :=
  ∃ earlier host,
    earlier < index ∧ env[earlier]? = some host ∧ DeclaresHost host

theorem declaresHost_hostVariable : DeclaresHost hostVariable :=
  ⟨rfl, _, _, rfl, rfl, rfl⟩

theorem not_declares_of_declaresHost
    {entry : EnvVar} (host : DeclaresHost entry) : declares entry = false := by
  rw [declares, host.1]
  decide

theorem not_declares_of_refersToHost
    {entry : EnvVar} (refers : RefersToHost entry) :
    declares entry = false := by
  rw [declares, refers.1]
  decide

/-- The variable for the node is not a reference to it. -/
theorem not_refersToHost_hostVariable : ¬ RefersToHost hostVariable := by
  rintro ⟨named, _⟩
  revert named
  decide

/-! ## Additions -/

/-- Additions without the node's address leave out what comes first. -/
theorem hostVariable_first
    {added : List EnvVar} {service : String} {attributes : Attributes}
    (wanted :
      added.Sublist
        (exporterVariables context.config service ++ [declaration attributes]))
    (isAdded : hostVariable ∈ added) :
    added.head? = some hostVariable := by
  cases wanted with
  | cons _ others =>
      have distinct :
          ∀ name ∈
              [Env.serviceName, Env.endpoint, Env.tracesExporter,
                Env.resourceAttributes],
            Env.nodeAgent ≠ name := by
        decide
      have named :
          hostVariable.name ∈
            [Env.serviceName, Env.endpoint, Env.tracesExporter,
              Env.resourceAttributes] :=
        List.mem_map_of_mem (f := EnvVar.name) (others.subset isAdded)
      exact absurd rfl (distinct _ named)
  | cons_cons _ _ =>
      rfl

section Places

variable {olds kept added : List EnvVar}

/-- What is appended comes behind the node's address, whether that was there
or is appended, too. -/
theorem hostBefore_of_appended
    (present : hostVariable ∈ kept ++ added)
    (first : hostVariable ∈ added → added.head? = some hostVariable)
    {index : Nat} {entry : EnvVar} (behind : kept.length ≤ index)
    (isEntry : (kept ++ added)[index]? = some entry)
    (refers : RefersToHost entry) :
    HostBefore (kept ++ added) index := by
  rcases List.mem_append.1 present with isKept | isAdded
  · obtain ⟨place, isPlace⟩ := List.mem_iff_getElem?.1 isKept
    have inRange := (List.getElem?_eq_some_iff.1 isPlace).1
    refine ⟨place, hostVariable, by omega, ?_, declaresHost_hostVariable⟩
    rw [List.getElem?_append_left inRange]
    exact isPlace
  · have isHost : (kept ++ added)[kept.length]? = some hostVariable := by
      rw [List.getElem?_append_right (Nat.le_refl _), Nat.sub_self,
        ← List.head?_eq_getElem?]
      exact first isAdded
    have notHost : kept.length ≠ index := by
      intro same
      rw [← same, isHost] at isEntry
      rw [← Option.some.inj isEntry] at refers
      exact not_refersToHost_hostVariable refers
    exact
      ⟨kept.length, hostVariable, by omega, isHost,
        declaresHost_hostVariable⟩

/-- What was there has the node's address before it just if it had it. -/
theorem hostBefore_kept_iff
    (sameLength : kept.length = olds.length)
    (places :
      ∀ (index : Nat) (entry : EnvVar), declares entry = false →
        (kept[index]? = some entry ↔ olds[index]? = some entry))
    {index : Nat} (inRange : index < olds.length) :
    HostBefore (kept ++ added) index ↔ HostBefore olds index := by
  refine exists_congr fun earlier => exists_congr fun host => ?_
  refine and_congr_right fun before => and_congr_left fun isHost => ?_
  rw [List.getElem?_append_left (by omega)]
  exact places earlier host (not_declares_of_declaresHost isHost)

end Places

/-! ## After the exporter's configuration -/

/-- If telemetry is to go to the node, there is a reference to the node's
address after the exporter's configuration.  A reference that was appended has
the address declared before it.  One that was there stays where it is, and has
the address declared before it exactly if it had before. -/
theorem refersToHost_configured
    (succeeded : (Injector.config.inject context pod).fault = none) :
    ∃ first next,
      pod.firstContainer? = some first ∧
      (Injector.config.inject context pod).pod.firstContainer? = some next ∧
      (context.config.endpoint = "http://$(SPLUNK_OTEL_AGENT):4317" →
        ∃ entry ∈ next.variables, RefersToHost entry) ∧
      ∀ (index : Nat) (entry : EnvVar),
        next.variables[index]? = some entry → RefersToHost entry →
          (first.variables.length ≤ index →
            HostBefore next.variables index) ∧
          (index < first.variables.length →
            first.variables[index]? = some entry ∧
            (HostBefore next.variables index ↔
              HostBefore first.variables index)) := by
  cases found : pod.firstContainer? with
  | none =>
      rw [inject_of_noContainers found] at succeeded
      cases succeeded
  | some first =>
      obtain ⟨_, isPod⟩ := injectConfig_of_success found succeeded
      let olds := first.variables
      let merged := context.attributes.mergedWith olds
      let service := Attributes.serviceName merged.attributes pod
      have isNext :=
        firstContainer?_withVariables found (configuredFor context pod olds)
      rw [← isPod] at isNext
      have exporter_subset :
          exporterVariables context.config service ⊆
            configuredFor context pod olds :=
        fun _ member => mem_configuredVariables_of_exporter member
      have present : hostVariable ∈ configuredFor context pod olds :=
        exporter_subset List.mem_cons_self
      refine ⟨first, _, rfl, isNext, fun toNode => ?_, ?_⟩
      · let written := EnvVar.literal Env.endpoint context.config.endpoint
        have isWritten : written ∈ exporterVariables context.config service :=
          by simp [written, exporterVariables]
        exact
          ⟨written, exporter_subset isWritten, rfl, congrArg some toNode⟩
      intro index entry isEntry refers
      obtain ⟨kept, added, whole, sameLength, places, wanted⟩ :=
        configuredVariables_places context.config service context.attributes
          olds
      have isWhole : configuredFor context pod olds = kept ++ added := whole
      change (configuredFor context pod olds)[index]? = some entry at isEntry
      change
        (olds.length ≤ index →
          HostBefore (configuredFor context pod olds) index) ∧
        (index < olds.length →
          olds[index]? = some entry ∧
          (HostBefore (configuredFor context pod olds) index ↔
            HostBefore olds index))
      rw [isWhole] at isEntry present ⊢
      constructor
      · intro behind
        exact
          hostBefore_of_appended present (hostVariable_first wanted)
            (sameLength ▸ behind) isEntry refers
      · intro inRange
        refine ⟨?_, hostBefore_kept_iff sameLength places inRange⟩
        rw [List.getElem?_append_left (by omega)] at isEntry
        exact
          (places index entry (not_declares_of_refersToHost refers)).1 isEntry

/-- Telemetry goes to the collector on the node. -/
def sampleNodeContext : InjectionContext where
  config :=
    { exporter := .otlp, endpoint := nodeEndpoint, javaImage := "agent:1" }
  attributes := .empty

/-- A pod whose first container has these variables. -/
def samplePodWith (env : List EnvVar) : Pod where
  metadata := { name := some "cart-0" }
  spec := some { containers := [{ env := some env, name := "app" }] }

/-- Without a variable before, the reference comes third. -/
theorem samplePod_hostBefore :
    let injected :=
      Injector.config.inject sampleNodeContext (samplePodWith [])
    injected.fault = none ∧
    ∃ next entry,
      injected.pod.firstContainer? = some next ∧
      next.variables[2]? = some entry ∧ RefersToHost entry ∧
      HostBefore next.variables 2 := by
  intro injected
  have succeeded : injected.fault = none := by
    decide +kernel
  obtain ⟨first, next, isFirst, isNext, _, precedes⟩ :=
    refersToHost_configured succeeded
  cases isFirst
  let entry := EnvVar.literal Env.endpoint nodeEndpoint
  have isEntry : next.variables[2]? = some entry := by
    cases isNext
    decide +kernel
  have refers : RefersToHost entry := ⟨rfl, by decide +kernel⟩
  exact
    ⟨succeeded, next, entry, isNext, isEntry, refers,
      (precedes 2 entry isEntry refers).1 (Nat.zero_le _)⟩

/-- A reference that came first in the list has nothing declared before it
after a success. -/
theorem samplePod_not_hostBefore :
    let reference :=
      EnvVar.literal "OTEL_EXPORTER_OTLP_ENDPOINT"
        "http://$(SPLUNK_OTEL_AGENT):4317"
    let injected :=
      Injector.config.inject sampleNodeContext (samplePodWith [reference])
    sampleNodeContext.config.endpoint =
        "http://$(SPLUNK_OTEL_AGENT):4317" ∧
    injected.fault = none ∧
    ∃ next,
      injected.pod.firstContainer? = some next ∧
      next.variables[0]? = some reference ∧ RefersToHost reference ∧
      ¬ HostBefore next.variables 0 := by
  intro reference injected
  refine
    ⟨by decide +kernel, by decide +kernel, _, rfl, by decide +kernel,
      ⟨rfl, rfl⟩, ?_⟩
  rintro ⟨earlier, _, before, _⟩
  exact absurd before (Nat.not_lt_zero earlier)

end PodTelemetry.Injection

import PodTelemetry.Proofs.Kubernetes.Growth

/-!
# Changes of the first container

What becomes of a pod when its first container changes, and how it grows with
that container.
-/

namespace PodTelemetry.Kubernetes

variable {pod : Pod} {change : Container → Container}

theorem Pod.firstContainer?_eq_some_iff {container : Container} :
    pod.firstContainer? = some container ↔
      ∃ spec others,
        pod.spec = some spec ∧ spec.containers = container :: others := by
  unfold Pod.firstContainer?
  cases pod.spec with
  | none =>
      simp
  | some spec =>
      cases containers : spec.containers with
      | nil =>
          simp [containers]
      | cons first others =>
          simp [containers]

@[simp]
theorem Pod.firstContainer?_updateFirstContainer :
    (pod.updateFirstContainer change).firstContainer? =
      pod.firstContainer?.map change := by
  unfold Pod.updateFirstContainer Pod.firstContainer?
  cases pod.spec with
  | none =>
      rfl
  | some spec =>
      cases containers : spec.containers with
      | nil =>
          simp [containers]
      | cons first others =>
          simp [containers]

theorem Pod.updateFirstContainer_updateFirstContainer
    (pod : Pod) (change next : Container → Container) :
    (pod.updateFirstContainer change).updateFirstContainer next =
      pod.updateFirstContainer fun first => next (change first) := by
  unfold Pod.updateFirstContainer
  cases pod.spec with
  | none =>
      rfl
  | some spec =>
      cases containers : spec.containers <;> simp [containers]

/-- The node that a pod is given makes no difference to its containers. -/
theorem Pod.firstContainer?_of_spec
    {other : Pod} {nodeName : Option String}
    (isSpec :
      other.spec = pod.spec.map fun spec => { spec with nodeName }) :
    other.firstContainer? = pod.firstContainer? := by
  unfold Pod.firstContainer?
  rw [isSpec]
  cases pod.spec <;> rfl

theorem Pod.updateFirstContainer_of_fixed
    {container : Container} (found : pod.firstContainer? = some container)
    (fixed : change container = container) :
    pod.updateFirstContainer change = pod := by
  obtain ⟨spec, others, isSpec, containers⟩ :=
    Pod.firstContainer?_eq_some_iff.1 found
  unfold Pod.updateFirstContainer
  rw [isSpec, Option.map_some]
  simp only [containers, fixed]
  rw [← containers, ← isSpec]

/-! ## Growing specs -/

/-- Only the spec changes, and it grows. -/
def Pod.SpecGrown (old new : Pod) : Prop :=
  ∃ spec, Option.Rel PodSpec.Grown old.spec spec ∧ new = { old with spec }

theorem Pod.SpecGrown.refl (pod : Pod) : pod.SpecGrown pod := by
  refine ⟨pod.spec, ?_, rfl⟩
  cases pod.spec with
  | none =>
      exact .none
  | some spec =>
      exact .some (PodSpec.Grown.refl spec)

theorem Pod.SpecGrown.trans
    {first second third : Pod}
    (earlier : first.SpecGrown second) (later : second.SpecGrown third) :
    first.SpecGrown third := by
  obtain ⟨middleSpec, middleGrown, rfl⟩ := earlier
  obtain ⟨lastSpec, lastGrown, rfl⟩ := later
  refine ⟨lastSpec, ?_, rfl⟩
  revert middleGrown
  cases lastGrown with
  | none =>
      exact id
  | some after =>
      intro middleGrown
      generalize first.spec = firstSpec at middleGrown
      cases middleGrown with
      | some before =>
          exact .some (before.trans after)

theorem PodSpec.Grown.of_first
    {spec : PodSpec} {first changed : Container} {others : List Container}
    (containers : spec.containers = first :: others)
    (grown : first.Grown changed) :
    spec.Grown { spec with containers := changed :: others } := by
  refine ⟨?_, .refl _, .refl _, rfl⟩
  rw [containers]
  exact .changed grown (.refl .refl others)

theorem Pod.SpecGrown.of_firstContainer
    (grown :
      ∀ container, pod.firstContainer? = some container →
        container.Grown (change container)) :
    pod.SpecGrown (pod.updateFirstContainer change) := by
  refine ⟨_, ?_, rfl⟩
  cases isSpec : pod.spec with
  | none =>
      exact .none
  | some spec =>
      refine .some ?_
      cases containers : spec.containers with
      | nil =>
          simp only [containers]
          exact PodSpec.Grown.refl spec
      | cons first others =>
          have found : pod.firstContainer? = some first :=
            Pod.firstContainer?_eq_some_iff.2
              ⟨spec, others, isSpec, containers⟩
          simp only [containers]
          exact PodSpec.Grown.of_first containers (grown first found)

theorem Pod.SpecGrown.of_spec
    {changeSpec : PodSpec → PodSpec}
    (grown : ∀ spec : PodSpec, spec.Grown (changeSpec spec)) :
    pod.SpecGrown { pod with spec := pod.spec.map changeSpec } := by
  refine ⟨_, ?_, rfl⟩
  cases pod.spec with
  | none =>
      exact .none
  | some spec =>
      exact .some (grown spec)

end PodTelemetry.Kubernetes

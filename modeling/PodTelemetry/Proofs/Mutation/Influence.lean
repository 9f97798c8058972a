import PodTelemetry.Proofs.Injection.Influence
import PodTelemetry.Proofs.Mutation.Discipline
import PodTelemetry.Proofs.Mutation.Patching

/-!
# What the owners of a pod have no influence on

Replica sets are looked up for the attributes of a pod only.  So two clusters
that differ in them decide alike, and the pods that their patches lead to
differ in the variables at most that attributes show in.
-/

namespace PodTelemetry.Mutation

open PodTelemetry.Injection
open PodTelemetry.Kubernetes

variable {operator : OperatorConfig} {first second : Cluster}
variable {inNamespace : String} {pod : Pod}

/-- Clusters that tell the same of namespaces and agents, and of replica sets
whatever they like. -/
structure SameButReplicaSets (first second : Cluster) : Prop where
  namespaces :
    ∀ name, first (.findNamespace name) = second (.findNamespace name)
  agents : first .listAgents = second .listAgents

/-! ## Decisions without a patch -/

theorem Ends.prerequisite_of_mem
    {result : Except Error Mutation} {lookups : List Lookup}
    (ends : Ends operator first inNamespace pod result lookups)
    (notPatched : ¬ ∃ patch, result = .ok (.patched patch)) :
    ∀ lookup ∈ lookups,
      lookup = .findNamespace inNamespace ∨ lookup = .listAgents := by
  cases ends with
  | unconcerned | unread | unlisted | unclear =>
      simp
  | patched =>
      exact absurd ⟨_, rfl⟩ notPatched

/-- Unless there is a patch, no replica set was looked up. -/
theorem run_decide_of_not_patched
    (same : SameButReplicaSets first second)
    (notPatched :
      ¬ ∃ patch,
        ((decide operator inNamespace pod).run first).result =
          .ok (.patched patch)) :
    (decide operator inNamespace pod).run second =
      (decide operator inNamespace pod).run first := by
  have ends := decide_ends operator first inNamespace pod
  apply Procedure.run_eq_of_agree
  intro lookup member
  rcases ends.prerequisite_of_mem notPatched lookup member with rfl | rfl
  · exact same.namespaces inNamespace
  · exact same.agents

/-! ## Working copies -/

theorem withoutAttributes_recordOutcome
    (fault : Option InjectionFault) (pod : Pod) :
    withoutAttributes (recordOutcome fault pod) =
      recordOutcome fault (withoutAttributes pod) := by
  cases fault <;> rfl

theorem withoutAttributes_workingCopy
    {one other : InjectionContext} (sameConfig : one.config = other.config)
    {container : Container}
    (found : pod.firstContainer? = some container)
    (injectors : List Injector) :
    withoutAttributes (workingCopy one injectors pod) =
      withoutAttributes (workingCopy other injectors pod) := by
  obtain ⟨sameFault, alike⟩ :=
    (Alike.refl pod).injectAll sameConfig found injectors
  unfold workingCopy
  rw [withoutAttributes_recordOutcome, withoutAttributes_recordOutcome,
    sameFault, alike.rest]

/-- Whatever is known of replica sets, the decision is the same error, or to
leave the pod, or to patch it; and the pods that the patches lead to are the
same but for two variables of the first container. -/
theorem replicaSets_confined
    (same : SameButReplicaSets first second) (operator : OperatorConfig)
    (inNamespace : String) (pod : Pod) :
    let one := ((decide operator inNamespace pod).run first).result
    let other := ((decide operator inNamespace pod).run second).result
    (∃ error, one = .error error ∧ other = .error error) ∨
    (one = .ok .unchanged ∧ other = .ok .unchanged) ∨
    ∃ onePatch otherPatch,
      one = .ok (.patched onePatch) ∧
      other = .ok (.patched otherPatch) ∧
      ∀ document : Json,
        document.Ordered → Pod.ofJson document = .ok pod →
        ∃ oneResult otherResult oneAfter otherAfter,
          onePatch.carriedOut? document = some oneResult ∧
          otherPatch.carriedOut? document = some otherResult ∧
          Pod.ofJson oneResult = .ok oneAfter ∧
          Pod.ofJson otherResult = .ok otherAfter ∧
          withoutAttributes oneAfter = withoutAttributes otherAfter := by
  intro one other
  by_cases patched : ∃ patch, one = .ok (.patched patch)
  · obtain ⟨onePatch, isOne⟩ := patched
    have ends := decide_ends operator first inNamespace pod
    have otherEnds := decide_ends operator second inNamespace pod
    obtain ⟨concerned, found, agent, isFound, isListed, onePatchEq⟩ :=
      ends.patched_eq isOne
    rw [same.namespaces] at isFound
    rw [same.agents] at isListed
    obtain ⟨otherPatch, isOther⟩ :=
      otherEnds.patched_iff.2 ⟨concerned, ⟨found, isFound⟩, agent, isListed⟩
    obtain ⟨_, otherFound, otherAgent, isOtherFound, isOtherListed,
      otherPatchEq⟩ := otherEnds.patched_eq isOther
    rw [isFound] at isOtherFound
    cases isOtherFound
    rw [isListed] at isOtherListed
    cases isOtherListed
    refine
      Or.inr
        (Or.inr
          ⟨onePatch, otherPatch, isOne, isOther,
            fun document ordered decoded => ?_⟩)
    obtain ⟨_, container, isFirst⟩ := concerned_iff.1 concerned
    let injectors := Injector.selected pod.metadata.annotations
    obtain ⟨oneResult, oneTransfers, oneBack⟩ :=
      transfers_patched ordered decoded concerned
        (contextOf operator first found agent pod) injectors
    obtain ⟨otherResult, otherTransfers, otherBack⟩ :=
      transfers_patched ordered decoded concerned
        (contextOf operator second found agent pod) injectors
    refine
      ⟨oneResult, otherResult, _, _, ?_, ?_, oneBack, otherBack, ?_⟩
    · rw [onePatchEq]
      exact oneTransfers.carriedOut
    · rw [otherPatchEq]
      exact otherTransfers.carriedOut
    · have sameConfig :
          (contextOf operator first found agent pod).config =
            (contextOf operator second found agent pod).config := rfl
      exact withoutAttributes_workingCopy sameConfig isFirst injectors
  · have sameRun := run_decide_of_not_patched same patched
    have sameResult : other = one := congrArg Procedure.Run.result sameRun
    rw [sameResult]
    cases outcome : one with
    | error error =>
        exact Or.inl ⟨error, rfl, rfl⟩
    | ok mutation =>
        cases mutation with
        | unchanged =>
            exact Or.inr (Or.inl ⟨rfl, rfl⟩)
        | patched patch =>
            exact absurd ⟨patch, outcome⟩ patched

/-! ## An owner that owns itself -/

/-- The container sets an exporter and options for Java of its own. -/
def sampleOwnedDocument : Json :=
  .object
    [("metadata", .object
        [("annotations", .object
            [("otel.splunk.com/inject-java", .string "true")]),
          ("ownerReferences", .array
            [.object
              [("kind", .string "ReplicaSet"),
                ("name", .string "cart-7d9f")]])]),
      ("spec", .object
        [("containers", .array
            [.object
              [("env", .array
                  [.object
                    [("name", .string "OTEL_TRACES_EXPORTER"),
                      ("value", .string "zipkin")],
                  .object
                    [("name", .string "JAVA_TOOL_OPTIONS"),
                      ("value", .string "-Xmx512m")]]),
                ("name", .string "web")]])])]

def sampleOwner : OwnerReference where
  kind := "ReplicaSet"
  name := "cart-7d9f"

def sampleOwnedPod : Pod where
  metadata :=
    { annotations :=
        some (Dictionary.ofList [("otel.splunk.com/inject-java", "true")])
      ownerReferences := some [sampleOwner] }
  spec :=
    some
      { containers :=
          [{ env :=
              some
                [EnvVar.literal "OTEL_TRACES_EXPORTER" "zipkin",
                  EnvVar.literal "JAVA_TOOL_OPTIONS" "-Xmx512m"]
             name := "web" }] }

/-- A replica set that belongs to a deployment, and to itself. -/
def sampleCycle : Cluster
  | .findReplicaSet _ _ =>
      .ok
        { metadata :=
            { ownerReferences :=
                some
                  [{ kind := "Deployment", name := "cart" }, sampleOwner] } }
  | lookup => sampleCluster lookup

theorem sampleCycle_same : SameButReplicaSets sampleCluster sampleCycle :=
  ⟨fun _ => rfl, rfl⟩

theorem ordered_sampleOwnedDocument : sampleOwnedDocument.Ordered := by
  simp only [sampleOwnedDocument, Json.Ordered, Json.OrderedMembers,
    Json.OrderedItems, Entries.Ascending]
  decide +kernel

theorem ofJson_sampleOwnedDocument :
    Pod.ofJson sampleOwnedDocument = .ok sampleOwnedPod := by
  decide +kernel

/-- The patch of the owned pod in a cluster. -/
def sampleOwnedPatch (cluster : Cluster) : Json.Patch :=
  patchFor sampleOwnedPod
    (workingCopy (contextOf {} cluster sampleNamespace default sampleOwnedPod)
      [.java] sampleOwnedPod)

theorem decide_sampleOwnedPod :
    ((decide {} "shop" sampleOwnedPod).run sampleCluster).result =
        .ok (.patched (sampleOwnedPatch sampleCluster)) ∧
      ((decide {} "shop" sampleOwnedPod).run sampleCycle).result =
        .ok (.patched (sampleOwnedPatch sampleCycle)) := by
  constructor <;> decide +kernel

/-- The two patches differ, and yet make the same pod but for two variables. -/
theorem sampleOwned_confined :
    sampleOwnedPatch sampleCluster ≠ sampleOwnedPatch sampleCycle ∧
    ∃ oneResult otherResult oneAfter otherAfter,
      (sampleOwnedPatch sampleCluster).carriedOut? sampleOwnedDocument =
        some oneResult ∧
      (sampleOwnedPatch sampleCycle).carriedOut? sampleOwnedDocument =
        some otherResult ∧
      Pod.ofJson oneResult = .ok oneAfter ∧
      Pod.ofJson otherResult = .ok otherAfter ∧
      withoutAttributes oneAfter = withoutAttributes otherAfter := by
  refine ⟨by decide +kernel, ?_⟩
  obtain ⟨isOne, isOther⟩ := decide_sampleOwnedPod
  rcases replicaSets_confined sampleCycle_same {} "shop" sampleOwnedPod with
    ⟨error, failed, _⟩ | ⟨unchanged, _⟩ |
      ⟨onePatch, otherPatch, onePatched, otherPatched, carriedOut⟩
  · rw [isOne] at failed
    cases failed
  · rw [isOne] at unchanged
    cases unchanged
  · rw [isOne] at onePatched
    rw [isOther] at otherPatched
    cases onePatched
    cases otherPatched
    exact
      carriedOut sampleOwnedDocument ordered_sampleOwnedDocument
        ofJson_sampleOwnedDocument

end PodTelemetry.Mutation

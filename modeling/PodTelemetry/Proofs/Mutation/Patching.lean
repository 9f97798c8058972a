import PodTelemetry.Proofs.Injection.Injectors
import PodTelemetry.Proofs.Mutation.Decision

/-!
# Patches carried out on the document of a pod

The patch of a pod is made from what is written of the pod, but is carried out
on the document that the pod was read from.  It leads there, too, and to a
document that the pod after injection is read from.
-/

namespace PodTelemetry.Mutation

open PodTelemetry.Injection
open PodTelemetry.Kubernetes

variable {operator : OperatorConfig} {cluster : Cluster}
variable {inNamespace : String} {pod : Pod} {patch : Json.Patch}

/-! ## The pod after injection -/

theorem grown_recordOutcome
    {injected : Pod} (grown : pod.SpecGrown injected)
    (fault : Option InjectionFault) :
    pod.Grown (recordOutcome fault injected) := by
  obtain ⟨spec, specGrown, rfl⟩ := grown
  exact ⟨Or.inr ⟨_, rfl⟩, specGrown, rfl⟩

/-- The pod after injection is the one before, grown. -/
theorem grown_workingCopy
    (context : InjectionContext) (injectors : List Injector)
    {container : Container}
    (found : pod.firstContainer? = some container) :
    pod.Grown (workingCopy context injectors pod) :=
  grown_recordOutcome (stepped_injectAll context found injectors).grown _

theorem metadata_ne_default
    (asked : Injector.selected pod.metadata.annotations ≠ []) :
    pod.metadata ≠ default := by
  intro plain
  apply asked
  rw [plain]
  rfl

theorem follows_workingCopy
    (concerned : Concerned pod)
    (context : InjectionContext) (injectors : List Injector) :
    Json.Decoder.Follows Pod.ofJson Pod.toJson pod
      (workingCopy context injectors pod) := by
  obtain ⟨asked, container, found⟩ := concerned_iff.1 concerned
  refine
    (grown_workingCopy context injectors found).follows ?_
      (metadata_ne_default asked)
  intro spec isSpec
  obtain ⟨other, others, isOther, containers⟩ :=
    Pod.firstContainer?_eq_some_iff.1 found
  rw [isSpec] at isOther
  cases isOther
  rw [containers]
  exact List.cons_ne_nil container others

/-! ## The patched document -/

theorem Ends.patched_eq
    {result : Except Error Mutation} {lookups : List Lookup}
    (ends : Ends operator cluster inNamespace pod result lookups)
    (patched : result = .ok (.patched patch)) :
    Concerned pod ∧
      ∃ found agent,
        cluster (.findNamespace inNamespace) = .ok found ∧
        cluster .listAgents = .ok [agent] ∧
        patch =
          patchFor pod
            (workingCopy (contextOf operator cluster found agent pod)
              (Injector.selected pod.metadata.annotations) pod) := by
  cases ends with
  | unconcerned | unread | unlisted | unclear =>
      cases patched
  | @patched found agent concerned isFound isListed =>
      have isPatch := Mutation.patched.inj (Except.ok.inj patched)
      exact ⟨concerned, found, agent, isFound, isListed, isPatch.symm⟩

/-- The patch leads from the document to one that the working copy is read
from. -/
theorem transfers_patched
    {document : Json} (ordered : document.Ordered)
    (decoded : Pod.ofJson document = .ok pod)
    (concerned : Concerned pod)
    (context : InjectionContext) (injectors : List Injector) :
    ∃ result,
      Json.Transfers pod.toJson
        (workingCopy context injectors pod).toJson document result ∧
      Pod.ofJson result = .ok (workingCopy context injectors pod) :=
  follows_workingCopy concerned context injectors document ordered decoded

/-- The patch is empty for a pod that is its own working copy, and for no
other. -/
theorem patchFor_workingCopy_eq_nil_iff
    {document : Json} (ordered : document.Ordered)
    (decoded : Pod.ofJson document = .ok pod)
    (concerned : Concerned pod)
    (context : InjectionContext) (injectors : List Injector) :
    patchFor pod (workingCopy context injectors pod) = [] ↔
      workingCopy context injectors pod = pod := by
  constructor
  · intro empty
    obtain ⟨result, transfers, back⟩ :=
      transfers_patched ordered decoded concerned context injectors
    have carriedOut := transfers.carriedOut
    unfold patchFor at empty
    rw [empty] at carriedOut
    have same : document = result := Option.some.inj carriedOut
    rw [← same, decoded] at back
    exact (Except.ok.inj back).symm
  · intro same
    rw [same]
    exact Json.differences_self (Pod.orderly document pod ordered decoded)

/-- A patch is carried out on the very document that the pod was read from,
with whatever else it holds: every operation finds its place, the working copy
is read from the result, and locations that the patch does not name keep their
values.  What goes over the wire does the same. -/
theorem patch_carriedOut
    {document : Json} (ordered : document.Ordered)
    (decoded : Pod.ofJson document = .ok pod)
    (patched :
      ((decide operator inNamespace pod).run cluster).result =
        .ok (.patched patch)) :
    ∃ found agent result,
      cluster (.findNamespace inNamespace) = .ok found ∧
      cluster .listAgents = .ok [agent] ∧
      patch.carriedOut? document = some result ∧
      (Json.Patch.ofJson? patch.toJson).bind (·.carriedOut? document) =
        some result ∧
      Pod.ofJson result =
        .ok
          (workingCopy
            { config := InjectionConfig.ofSpec agent.spec operator
              attributes :=
                ((Attributes.derive found pod).run cluster).result }
            (Injector.selected pod.metadata.annotations) pod) ∧
      ∀ location, patch.Spares location →
        result.find? location = document.find? location := by
  obtain ⟨concerned, found, agent, isFound, isListed, isPatch⟩ :=
    (decide_ends operator cluster inNamespace pod).patched_eq patched
  obtain ⟨result, transfers, back⟩ :=
    transfers_patched ordered decoded concerned
      (contextOf operator cluster found agent pod)
      (Injector.selected pod.metadata.annotations)
  have carriedOut : patch.carriedOut? document = some result := by
    rw [isPatch]
    exact transfers.carriedOut
  refine
    ⟨found, agent, result, isFound, isListed, carriedOut, ?_, back, ?_⟩
  · rw [Json.Patch.ofJson?_toJson]
    exact carriedOut
  · rw [isPatch]
    exact transfers.untouched

/-! ## A pod in a document that holds more -/

/-- Unknown members, nulls and an empty list stand next to what a pod is read
from, and a reason from an earlier failure is left. -/
def sampleDocument : Json :=
  .object
    [("metadata", .object
        [("annotations", .object
            [("otel.splunk.com/inject-java", .string "True"),
              ("otel.splunk.com/injection-reason", .string "stale")]),
          ("name", .null)]),
      ("spec", .object
        [("containers", .array
            [.object
              [("env", .array []), ("name", .string "web"),
                ("unknown", .array [.null])]]),
          ("volumes", .null)]),
      ("unknown", .object [])]

def samplePod : Pod where
  metadata :=
    { annotations :=
        some
          (Dictionary.ofList
            [("otel.splunk.com/inject-java", "True"),
              ("otel.splunk.com/injection-reason", "stale")]) }
  spec := some { containers := [{ env := some [], name := "web" }] }

def sampleNamespace : Namespace where
  metadata := { name := some "shop" }

def sampleCluster : Cluster
  | .findNamespace _ => .ok sampleNamespace
  | .listAgents => .ok [default]
  | .findReplicaSet _ _ => .error ⟨.kubernetes, "not found"⟩

def samplePatch : Json.Patch :=
  patchFor samplePod
    (workingCopy
      (contextOf {} sampleCluster sampleNamespace default samplePod) [.java]
      samplePod)

theorem ordered_sampleDocument : sampleDocument.Ordered := by
  simp only [sampleDocument, Json.Ordered, Json.OrderedMembers,
    Json.OrderedItems, Entries.Ascending]
  decide +kernel

theorem ofJson_sampleDocument :
    Pod.ofJson sampleDocument = .ok samplePod := by
  decide +kernel

theorem decide_samplePod :
    ((decide {} "shop" samplePod).run sampleCluster).result =
      .ok (.patched samplePatch) := by
  decide +kernel

theorem samplePatch_carriedOut :
    ∃ result,
      samplePatch.carriedOut? sampleDocument = some result ∧
      result.find? ["spec", "containers", "0", "unknown"] =
        some (.array [.null]) := by
  have spares :
      samplePatch.Spares ["spec", "containers", "0", "unknown"] := by
    unfold Json.Patch.Spares
    decide +kernel
  obtain ⟨_, _, result, _, _, carriedOut, _, _, kept⟩ :=
    patch_carriedOut ordered_sampleDocument ofJson_sampleDocument
      decide_samplePod
  refine ⟨result, carriedOut, ?_⟩
  rw [kept _ spares]
  decide +kernel

end PodTelemetry.Mutation

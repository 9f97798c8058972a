import PodTelemetry.Attributes.ServiceName
import PodTelemetry.Proofs.Attributes.RoundTrip
import PodTelemetry.Proofs.Procedure

/-!
# The derivation of attributes in every cluster

Deriving attributes looks up nothing but replica sets, reports nothing worse
than a warning, and sets keys of its own only.
-/

namespace PodTelemetry.Attributes

open PodTelemetry.Kubernetes (Namespace OwnerReference Pod)

/-- Every key can stand in a pair. -/
def PlainKeys (attributes : Attributes) : Prop :=
  ∀ key value, attributes.get? key = some value → Plain key

/-- The keys that derivation sets. -/
def derivedKeys : List String :=
  [namespaceNameKey, podNameKey, podUidKey, nodeNameKey, containerNameKey] ++
    OwnerKind.all.map OwnerKind.nameKey ++ OwnerKind.all.map OwnerKind.uidKey

theorem plain_of_mem_derivedKeys
    {key : String} (member : key ∈ derivedKeys) : Plain key := by
  have keys : ∀ key ∈ derivedKeys, Plain key := by
    decide +kernel
  exact keys key member

theorem PlainKeys.put
    {attributes : Attributes} (plain : PlainKeys attributes)
    {key : String} (derived : key ∈ derivedKeys) (value : String) :
    PlainKeys (attributes.put key value) := by
  unfold Attributes.put
  by_cases empty : value = ""
  · rw [if_pos empty]
    exact plain
  · rw [if_neg empty]
    intro other given found
    rw [Dictionary.get?_insert] at found
    by_cases same : other = key
    · rw [same]
      exact plain_of_mem_derivedKeys derived
    · rw [if_neg same] at found
      exact plain other given found

theorem PlainKeys.putOwner
    {attributes : Attributes} (plain : PlainKeys attributes)
    (kind : OwnerKind) (owner : OwnerReference) :
    PlainKeys (putOwner attributes kind owner) := by
  have keys : kind.nameKey ∈ derivedKeys ∧ kind.uidKey ∈ derivedKeys := by
    cases kind <;> decide +kernel
  exact (plain.put keys.1 owner.name).put keys.2 owner.uid

theorem keys_fieldsOf
    {inNamespace : String} {pod : Pod} {field : String × String}
    (member : field ∈ fieldsOf inNamespace pod) :
    field.1 ∈ derivedKeys := by
  have known :
      field.1 ∈
        [namespaceNameKey, podNameKey, podUidKey, nodeNameKey,
          containerNameKey] := by
    unfold fieldsOf at member
    cases isSpec : pod.spec with
    | none =>
        simp only [isSpec, List.append_nil] at member
        simp only [List.mem_cons, List.not_mem_nil, or_false] at member
        rcases member with rfl | rfl | rfl <;> simp
    | some spec =>
        simp only [isSpec] at member
        cases first : spec.containers.head? with
        | none =>
            simp only [first, List.cons_append, List.nil_append,
              List.mem_cons, List.not_mem_nil, or_false] at member
            rcases member with rfl | rfl | rfl | rfl <;> simp
        | some container =>
            simp only [first, List.cons_append, List.nil_append,
              List.mem_cons, List.not_mem_nil, or_false] at member
            rcases member with rfl | rfl | rfl | rfl | rfl <;> simp
  unfold derivedKeys
  rw [List.append_assoc]
  exact List.mem_append_left _ known

theorem plainKeys_ofPod (inNamespace : String) (pod : Pod) :
    PlainKeys (ofPod inNamespace pod) := by
  have step :
      ∀ fields : List (String × String),
        (∀ field ∈ fields, field.1 ∈ derivedKeys) →
        ∀ attributes, PlainKeys attributes →
          PlainKeys
            (fields.foldl
              (fun done field => Attributes.put done field.1 field.2)
              attributes) := by
    intro fields
    induction fields with
    | nil =>
        intro _ attributes plain
        exact plain
    | cons field rest inductionHypothesis =>
        intro derived attributes plain
        rw [List.forall_mem_cons] at derived
        exact
          inductionHypothesis derived.2 _ (plain.put derived.1 field.2)
  refine
    step (fieldsOf inNamespace pod) (fun _ => keys_fieldsOf)
      Dictionary.empty ?_
  intro key value found
  cases found

/-! ## Hops along the owners -/

/-- What is asked for while attributes are derived. -/
def AsksReplicaSet (inNamespace : String) (lookup : Lookup) : Prop :=
  ∃ name, lookup = .findReplicaSet inNamespace name

theorem keeps_hop
    (inNamespace : String) {attributes : Attributes}
    (plain : PlainKeys attributes) (above owners : List OwnerReference) :
    (hop inNamespace attributes above owners).Keeps
      (AsksReplicaSet inNamespace) Event.NoError fun reached =>
        PlainKeys reached.1 := by
  induction owners generalizing attributes above with
  | nil =>
      exact plain
  | cons owner rest inductionHypothesis =>
      rw [hop]
      cases known : OwnerKind.ofText? owner.kind with
      | none =>
          exact ⟨nofun, inductionHypothesis plain above⟩
      | some kind =>
          have recorded := plain.putOwner kind owner
          cases kind with
          | replicaSet =>
              refine ⟨⟨owner.name, rfl⟩, fun answer => ?_⟩
              cases answer with
              | ok replicaSet =>
                  exact inductionHypothesis recorded _
              | error error =>
                  exact ⟨nofun, inductionHypothesis recorded above⟩
          | deployment | statefulSet | daemonSet | job | cronJob =>
              exact inductionHypothesis recorded above

theorem keeps_followOwners
    (inNamespace : String) (hops : Nat) {attributes : Attributes}
    (plain : PlainKeys attributes) (owners : List OwnerReference) :
    (followOwners inNamespace hops attributes owners).Keeps
      (AsksReplicaSet inNamespace) Event.NoError PlainKeys := by
  induction hops generalizing attributes owners with
  | zero =>
      cases owners with
      | nil =>
          exact plain
      | cons owner others =>
          exact ⟨nofun, plain⟩
  | succ hops inductionHypothesis =>
      cases owners with
      | nil =>
          exact plain
      | cons owner others =>
          rw [followOwners]
          exact
            (keeps_hop inNamespace plain [] (owner :: others)).bind
              fun reached reachedPlain =>
                inductionHypothesis reachedPlain reached.2

/-- Whatever the cluster holds, derivation only asks for replica sets of the
namespace, and its keys can stand in pairs. -/
theorem keeps_derive (inNamespace : Namespace) (pod : Pod) :
    (derive inNamespace pod).Keeps
      (AsksReplicaSet (inNamespace.metadata.name.getD "")) Event.NoError
      PlainKeys :=
  keeps_followOwners _ ownerDepth (plainKeys_ofPod _ pod) pod.metadata.owners

end PodTelemetry.Attributes

import PodTelemetry.Proofs.Attributes.Owners
import PodTelemetry.Proofs.Attributes.RoundTrip
import PodTelemetry.Proofs.Kubernetes.FirstContainer

/-!
# Fields that are filled in later

Name, uid and node of a pod may not be known yet when attributes are derived
for the first time.  Once they are, they show in the attributes, and nothing
else changes there.
-/

namespace PodTelemetry.Attributes

open PodTelemetry.Kubernetes (Container Namespace OwnerReference Pod)

variable {cluster : Cluster} {inNamespace : String} {pod : Pod}
variable {container : Container}

/-! ## What the owners add -/

/-- The owners add the same pairs to whatever there is. -/
theorem result_followOwners
    (cluster : Cluster) (inNamespace : String) (hops : Nat)
    (owners : List OwnerReference) :
    ∃ recorded, ∀ attributes,
      ((followOwners inNamespace hops attributes owners).run
          cluster).result =
        putAll attributes recorded := by
  let within := ownersWithin cluster inNamespace owners hops
  refine ⟨within.flatMap pairsOf, fun attributes => ?_⟩
  rw [run_followOwners]

/-- Attributes are settled when the values that are derived are plain. -/
theorem settled_derive
    {isIn : Namespace}
    (clean :
      ∀ key value,
        ((derive isIn pod).run cluster).result.get? key = some value →
          Plain value) :
    Settled ((derive isIn pod).run cluster).result :=
  fun key value derived =>
    ⟨((keeps_derive isIn pod).run cluster).1 key value derived,
      clean key value derived⟩

/-! ## Fields that become known -/

/-- What is not known of a pod before it is created and given a node. -/
inductive LateField
  | name
  | uid
  | node
  deriving DecidableEq

namespace LateField

def key : LateField → String
  | .name => podNameKey
  | .uid => podUidKey
  | .node => nodeNameKey

/-- The value of the field, empty while it is not known. -/
def valueIn (pod : Pod) : LateField → String
  | .name => pod.metadata.name.getD ""
  | .uid => pod.metadata.uid.getD ""
  | .node => (pod.spec.bind (·.nodeName)).getD ""

end LateField

theorem fieldsOf_eq
    (found : pod.firstContainer? = some container) (inNamespace : String) :
    fieldsOf inNamespace pod =
      [(namespaceNameKey, inNamespace),
        (LateField.name.key, LateField.name.valueIn pod),
        (LateField.uid.key, LateField.uid.valueIn pod),
        (LateField.node.key, LateField.node.valueIn pod),
        (containerNameKey, container.name)] := by
  obtain ⟨spec, others, isSpec, containers⟩ :=
    Pod.firstContainer?_eq_some_iff.1 found
  simp [fieldsOf, isSpec, containers, LateField.key, LateField.valueIn]

theorem mem_fieldsOf_iff
    (found : pod.firstContainer? = some container)
    {inNamespace key value : String} :
    (key, value) ∈ fieldsOf inNamespace pod ↔
      (key = namespaceNameKey ∧ value = inNamespace) ∨
      (key = containerNameKey ∧ value = container.name) ∨
      ∃ field : LateField, key = field.key ∧ value = field.valueIn pod := by
  rw [fieldsOf_eq found]
  simp only [List.mem_cons, Prod.mk.injEq, List.not_mem_nil, or_false]
  constructor
  · rintro (isNamespace | isName | isUid | isNode | isContainer)
    · exact Or.inl isNamespace
    · exact Or.inr (Or.inr ⟨.name, isName⟩)
    · exact Or.inr (Or.inr ⟨.uid, isUid⟩)
    · exact Or.inr (Or.inr ⟨.node, isNode⟩)
    · exact Or.inr (Or.inl isContainer)
  · rintro (isNamespace | isContainer | ⟨field, isField⟩)
    · exact Or.inl isNamespace
    · exact Or.inr (Or.inr (Or.inr (Or.inr isContainer)))
    · cases field with
      | name =>
          exact Or.inr (Or.inl isField)
      | uid =>
          exact Or.inr (Or.inr (Or.inl isField))
      | node =>
          exact Or.inr (Or.inr (Or.inr (Or.inl isField)))

theorem get?_ofPod_eq_some_iff
    (found : pod.firstContainer? = some container)
    {inNamespace key value : String} :
    (ofPod inNamespace pod).get? key = some value ↔
      (key, value) ∈ fieldsOf inNamespace pod ∧ value ≠ "" := by
  have distinct : ((fieldsOf inNamespace pod).map Prod.fst).Nodup := by
    rw [fieldsOf_eq found]
    change
      [namespaceNameKey, podNameKey, podUidKey, nodeNameKey,
        containerNameKey].Nodup
    decide +kernel
  have isPut :
      ofPod inNamespace pod =
        putAll Dictionary.empty (fieldsOf inNamespace pod) := rfl
  rw [isPut, get?_putAll, Dictionary.get?_empty, Option.or_none,
    readLast_hasValue_eq_some_iff distinct]

/-- The pod with fields filled in that were not known, and whatever else that
injection does not look at. -/
structure Filled (old new : Pod) : Prop where
  fields :
    ∀ field : LateField,
      field.valueIn new = field.valueIn old ∨
        (field.valueIn old = "" ∧ field.valueIn new ≠ "" ∧
          Plain (field.valueIn new))
  annotations : new.metadata.annotations = old.metadata.annotations
  owners : new.metadata.owners = old.metadata.owners
  spec :
    ∃ nodeName,
      new.spec = old.spec.map fun spec => { spec with nodeName }

theorem Filled.firstContainer?_eq
    {old new : Pod} (filled : Filled old new) :
    new.firstContainer? = old.firstContainer? := by
  obtain ⟨nodeName, isSpec⟩ := filled.spec
  exact Pod.firstContainer?_of_spec isSpec

/-- The attributes show the fields that were filled in, and otherwise they show
nothing that they did not show before. -/
theorem Filled.derive
    {old new : Pod} (filled : Filled old new)
    (found : old.firstContainer? = some container)
    (cluster : Cluster) (isIn : Namespace) :
    let before := ((derive isIn old).run cluster).result
    let after := ((derive isIn new).run cluster).result
    (∀ key value, after.get? key = some value →
      before.get? key = some value ∨
        ∃ field : LateField,
          key = field.key ∧ value = field.valueIn new ∧
            field.valueIn new ≠ field.valueIn old) ∧
    ∀ field : LateField,
      field.valueIn new ≠ "" → (after.get? field.key).isSome := by
  intro before after
  let name := isIn.metadata.name.getD ""
  obtain ⟨recorded, result⟩ :=
    result_followOwners cluster name ownerDepth old.metadata.owners
  have isBefore : before = putAll (ofPod name old) recorded := result _
  have isAfter : after = putAll (ofPod name new) recorded := by
    have same := result (ofPod name new)
    rw [← filled.owners] at same
    exact same
  have newFound : new.firstContainer? = some container :=
    filled.firstContainer?_eq.trans found
  rw [isBefore, isAfter]
  constructor
  · intro key value isValue
    rw [get?_putAll] at isValue ⊢
    cases isRecorded :
        Entries.readLast key (recorded.filter hasValue) with
    | some other =>
        rw [isRecorded, Option.some_or] at isValue
        exact Or.inl isValue
    | none =>
        rw [isRecorded, Option.none_or, get?_ofPod_eq_some_iff newFound,
          mem_fieldsOf_iff newFound] at isValue
        rw [Option.none_or, get?_ofPod_eq_some_iff found,
          mem_fieldsOf_iff found]
        obtain ⟨isNamespace | isContainer | ⟨field, isKey, isField⟩, known⟩ :=
          isValue
        · exact Or.inl ⟨Or.inl isNamespace, known⟩
        · exact Or.inl ⟨Or.inr (Or.inl isContainer), known⟩
        · by_cases same : field.valueIn new = field.valueIn old
          · rw [same] at isField
            exact
              Or.inl ⟨Or.inr (Or.inr ⟨field, isKey, isField⟩), known⟩
          · exact Or.inr ⟨field, isKey, isField, same⟩
  · intro field known
    have own :
        (ofPod name new).get? field.key = some (field.valueIn new) :=
      (get?_ofPod_eq_some_iff newFound).2
        ⟨(mem_fieldsOf_iff newFound).2 (Or.inr (Or.inr ⟨field, rfl, rfl⟩)),
          known⟩
    rw [get?_putAll, own, Option.isSome_or, Option.isSome_some,
      Bool.or_true]

end PodTelemetry.Attributes

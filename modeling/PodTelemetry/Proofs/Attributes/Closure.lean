import PodTelemetry.Proofs.Attributes.Owners

/-!
# The closure of the owners

The attributes of a pod show its own fields, its namespace, and the owners up
to five hops away: of each kind the last one, name and uid each for itself.
Nothing else is in them, and nothing empty.
-/

namespace PodTelemetry.Attributes

open PodTelemetry.Kubernetes (Namespace OwnerReference Pod)

/-! ## Readings of the attributes -/

/-- The last text that is not empty. -/
def lastKnown (texts : List String) : Option String :=
  (texts.filter (· ≠ "")).getLast?

theorem lastKnown_cons (text : String) (rest : List String) :
    lastKnown (text :: rest) =
      (lastKnown rest).or (if text = "" then none else some text) := by
  unfold lastKnown
  by_cases empty : text = ""
  · simp [empty]
  · rw [List.filter_cons_of_pos (by simpa using empty), List.getLast?_cons,
      if_neg empty]
    cases ((rest.filter (· ≠ "")).getLast?) <;> rfl

/-- A field that is not empty shows under the keys of the owner's kind. -/
theorem readLast_pairsOf
    (kind : OwnerKind) (field : OwnerField) (owner : OwnerReference) :
    Entries.readLast (field.key kind) ((pairsOf owner).filter hasValue) =
      if kind.covers owner = true ∧ field.valueIn owner ≠ "" then
        some (field.valueIn owner)
      else none := by
  ext value
  rw [readLast_hasValue_eq_some_iff (nodup_pairsOf owner), mem_pairsOf_iff]
  constructor
  · rintro ⟨⟨other, otherField, covered, same⟩, notEmpty⟩
    obtain ⟨sameKey, rfl⟩ := Prod.mk.inj same
    obtain ⟨rfl, rfl⟩ := OwnerField.key_eq_iff.1 sameKey
    rw [if_pos ⟨covered, notEmpty⟩]
  · intro shown
    obtain ⟨⟨covered, notEmpty⟩, same⟩ :=
      Option.ite_none_right_eq_some.1 shown
    rw [← Option.some.inj same]
    exact ⟨⟨kind, field, covered, rfl⟩, notEmpty⟩

/-- Of the owners of one kind, the last one with the field shows. -/
theorem readLast_flatMap_pairsOf
    (kind : OwnerKind) (field : OwnerField) (owners : List OwnerReference) :
    Entries.readLast (field.key kind)
        ((owners.flatMap pairsOf).filter hasValue) =
      lastKnown
        ((owners.filter kind.covers).map fun owner =>
          field.valueIn owner) := by
  induction owners with
  | nil =>
      rfl
  | cons owner rest inductionHypothesis =>
      rw [List.flatMap_cons, List.filter_append, Entries.readLast_append,
        inductionHypothesis, readLast_pairsOf]
      by_cases covered : kind.covers owner = true
      · rw [List.filter_cons_of_pos covered, List.map_cons, lastKnown_cons]
        by_cases empty : field.valueIn owner = "" <;> simp [covered, empty]
      · rw [List.filter_cons_of_neg covered, if_neg fun both => covered both.1,
          Option.or_none]

theorem readLast_flatMap_pairsOf_of_ne
    {key : String} (other : ∀ kind field, OwnerField.key kind field ≠ key)
    (owners : List OwnerReference) :
    Entries.readLast key ((owners.flatMap pairsOf).filter hasValue) =
      none := by
  refine Entries.read_eq_none_iff.2 fun pair member same => ?_
  rw [List.mem_reverse, List.mem_filter, List.mem_flatMap] at member
  obtain ⟨⟨owner, _, shown⟩, _⟩ := member
  obtain ⟨kind, field, _, rfl⟩ := mem_pairsOf_iff.1 shown
  exact other kind field same

/-! ## The pod itself -/

/-- What a pod and its namespace say of themselves, as far as it is known. -/
def podFields
    (isIn : Namespace) (pod : Pod) : List (String × Option String) :=
  [(namespaceNameKey, isIn.metadata.name),
    (podNameKey, pod.metadata.name),
    (podUidKey, pod.metadata.uid),
    (nodeNameKey, pod.spec.bind fun spec => spec.nodeName),
    (containerNameKey, pod.firstContainer?.map fun first => first.name)]

theorem nodup_podFields (isIn : Namespace) (pod : Pod) :
    ((podFields isIn pod).map Prod.fst).Nodup := by
  change
    [namespaceNameKey, podNameKey, podUidKey, nodeNameKey,
      containerNameKey].Nodup
  decide +kernel

theorem key_ne_of_mem_podFields
    {isIn : Namespace} {pod : Pod} {field : String × Option String}
    (member : field ∈ podFields isIn pod) (kind : OwnerKind)
    (shown : OwnerField) :
    shown.key kind ≠ field.1 := by
  have apart :
      ∀ key ∈
          [namespaceNameKey, podNameKey, podUidKey, nodeNameKey,
            containerNameKey],
        ∀ kind ∈ OwnerKind.all, ∀ shown ∈ OwnerField.all,
          OwnerField.key kind shown ≠ key := by
    decide +kernel
  exact
    apart field.1 (List.mem_map_of_mem member) kind kind.mem_all shown
      shown.mem_all

/-- What is not known, and what is empty, is left out. -/
theorem filter_fieldsOf (isIn : Namespace) (pod : Pod) :
    (fieldsOf (isIn.metadata.name.getD "") pod).filter hasValue =
      ((podFields isIn pod).map fun field =>
        (field.1, field.2.getD "")).filter hasValue := by
  have empty : ∀ key : String, hasValue (key, "") = false := fun _ => rfl
  unfold fieldsOf podFields Pod.firstContainer?
  cases pod.spec with
  | none =>
      simp [List.filter_cons, empty]
  | some spec =>
      cases isFirst : spec.containers.head? with
      | none =>
          simp [List.filter_cons, empty, isFirst]
      | some container =>
          simp [isFirst]

theorem get?_ofPod (isIn : Namespace) (pod : Pod) (key : String) :
    (ofPod (isIn.metadata.name.getD "") pod).get? key =
      Entries.readLast key
        (((podFields isIn pod).map fun field =>
          (field.1, field.2.getD "")).filter hasValue) := by
  have isPut :
      ofPod (isIn.metadata.name.getD "") pod =
        putAll Dictionary.empty
          (fieldsOf (isIn.metadata.name.getD "") pod) := rfl
  rw [isPut, get?_putAll, filter_fieldsOf, Dictionary.get?_empty,
    Option.or_none]

theorem get?_ofPod_of_mem
    {isIn : Namespace} {pod : Pod} {field : String × Option String}
    (member : field ∈ podFields isIn pod) :
    (ofPod (isIn.metadata.name.getD "") pod).get? field.1 =
      field.2.filter (· ≠ "") := by
  have distinct :
      (((podFields isIn pod).map fun field =>
        (field.1, field.2.getD "")).map Prod.fst).Nodup := by
    rw [List.map_map]
    exact nodup_podFields isIn pod
  ext value
  rw [get?_ofPod, readLast_hasValue_eq_some_iff distinct, List.mem_map,
    Option.filter_eq_some_iff]
  constructor
  · rintro ⟨⟨other, isOther, same⟩, notEmpty⟩
    obtain ⟨sameKey, isValue⟩ := Prod.mk.inj same
    have isField : other = field :=
      List.inj_on_of_nodup_map (nodup_podFields isIn pod) isOther member
        sameKey
    rw [isField] at isValue
    refine ⟨?_, by simpa using notEmpty⟩
    cases isThere : field.2 with
    | none =>
        rw [isThere] at isValue
        exact absurd isValue.symm notEmpty
    | some text =>
        rw [isThere] at isValue
        exact congrArg some isValue
  · rintro ⟨isValue, notEmpty⟩
    refine ⟨⟨field, member, by rw [isValue, Option.getD_some]⟩, ?_⟩
    simpa using notEmpty

theorem get?_ofPod_of_ne
    {isIn : Namespace} {pod : Pod} {key : String}
    (other : ∀ field ∈ podFields isIn pod, field.1 ≠ key) :
    (ofPod (isIn.metadata.name.getD "") pod).get? key = none := by
  rw [get?_ofPod]
  refine Entries.read_eq_none_iff.2 fun pair member same => ?_
  rw [List.mem_reverse, List.mem_filter, List.mem_map] at member
  obtain ⟨⟨field, isField, rfl⟩, _⟩ := member
  exact other field isField same

/-! ## The closure -/

/-- Attributes that show fields of a pod and the owners, the last one with a
value for each kind, and nothing else. -/
structure Shows
    (attributes : Attributes) (fields : List (String × Option String))
    (owners : List OwnerReference) : Prop where
  field :
    ∀ field ∈ fields,
      attributes.get? field.1 = field.2.filter (· ≠ "")
  ownerName :
    ∀ kind : OwnerKind,
      attributes.get? kind.nameKey =
        lastKnown
          ((owners.filter kind.covers).map fun owner => owner.name)
  ownerUid :
    ∀ kind : OwnerKind,
      attributes.get? kind.uidKey =
        lastKnown ((owners.filter kind.covers).map fun owner => owner.uid)
  nothingElse :
    ∀ key,
      (∀ field ∈ fields, field.1 ≠ key) →
      (∀ kind : OwnerKind, kind.nameKey ≠ key ∧ kind.uidKey ≠ key) →
        attributes.get? key = none
  notEmpty : ∀ key, attributes.get? key ≠ some ""

theorem shows_putAll
    (isIn : Namespace) (pod : Pod) (owners : List OwnerReference) :
    Shows
      (putAll (ofPod (isIn.metadata.name.getD "") pod)
        (owners.flatMap pairsOf))
      (podFields isIn pod) owners := by
  have ofOwner :
      ∀ kind (field : OwnerField),
        (putAll (ofPod (isIn.metadata.name.getD "") pod)
            (owners.flatMap pairsOf)).get? (field.key kind) =
          lastKnown
            ((owners.filter kind.covers).map fun owner =>
              field.valueIn owner) := by
    intro kind field
    have notPod :
        (ofPod (isIn.metadata.name.getD "") pod).get? (field.key kind) =
          none :=
      get?_ofPod_of_ne fun own member =>
        (key_ne_of_mem_podFields member kind field).symm
    rw [get?_putAll, readLast_flatMap_pairsOf, notPod, Option.or_none]
  refine ⟨fun field member => ?_, fun kind => ofOwner kind .name,
    fun kind => ofOwner kind .uid, fun key notField notOwner => ?_,
    fun key isEmpty => ?_⟩
  · rw [get?_putAll,
      readLast_flatMap_pairsOf_of_ne (key_ne_of_mem_podFields member),
      Option.none_or, get?_ofPod_of_mem member]
  · have notShown : ∀ kind field, OwnerField.key kind field ≠ key := by
      intro kind field
      cases field with
      | name =>
          exact (notOwner kind).1
      | uid =>
          exact (notOwner kind).2
    rw [get?_putAll, readLast_flatMap_pairsOf_of_ne notShown,
      Option.none_or, get?_ofPod_of_ne notField]
  · rw [get?_putAll, get?_ofPod, Option.or_eq_some_iff] at isEmpty
    rcases isEmpty with shown | ⟨_, own⟩
    · exact notEmpty_of_readLast shown rfl
    · exact notEmpty_of_readLast own rfl

/-- Whatever the cluster holds, deriving attributes follows the owners layer by
layer, five layers at most, asks once for each reference to a replica set in
them, and shows what it found.  A run always ends. -/
theorem derive_ownerClosure
    (cluster : Cluster) (isIn : Namespace) (pod : Pod) :
    let name := isIn.metadata.name.getD ""
    let layer := ownerLayer cluster name pod.metadata.owners
    let owners := layer 0 ++ layer 1 ++ layer 2 ++ layer 3 ++ layer 4
    let run := (derive isIn pod).run cluster
    run.lookups =
        (owners.filter OwnerKind.replicaSet.covers).map
          (fun owner => .findReplicaSet name owner.name) ∧
      Shows run.result (podFields isIn pod) owners ∧
      run.events =
        owners.flatMap (reportsOn cluster name) ++
          if layer 5 = [] then [] else [chainTooLong name] := by
  intro name layer owners run
  have within :
      ownersWithin cluster name pod.metadata.owners ownerDepth = owners := by
    simp [ownersWithin, ownerDepth, List.range_succ, owners, layer]
  have isRun :=
    run_followOwners cluster name ownerDepth (ofPod name pod)
      pod.metadata.owners
  rw [within] at isRun
  have whole : run = _ := isRun
  rw [whole]
  exact ⟨rfl, shows_putAll isIn pod owners, rfl⟩

end PodTelemetry.Attributes

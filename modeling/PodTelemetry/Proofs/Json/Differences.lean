import PodTelemetry.Json.Patch
import PodTelemetry.Proofs.Json.Ordered

/-!
# The shape of differences

The differences between the parts of two values are the differences between
the values, one container further in.  So what a patch does to a part is known
from what it does on its own.
-/

namespace PodTelemetry.Json

/-! ## Operations one container further in -/

namespace Operation

/-- The place that an operation is about. -/
def path : Operation → Pointer
  | .add path _ => path
  | .remove path => path
  | .replace path _ => path
  | .move _ path => path
  | .copy _ path => path
  | .test path _ => path

/-- The same operation on the child that the segment names. -/
def under (segment : String) : Operation → Operation
  | .add path value => .add (segment :: path) value
  | .remove path => .remove (segment :: path)
  | .replace path value => .replace (segment :: path) value
  | .move source path => .move (segment :: source) (segment :: path)
  | .copy source path => .copy (segment :: source) (segment :: path)
  | .test path value => .test (segment :: path) value

/-- Adds to or removes from a part of the value, or replaces. -/
def Inside : Operation → Prop
  | .add path _ => path ≠ []
  | .remove path => path ≠ []
  | .replace _ _ => True
  | .move _ _ => False
  | .copy _ _ => False
  | .test _ _ => False

@[simp]
theorem path_under (segment : String) (operation : Operation) :
    (operation.under segment).path = segment :: operation.path := by
  cases operation <;> rfl

theorem carriedOut?_under
    {operation : Operation} (inside : operation.Inside)
    (segment : String) (container : Json) :
    (operation.under segment).carriedOut? container =
      updateChild (fun child => operation.carriedOut? child) segment
        container := by
  cases operation with
  | add path value =>
      cases path with
      | nil =>
          exact absurd rfl inside
      | cons next rest =>
          rfl
  | remove path =>
      cases path with
      | nil =>
          exact absurd rfl inside
      | cons next rest =>
          rfl
  | replace path value =>
      rfl
  | move source path =>
      exact inside.elim
  | copy source path =>
      exact inside.elim
  | test path value =>
      exact inside.elim

end Operation

/-! ## Patches one container further in -/

namespace Patch

theorem carriedOut?_cons
    (operation : Operation) (rest : Patch) (value : Json) :
    carriedOut? (operation :: rest) value =
      (operation.carriedOut? value).bind rest.carriedOut? := rfl

theorem carriedOut?_append
    (first second : Patch) (value : Json) :
    carriedOut? (first ++ second) value =
      (first.carriedOut? value).bind second.carriedOut? := by
  unfold carriedOut?
  rw [List.foldlM_append]
  rfl

theorem carriedOut?_under_member
    {patch : Patch} (inside : ∀ operation ∈ patch, operation.Inside)
    {members : List (String × Json)} (ascending : Entries.Ascending members)
    {key : String} {child result : Json}
    (found : Entries.read key members = some child)
    (carriedOut : patch.carriedOut? child = some result) :
    carriedOut? (patch.map (Operation.under key)) (.object members) =
      some (.object (Entries.set key result members)) := by
  induction patch generalizing members child with
  | nil =>
      have same : child = result := Option.some.inj carriedOut
      rw [same] at found
      rw [Entries.set_of_read ascending found]
      rfl
  | cons operation rest inductionHypothesis =>
      rw [carriedOut?_cons] at carriedOut
      obtain ⟨middle, first, later⟩ := Option.bind_eq_some_iff.1 carriedOut
      have step :
          (operation.under key).carriedOut? (.object members) =
            some (.object (Entries.set key middle members)) := by
        rw [Operation.carriedOut?_under (inside operation List.mem_cons_self)]
        simp [updateChild, found, first]
      rw [List.map_cons, carriedOut?_cons, step, Option.bind_some]
      have others :=
        inductionHypothesis
          (fun other member => inside other (List.mem_cons_of_mem _ member))
          (ascending.set key middle)
          (Entries.read_set_self key middle members) later
      rw [others, Entries.set_set ascending]

theorem carriedOut?_under_item
    {patch : Patch} (inside : ∀ operation ∈ patch, operation.Inside)
    {items : List Json} {index : Nat} {child result : Json}
    (found : items[index]? = some child)
    (carriedOut : patch.carriedOut? child = some result) :
    carriedOut? (patch.map (Operation.under (toString index))) (.array items) =
      some (.array (items.set index result)) := by
  induction patch generalizing items child with
  | nil =>
      have same : child = result := Option.some.inj carriedOut
      rw [same] at found
      obtain ⟨bound, value⟩ := List.getElem?_eq_some_iff.1 found
      rw [← value, List.set_getElem_self]
      rfl
  | cons operation rest inductionHypothesis =>
      rw [carriedOut?_cons] at carriedOut
      obtain ⟨middle, first, later⟩ := Option.bind_eq_some_iff.1 carriedOut
      have step :
          (operation.under (toString index)).carriedOut? (.array items) =
            some (.array (items.set index middle)) := by
        rw [Operation.carriedOut?_under (inside operation List.mem_cons_self)]
        simp only [updateChild, index?_toString, found, first,
          Option.bind_eq_bind, Option.bind_some]
        rfl
      rw [List.map_cons, carriedOut?_cons, step, Option.bind_some]
      have inList : index < items.length :=
        (List.getElem?_eq_some_iff.1 found).1
      have others :=
        inductionHypothesis
          (fun other member => inside other (List.mem_cons_of_mem _ member))
          (List.getElem?_set_self inList) later
      rw [others, List.set_set]

/-- No operation is at the location, within it or around it. -/
def Spares (patch : Patch) (location : Pointer) : Prop :=
  ∀ operation ∈ patch,
    ¬ operation.path <+: location ∧ ¬ location <+: operation.path

end Patch

/-! ## The shape of differences -/

theorem itemAdditions_cons
    (segment : String) (path : Pointer) (index : Nat) (items : List Json) :
    itemAdditions (segment :: path) index items =
      (itemAdditions path index items).map (Operation.under segment) := by
  induction items generalizing index with
  | nil =>
      rfl
  | cons item rest inductionHypothesis =>
      simp only [itemAdditions, List.map_cons, inductionHypothesis]
      rfl

theorem inside_itemAdditions
    (path : Pointer) (index : Nat) (items : List Json) :
    ∀ operation ∈ itemAdditions path index items, operation.Inside := by
  induction items generalizing index with
  | nil =>
      simp [itemAdditions]
  | cons item rest inductionHypothesis =>
      rw [itemAdditions, List.forall_mem_cons]
      exact ⟨by simp [Operation.Inside], inductionHypothesis (index + 1)⟩

mutual

theorem differencesAt_cons
    (segment : String) (path : Pointer) (old new : Json) :
    differencesAt (segment :: path) old new =
      (differencesAt path old new).map (Operation.under segment) := by
  match new with
  | .object newMembers =>
      cases old with
      | object oldMembers =>
          simp only [differencesAt, List.map_append,
            memberDifferences_cons segment path oldMembers newMembers]
          simp [memberRemovals, Operation.under]
      | null | bool _ | number _ | string _ | array _ =>
          simp [differencesAt, Operation.under]
  | .array newItems =>
      cases old with
      | array oldItems =>
          simp only [differencesAt,
            itemDifferences_cons segment path 0 oldItems newItems]
      | null | bool _ | number _ | string _ | object _ =>
          simp [differencesAt, Operation.under]
  | .null | .bool _ | .number _ | .string _ =>
      simp only [differencesAt]
      split <;> rfl
termination_by structural new

theorem itemDifferences_cons
    (segment : String) (path : Pointer) (index : Nat) (old new : List Json) :
    itemDifferences (segment :: path) index old new =
      (itemDifferences path index old new).map (Operation.under segment) := by
  match new with
  | [] =>
      simp [itemDifferences, itemRemovals, Operation.under]
  | item :: rest =>
      cases old with
      | nil =>
          simp only [itemDifferences]
          exact itemAdditions_cons segment path index (item :: rest)
      | cons oldItem oldRest =>
          simp only [itemDifferences, List.map_append, List.cons_append]
          rw [differencesAt_cons segment (path ++ [toString index]) oldItem
              item,
            itemDifferences_cons segment path (index + 1) oldRest rest]
termination_by structural new

theorem memberDifferences_cons
    (segment : String) (path : Pointer) (old new : List (String × Json)) :
    memberDifferences (segment :: path) old new =
      (memberDifferences path old new).map (Operation.under segment) := by
  match new with
  | [] =>
      rfl
  | (key, value) :: rest =>
      simp only [memberDifferences, List.map_append]
      rw [memberDifferences_cons segment path old rest]
      cases Entries.read key old with
      | none =>
          rfl
      | some oldValue =>
          simp only [List.cons_append]
          rw [differencesAt_cons segment (path ++ [key]) oldValue value]
termination_by structural new

end

/-- The operations that give a member its new value. -/
def memberChange (key : String) (old : Option Json) (value : Json) : Patch :=
  match old with
  | some oldValue => (differences oldValue value).map (Operation.under key)
  | none => [.add [key] value]

theorem memberDifferences_root
    (old : List (String × Json)) (key : String) (value : Json)
    (rest : List (String × Json)) :
    memberDifferences [] old ((key, value) :: rest) =
      memberChange key (Entries.read key old) value ++
        memberDifferences [] old rest := by
  rw [memberDifferences]
  cases Entries.read key old with
  | none =>
      rfl
  | some oldValue =>
      simp only [List.nil_append, memberChange, differences]
      rw [differencesAt_cons]

theorem itemDifferences_root
    (index : Nat) (oldItem item : Json) (oldRest rest : List Json) :
    itemDifferences [] index (oldItem :: oldRest) (item :: rest) =
      (differences oldItem item).map (Operation.under (toString index)) ++
        itemDifferences [] (index + 1) oldRest rest := by
  simp only [itemDifferences, List.nil_append, differences]
  rw [differencesAt_cons]

mutual

theorem inside_differencesAt
    (path : Pointer) (old new : Json) :
    ∀ operation ∈ differencesAt path old new, operation.Inside := by
  match new with
  | .object newMembers =>
      cases old with
      | object oldMembers =>
          simp only [differencesAt, memberRemovals, List.forall_mem_append]
          refine
            ⟨inside_memberDifferences path oldMembers newMembers, ?_⟩
          intro operation member
          obtain ⟨entry, _, rfl⟩ := List.mem_map.1 member
          simp [Operation.Inside]
      | null | bool _ | number _ | string _ | array _ =>
          simp [differencesAt, Operation.Inside]
  | .array newItems =>
      cases old with
      | array oldItems =>
          simp only [differencesAt]
          exact inside_itemDifferences path 0 oldItems newItems
      | null | bool _ | number _ | string _ | object _ =>
          simp [differencesAt, Operation.Inside]
  | .null | .bool _ | .number _ | .string _ =>
      simp only [differencesAt]
      split <;> simp [Operation.Inside]
termination_by structural new

theorem inside_itemDifferences
    (path : Pointer) (index : Nat) (old new : List Json) :
    ∀ operation ∈ itemDifferences path index old new,
      operation.Inside := by
  match new with
  | [] =>
      simp [itemDifferences, itemRemovals, Operation.Inside]
  | item :: rest =>
      cases old with
      | nil =>
          simp only [itemDifferences]
          exact inside_itemAdditions path index (item :: rest)
      | cons oldItem oldRest =>
          simp only [itemDifferences, List.forall_mem_append]
          exact
            ⟨inside_differencesAt (path ++ [toString index]) oldItem item,
              inside_itemDifferences path (index + 1) oldRest rest⟩
termination_by structural new

theorem inside_memberDifferences
    (path : Pointer) (old new : List (String × Json)) :
    ∀ operation ∈ memberDifferences path old new, operation.Inside := by
  match new with
  | [] =>
      simp [memberDifferences]
  | (key, value) :: rest =>
      simp only [memberDifferences, List.forall_mem_append]
      refine ⟨?_, inside_memberDifferences path old rest⟩
      cases Entries.read key old with
      | none =>
          simp [Operation.Inside]
      | some oldValue =>
          exact inside_differencesAt (path ++ [key]) oldValue value
termination_by structural new

end

mutual

/-- An ordered value does not differ from itself. -/
theorem differencesAt_self
    (path : Pointer) (value : Json) (ordered : value.Ordered) :
    differencesAt path value value = [] := by
  match value with
  | .object members =>
      obtain ⟨ascending, values⟩ := ordered_object_iff.1 ordered
      simp only [differencesAt, List.append_eq_nil_iff]
      constructor
      · exact
          memberDifferences_of_read path members members values
            fun entry member => Entries.read_eq_some_of_mem ascending member
      · simp only [memberRemovals, List.map_eq_nil_iff,
          List.filter_eq_nil_iff]
        intro entry member
        rw [Entries.read_eq_some_of_mem ascending member]
        simp
  | .array items =>
      simp only [differencesAt]
      exact itemDifferences_self path 0 items (ordered_array_iff.1 ordered)
  | .null | .bool _ | .number _ | .string _ =>
      simp [differencesAt]
termination_by structural value

theorem itemDifferences_self
    (path : Pointer) (index : Nat) (items : List Json)
    (ordered : ∀ item ∈ items, item.Ordered) :
    itemDifferences path index items items = [] := by
  match items with
  | [] =>
      rfl
  | item :: rest =>
      rw [List.forall_mem_cons] at ordered
      simp only [itemDifferences, List.append_eq_nil_iff]
      exact
        ⟨differencesAt_self (path ++ [toString index]) item ordered.1,
          itemDifferences_self path (index + 1) rest ordered.2⟩
termination_by structural items

theorem memberDifferences_of_read
    (path : Pointer) (old members : List (String × Json))
    (ordered : ∀ entry ∈ members, entry.2.Ordered)
    (found :
      ∀ entry ∈ members, Entries.read entry.1 old = some entry.2) :
    memberDifferences path old members = [] := by
  match members with
  | [] =>
      rfl
  | (key, value) :: rest =>
      rw [List.forall_mem_cons] at ordered found
      simp only [memberDifferences, found.1, List.append_eq_nil_iff]
      exact
        ⟨differencesAt_self (path ++ [key]) value ordered.1,
          memberDifferences_of_read path old rest ordered.2 found.2⟩
termination_by structural members

end

theorem differences_self {value : Json} (ordered : value.Ordered) :
    differences value value = [] :=
  differencesAt_self [] value ordered

end PodTelemetry.Json

import PodTelemetry.Proofs.Json.Transfer

/-!
# What differences consist of

Every operation of the differences between two values belongs to one of their
parts: to a member that comes, goes or changes within, or to an item that
changes where it stands, comes behind the old ones or goes from the end.  Parts
that stay as they are have no operation.
-/

namespace PodTelemetry.Json

open Entries (read)

variable {operation : Operation}

theorem not_mem_differences_self
    {value : Json} (ordered : value.Ordered) :
    operation ∉ differences value value := by
  rw [differences_self ordered]
  exact List.not_mem_nil

theorem differences_string
    {old new : String}
    (member : operation ∈ differences (.string old) (.string new)) :
    operation = .replace [] (.string new) := by
  unfold differences at member
  rw [differencesAt] at member
  split at member
  · cases member
  · exact List.mem_singleton.1 member

/-! ## Objects -/

/-- The operations that lead from one reading of a member to another. -/
inductive MemberOperation (key : String) :
    (old new : Option Json) → Operation → Prop
  | added (value : Json) :
      MemberOperation key none (some value) (.add [key] value)
  | removed (value : Json) :
      MemberOperation key (some value) none (.remove [key])
  | within {old new : Json} {inner : Operation}
      (member : inner ∈ differences old new) :
      MemberOperation key (some old) (some new) (inner.under key)

theorem MemberOperation.irrefl
    {key : String} {given : Option Json}
    (ordered : ∀ value, given = some value → value.Ordered) :
    ¬ MemberOperation key given given operation := by
  intro isOperation
  cases isOperation with
  | within member =>
      exact not_mem_differences_self (ordered _ rfl) member

/-- Operations there are only where no reading takes the place of both. -/
theorem MemberOperation.of_or
    {key : String} {first old new : Option Json}
    (ordered : ∀ value, first.or old = some value → value.Ordered)
    (isOperation :
      MemberOperation key (first.or old) (first.or new) operation) :
    (∀ value, old = some value → value.Ordered) ∧
      MemberOperation key old new operation := by
  cases first with
  | none =>
      exact ⟨ordered, isOperation⟩
  | some value =>
      exact absurd isOperation (MemberOperation.irrefl ordered)

theorem exists_memberOperation
    {old new : Json} (oldRecord : IsRecord old) (newRecord : IsRecord new)
    (member : operation ∈ differences old new) :
    ∃ key, MemberOperation key (old.get? key) (new.get? key) operation := by
  obtain ⟨oldMembers, rfl, _⟩ := oldRecord
  obtain ⟨newMembers, rfl, ascending⟩ := newRecord
  simp only [get?_object]
  unfold differences at member
  rw [differencesAt, memberRemovals_root] at member
  rcases List.mem_append.1 member with isChange | isRemoval
  · obtain ⟨key, value, isNew, inChange⟩ := exists_memberChange isChange
    refine ⟨key, ?_⟩
    rw [Entries.read_eq_some_of_mem ascending isNew]
    unfold memberChange at inChange
    cases found : read key oldMembers with
    | none =>
        rw [found] at inChange
        rw [List.mem_singleton.1 inChange]
        exact .added value
    | some before =>
        rw [found] at inChange
        obtain ⟨inner, isInner, rfl⟩ := List.mem_map.1 inChange
        exact .within isInner
  · obtain ⟨key, gone, rfl⟩ := List.mem_map.1 isRemoval
    obtain ⟨wasThere, absent⟩ := mem_vanished_iff.1 gone
    obtain ⟨value, found⟩ := Option.isSome_iff_exists.1 wasThere
    refine ⟨key, ?_⟩
    rw [absent, found]
    exact .removed value

/-- Where two records differ in some members only, every operation belongs to
one of these. -/
theorem exists_memberOperation_of_kept
    {old new : Json} (keys : List String)
    (oldRecord : IsRecord old) (newRecord : IsRecord new)
    (oldOrdered : old.Ordered)
    (kept : ∀ key, key ∉ keys → new.get? key = old.get? key)
    (member : operation ∈ differences old new) :
    ∃ key ∈ keys,
      (∀ value, old.get? key = some value → value.Ordered) ∧
      MemberOperation key (old.get? key) (new.get? key) operation := by
  obtain ⟨key, isOperation⟩ :=
    exists_memberOperation oldRecord newRecord member
  have inOrder : ∀ value, old.get? key = some value → value.Ordered :=
    fun value found => oldRecord.ordered_of_get? oldOrdered found
  refine ⟨key, ?_, inOrder, isOperation⟩
  by_contra other
  rw [kept key other] at isOperation
  exact MemberOperation.irrefl inOrder isOperation

theorem MemberOperation.path_starts
    {key : String} {old new : Option Json}
    (isOperation : MemberOperation key old new operation) :
    [key] <+: operation.path := by
  cases isOperation with
  | added | removed =>
      exact List.prefix_refl _
  | within =>
      rw [Operation.path_under]
      exact List.prefix_append [key] _

/-- Where two records differ in one member only, all that a patch does is
there. -/
theorem path_of_mem_differences
    {old new : Json} {key : String}
    (oldRecord : IsRecord old) (newRecord : IsRecord new)
    (oldOrdered : old.Ordered)
    (kept : ∀ other, other ≠ key → new.get? other = old.get? other) :
    ∀ operation ∈ differences old new, [key] <+: operation.path := by
  intro operation member
  obtain ⟨other, isOther, _, isOperation⟩ :=
    exists_memberOperation_of_kept [key] oldRecord newRecord oldOrdered
      (by simpa using kept) member
  rw [List.mem_singleton.1 isOther] at isOperation
  exact isOperation.path_starts

/-! ## Arrays -/

/-- The operations that lead from some items to others. -/
inductive ItemOperation (olds news : List Json) : Operation → Prop
  | added {index : Nat} {item : Json}
      (beyond : olds.length ≤ index) (isNew : news[index]? = some item) :
      ItemOperation olds news (.add [toString index] item)
  | removed (shorter : news.length < olds.length) :
      ItemOperation olds news (.remove [toString news.length])
  | within {index : Nat} {old new : Json} {inner : Operation}
      (isOld : olds[index]? = some old) (isNew : news[index]? = some new)
      (member : inner ∈ differences old new) :
      ItemOperation olds news (inner.under (toString index))

theorem exists_of_mem_itemAdditions
    {items : List Json} {start : Nat}
    (member : operation ∈ itemAdditions [] start items) :
    ∃ index item,
      items[index]? = some item ∧
      operation = .add [toString (start + index)] item := by
  induction items generalizing start with
  | nil =>
      cases member
  | cons first rest inductionHypothesis =>
      rw [itemAdditions] at member
      rcases List.mem_cons.1 member with rfl | later
      · exact ⟨0, first, rfl, rfl⟩
      · obtain ⟨index, item, found, rfl⟩ := inductionHypothesis later
        refine ⟨index + 1, item, found, ?_⟩
        rw [Nat.add_assoc, Nat.add_comm 1 index]

/-- The items that were compared already stand before those that are left. -/
theorem itemOperation_of_mem_itemDifferences
    {olds news doneOlds doneNews : List Json}
    (sameLength : doneNews.length = doneOlds.length)
    (member :
      operation ∈ itemDifferences [] doneOlds.length olds news) :
    ItemOperation (doneOlds ++ olds) (doneNews ++ news) operation := by
  induction news generalizing olds doneOlds doneNews with
  | nil =>
      rw [itemDifferences, itemRemovals, List.mem_replicate] at member
      obtain ⟨notEmpty, rfl⟩ := member
      rw [List.append_nil, List.nil_append, ← sameLength]
      apply ItemOperation.removed
      rw [List.length_append]
      omega
  | cons new rest inductionHypothesis =>
      cases olds with
      | nil =>
          rw [itemDifferences] at member
          obtain ⟨index, item, found, rfl⟩ :=
            exists_of_mem_itemAdditions member
          rw [List.append_nil]
          refine .added (Nat.le_add_right _ index) ?_
          rw [← sameLength, List.getElem?_append_right (by omega),
            Nat.add_sub_cancel_left]
          exact found
      | cons old oldRest =>
          rw [itemDifferences_root] at member
          rcases List.mem_append.1 member with here | later
          · obtain ⟨inner, isInner, rfl⟩ := List.mem_map.1 here
            refine .within ?_ ?_ isInner
            · simp
            · simp [← sameLength]
          · have lengths :
                (doneNews ++ [new]).length = (doneOlds ++ [old]).length := by
              simp [sameLength]
            have others :
                ItemOperation ((doneOlds ++ [old]) ++ oldRest)
                  ((doneNews ++ [new]) ++ rest) operation := by
              refine inductionHypothesis lengths ?_
              rw [List.length_append]
              exact later
            simpa using others

theorem itemOperation_of_mem_differences
    {olds news : List Json}
    (member : operation ∈ differences (.array olds) (.array news)) :
    ItemOperation olds news operation := by
  unfold differences at member
  rw [differencesAt] at member
  exact
    itemOperation_of_mem_itemDifferences
      (rfl : ([] : List Json).length = ([] : List Json).length) member

section Lists

variable {α : Type} {encode : α → Json} {olds news : List α}

/-- Where only the first item differs, every operation is within it. -/
theorem exists_of_mem_differences_cons
    {old new : α} {others : List α}
    (ordered : (ofList encode (old :: others)).Ordered)
    (member :
      operation ∈
        differences (ofList encode (old :: others))
          (ofList encode (new :: others))) :
    ∃ inner ∈ differences (encode old) (encode new),
      operation = inner.under "0" := by
  have items := ordered_array_iff.1 ordered
  cases itemOperation_of_mem_differences member with
  | added beyond isNew =>
      have inRange := (List.getElem?_eq_some_iff.1 isNew).1
      simp only [List.length_map, List.length_cons] at beyond inRange
      omega
  | removed shorter =>
      simp at shorter
  | @within index before after inner isOld isNew isInner =>
      cases index with
      | zero =>
          simp only [List.map_cons, List.getElem?_cons_zero,
            Option.some.injEq] at isOld isNew
          subst isOld isNew
          exact ⟨inner, isInner, rfl⟩
      | succ index =>
          have isItem : before ∈ (old :: others).map encode :=
            List.mem_of_getElem? isOld
          simp only [List.map_cons, List.getElem?_cons_succ] at isOld isNew
          rw [isOld] at isNew
          rw [← Option.some.inj isNew] at isInner
          exact absurd isInner (not_mem_differences_self (items _ isItem))

/-- A list that becomes longer is added to behind its end. -/
theorem exists_of_mem_differences_append
    {added : List α} (ordered : (ofList encode olds).Ordered)
    (member :
      operation ∈
        differences (ofList encode olds) (ofList encode (olds ++ added))) :
    ∃ index value,
      olds.length ≤ index ∧ operation = .add [toString index] value := by
  have items := ordered_array_iff.1 ordered
  cases itemOperation_of_mem_differences member with
  | @added index item beyond isNew =>
      rw [List.length_map] at beyond
      exact ⟨index, item, beyond, rfl⟩
  | removed shorter =>
      simp only [List.length_map, List.length_append] at shorter
      omega
  | @within index before after inner isOld isNew isInner =>
      have inRange := (List.getElem?_eq_some_iff.1 isOld).1
      rw [List.map_append, List.getElem?_append_left inRange, isOld] at isNew
      rw [← Option.some.inj isNew] at isInner
      exact
        absurd isInner
          (not_mem_differences_self
            (items _ (List.mem_of_getElem? isOld)))

end Lists

/-! ## Texts and lists that may be missing -/

/-- A value is put at the place, new or over another one. -/
inductive Writes (path : Pointer) : Operation → Prop
  | add (value : Json) : Writes path (.add path value)
  | replace (value : Json) : Writes path (.replace path value)

theorem Writes.under
    {path : Pointer} (writes : Writes path operation) (segment : String) :
    Writes (segment :: path) (operation.under segment) := by
  cases writes with
  | add value =>
      exact .add value
  | replace value =>
      exact .replace value

theorem MemberOperation.writes
    {key : String} {old : Option String} {new : String}
    (isOperation :
      MemberOperation key (old.map .string) (some (.string new)) operation) :
    Writes [key] operation := by
  cases old with
  | none =>
      cases isOperation
      exact .add _
  | some text =>
      cases isOperation with
      | within member =>
          rw [differences_string member]
          exact .replace _

/-- A list is put at the place where there was none, or an item at an index
behind the list that is there. -/
inductive Lengthens {α : Type} (path : Pointer) (old : Option (List α)) :
    Operation → Prop
  | whole (absent : old = none) (value : Json) :
      Lengthens path old (.add path value)
  | item {items : List α} (present : old = some items)
      {index : Nat} (behind : items.length ≤ index) (value : Json) :
      Lengthens path old (.add (path ++ [toString index]) value)

theorem Lengthens.under
    {α : Type} {path : Pointer} {old : Option (List α)}
    (lengthens : Lengthens path old operation) (segment : String) :
    Lengthens (segment :: path) old (operation.under segment) := by
  cases lengthens with
  | whole absent value =>
      exact .whole absent value
  | item present behind value =>
      exact .item present behind value

theorem MemberOperation.lengthens
    {α : Type} {key : String} {encode : α → Json}
    {old : Option (List α)} {added : List α}
    (ordered :
      ∀ items, old = some items → (ofList encode items).Ordered)
    (isOperation :
      MemberOperation key (old.map (ofList encode))
        (some (ofList encode (old.getD [] ++ added))) operation) :
    Lengthens [key] old operation := by
  cases old with
  | none =>
      cases isOperation
      exact .whole rfl _
  | some items =>
      cases isOperation with
      | within member =>
          obtain ⟨index, value, behind, rfl⟩ :=
            exists_of_mem_differences_append (ordered items rfl) member
          exact .item rfl behind value

end PodTelemetry.Json

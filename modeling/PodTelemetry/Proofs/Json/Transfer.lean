import PodTelemetry.Proofs.Json.Differences
import PodTelemetry.Proofs.Json.Pointer

/-!
# Differences carried out on another document

The differences between two values are meant for the first of them, but may
be carried out on a document that has the same parts and more.  `Transfers`
says that this works: every operation finds its place, and the locations that
none of them touches keep their values.  The rules build such a transfer from
those of the members of an object or of the items of an array.
-/

namespace PodTelemetry.Json

open Entries (Ascending read)

/-- The differences between `old` and `new` lead from the document to the
result. -/
structure Transfers (old new document result : Json) : Prop where
  carriedOut : (differences old new).carriedOut? document = some result
  ordered : result.Ordered
  untouched :
    ∀ location, (differences old new).Spares location →
      result.find? location = document.find? location

namespace Transfers

theorem refl
    {value document : Json}
    (valueOrdered : value.Ordered) (documentOrdered : document.Ordered) :
    Transfers value value document document where
  carriedOut := by
    rw [differences_self valueOrdered]
    rfl
  ordered := documentOrdered
  untouched := fun _ _ => rfl

/-- A text is put in whole, whatever was there. -/
theorem string
    {old : Json} {text : String}
    (different : old ≠ .string text) (document : Json) :
    Transfers old (.string text) document (.string text) := by
  have patch :
      differences old (.string text) = [.replace [] (.string text)] := by
    simp [differences, differencesAt, different]
  refine ⟨?_, ordered_string text, ?_⟩
  · rw [patch]
    rfl
  · intro location spares
    rw [patch] at spares
    exact absurd List.nil_prefix (spares _ List.mem_cons_self).1

/-- Nothing spares the root but the patch without operations. -/
theorem eq_of_spares_root
    {old new document result : Json}
    (carriedOut : (differences old new).carriedOut? document = some result)
    (spares : (differences old new).Spares []) :
    result = document := by
  cases operations : differences old new with
  | nil =>
      rw [operations] at carriedOut
      exact (Option.some.inj carriedOut).symm
  | cons operation rest =>
      rw [operations] at spares
      exact absurd List.nil_prefix (spares operation List.mem_cons_self).2

end Transfers

theorem Patch.Spares.of_under
    {patch inner : Patch} {segment : String} {rest : Pointer}
    (spares : patch.Spares (segment :: rest))
    (contained : ∀ operation ∈ inner, operation.under segment ∈ patch) :
    inner.Spares rest := by
  intro operation member
  have apart := spares (operation.under segment) (contained operation member)
  rw [Operation.path_under] at apart
  constructor
  · intro above
    exact apart.1 (List.cons_prefix_cons.2 ⟨rfl, above⟩)
  · intro below
    exact apart.2 (List.cons_prefix_cons.2 ⟨rfl, below⟩)

theorem Patch.Spares.path_ne
    {patch : Patch} {segment : String} {rest : Pointer}
    (spares : patch.Spares (segment :: rest))
    {operation : Operation} (member : operation ∈ patch) :
    operation.path ≠ [segment] := by
  intro same
  apply (spares operation member).1
  rw [same]
  exact List.cons_prefix_cons.2 ⟨rfl, List.nil_prefix⟩

/-! ## Objects -/

/-- What becomes of one member: it stays, comes, goes, or changes within. -/
inductive MemberTransfers : (old new found result : Option Json) → Prop
  | kept {value found : Option Json}
      (ordered : ∀ given, value = some given → given.Ordered) :
      MemberTransfers value value found found
  | added {value : Json} (found : Option Json) (ordered : value.Ordered) :
      MemberTransfers none (some value) found (some value)
  | removed (old found : Json) :
      MemberTransfers (some old) none (some found) none
  | changed {old new document result : Json}
      (transfers : Transfers old new document result) :
      MemberTransfers (some old) (some new) (some document) (some result)

theorem MemberTransfers.ordered_result
    {old new found result : Option Json}
    (part : MemberTransfers old new found result)
    (foundOrdered : ∀ given, found = some given → given.Ordered) :
    ∀ given, result = some given → given.Ordered := by
  intro given isResult
  cases part with
  | kept =>
      exact foundOrdered given isResult
  | added _ ordered =>
      exact Option.some.inj isResult ▸ ordered
  | removed =>
      cases isResult
  | changed transfers =>
      exact Option.some.inj isResult ▸ transfers.ordered

theorem MemberTransfers.found_of_gone
    {old found result : Option Json}
    (part : MemberTransfers old none found result)
    (inOld : old.isSome) :
    ∃ value, found = some value := by
  cases part with
  | kept => simp at inOld
  | removed _ value => exact ⟨value, rfl⟩

theorem MemberTransfers.settled
    {old new found result : Option Json}
    (part : MemberTransfers old new found result) :
    (if old.isSome ∧ new = none then none
      else if new.isSome then result else found) = result := by
  cases part with
  | kept =>
      cases old with
      | none => simp
      | some given => simp
  | added => simp
  | removed => simp
  | changed => simp

/-- The operations for one member do what they say to it and nothing to the
others. -/
theorem member_carriedOut
    {old result : Option Json} {value : Json}
    {members : List (String × Json)} {key : String}
    (ascending : Ascending members)
    (part : MemberTransfers old (some value) (read key members) result) :
    ∃ next,
      Patch.carriedOut? (memberChange key old value) (.object members) =
        some (.object next) ∧
      Ascending next ∧
      ∀ other,
        read other next =
          if other = key then result else read other members := by
  generalize isFound : read key members = found at part
  cases part with
  | kept ordered =>
      refine ⟨members, ?_, ascending, fun other => ?_⟩
      · rw [memberChange, differences_self (ordered value rfl)]
        rfl
      · split
        · next same => rw [same, isFound]
        · rfl
  | added =>
      exact
        ⟨Entries.set key value members, rfl, ascending.set key value,
          fun other => Entries.read_set key other value members⟩
  | @changed oldValue _ document result transfers =>
      have inside := inside_differencesAt [] oldValue value
      exact
        ⟨Entries.set key result members,
          Patch.carriedOut?_under_member inside ascending isFound
            transfers.carriedOut,
          ascending.set key result,
          fun other => Entries.read_set key other result members⟩

theorem memberDifferences_carriedOut
    {old new members : List (String × Json)}
    {target : String → Option Json}
    (newAscending : Ascending new) (ascending : Ascending members)
    (parts :
      ∀ entry ∈ new,
        MemberTransfers (read entry.1 old) (some entry.2)
          (read entry.1 members) (target entry.1)) :
    ∃ next,
      Patch.carriedOut? (memberDifferences [] old new) (.object members) =
        some (.object next) ∧
      Ascending next ∧
      ∀ key,
        read key next =
          if (read key new).isSome then target key else read key members := by
  induction new generalizing members with
  | nil =>
      exact ⟨members, rfl, ascending, fun key => rfl⟩
  | cons entry rest inductionHypothesis =>
      obtain ⟨key, value⟩ := entry
      have absent : read key rest = none :=
        Entries.read_tail_of_ascending newAscending
      have part :
          MemberTransfers (read key old) (some value) (read key members)
            (target key) :=
        parts (key, value) List.mem_cons_self
      obtain ⟨middle, first, middleAscending, middleRead⟩ :=
        member_carriedOut ascending part
      have later :
          ∀ entry ∈ rest,
            MemberTransfers (read entry.1 old) (some entry.2)
              (read entry.1 middle) (target entry.1) := by
        intro entry member
        have differs : entry.1 ≠ key :=
          Entries.read_eq_none_iff.1 absent entry member
        rw [middleRead, if_neg differs]
        exact parts entry (List.mem_cons_of_mem _ member)
      obtain ⟨next, others, nextAscending, nextRead⟩ :=
        inductionHypothesis (List.pairwise_cons.1 newAscending).2
          middleAscending later
      refine ⟨next, ?_, nextAscending, fun other => ?_⟩
      · rw [memberDifferences_root, Patch.carriedOut?_append, first]
        exact others
      · rw [nextRead, middleRead]
        by_cases same : other = key
        · simp [Entries.read, absent, same]
        · simp [Entries.read, same, Ne.symm same]

theorem removals_carriedOut
    {keys : List String} {members : List (String × Json)}
    (distinct : keys.Nodup) (ascending : Ascending members)
    (present : ∀ key ∈ keys, ∃ value, read key members = some value) :
    ∃ next,
      Patch.carriedOut? (keys.map fun key => .remove [key])
          (.object members) =
        some (.object next) ∧
      Ascending next ∧
      ∀ key,
        read key next = if key ∈ keys then none else read key members := by
  induction keys generalizing members with
  | nil =>
      exact ⟨members, rfl, ascending, fun key => by simp⟩
  | cons key rest inductionHypothesis =>
      obtain ⟨notInRest, restDistinct⟩ := List.nodup_cons.1 distinct
      obtain ⟨value, found⟩ := present key List.mem_cons_self
      have first :
          Operation.carriedOut? (.object members) (.remove [key]) =
            some (.object (Entries.drop key members)) := by
        simp [Operation.carriedOut?, removeAt, updateParent, removeChild,
          found]
      have later :
          ∀ other ∈ rest,
            ∃ value, read other (Entries.drop key members) = some value := by
        intro other member
        have differs : other ≠ key := fun same => notInRest (same ▸ member)
        rw [Entries.read_drop, if_neg differs]
        exact present other (List.mem_cons_of_mem _ member)
      obtain ⟨next, others, nextAscending, nextRead⟩ :=
        inductionHypothesis restDistinct (ascending.drop key) later
      refine ⟨next, ?_, nextAscending, fun other => ?_⟩
      · rw [List.map_cons, Patch.carriedOut?_cons, first]
        exact others
      · rw [nextRead, Entries.read_drop]
        by_cases same : other = key
        · simp [same]
        · simp [same]

/-- The keys of the members that an object loses. -/
def vanished (old new : List (String × Json)) : List String :=
  (old.filter fun entry => (read entry.1 new).isNone).map Prod.fst

theorem memberRemovals_root (old new : List (String × Json)) :
    memberRemovals [] old new =
      (vanished old new).map fun key => .remove [key] := by
  simp [memberRemovals, vanished]

theorem mem_vanished_iff
    {old new : List (String × Json)} {key : String} :
    key ∈ vanished old new ↔
      (read key old).isSome ∧ read key new = none := by
  unfold vanished
  rw [List.mem_map]
  constructor
  · rintro ⟨entry, member, rfl⟩
    obtain ⟨inOld, gone⟩ := List.mem_filter.1 member
    refine ⟨?_, by simpa using gone⟩
    rw [Option.isSome_iff_ne_none]
    intro absent
    exact Entries.read_eq_none_iff.1 absent entry inOld rfl
  · rintro ⟨inOld, gone⟩
    obtain ⟨value, found⟩ := Option.isSome_iff_exists.1 inOld
    refine ⟨(key, value), List.mem_filter.2 ⟨?_, ?_⟩, rfl⟩
    · exact Entries.mem_of_read found
    · simp [gone]

theorem vanished_nodup
    {old : List (String × Json)} (ascending : Ascending old)
    (new : List (String × Json)) :
    (vanished old new).Nodup := by
  have inOrder :
      (old.filter fun entry => (read entry.1 new).isNone).Pairwise
        fun left right => left.1 < right.1 :=
    List.Pairwise.filter _ ascending
  refine List.pairwise_map.2 (inOrder.imp fun before same => ?_)
  exact String.lt_irrefl _ (same ▸ before)

theorem mem_memberDifferences
    {old new : List (String × Json)} {key : String} {value : Json}
    (member : (key, value) ∈ new) {operation : Operation}
    (inChange : operation ∈ memberChange key (read key old) value) :
    operation ∈ memberDifferences [] old new := by
  induction new with
  | nil =>
      cases member
  | cons entry rest inductionHypothesis =>
      obtain ⟨other, first⟩ := entry
      rw [memberDifferences_root]
      rcases List.mem_cons.1 member with atHead | inRest
      · cases atHead
        exact List.mem_append_left _ inChange
      · exact List.mem_append_right _ (inductionHypothesis inRest)

theorem mem_differences_object
    {old new : List (String × Json)} {key : String} {value : Json}
    (found : read key new = some value) {operation : Operation}
    (inChange : operation ∈ memberChange key (read key old) value) :
    operation ∈ differences (.object old) (.object new) := by
  unfold differences
  rw [differencesAt]
  exact
    List.mem_append_left _
      (mem_memberDifferences (Entries.mem_of_read found) inChange)

theorem remove_mem_differences_object
    {old new : List (String × Json)} {key : String}
    (gone : key ∈ vanished old new) :
    Operation.remove [key] ∈ differences (.object old) (.object new) := by
  unfold differences
  rw [differencesAt, memberRemovals_root]
  exact List.mem_append_right _ (List.mem_map_of_mem gone)

/-- The members transfer one by one. -/
theorem Transfers.object
    {old new members : List (String × Json)}
    (target : String → Option Json)
    (oldAscending : Ascending old) (newAscending : Ascending new)
    (ordered : (Json.object members).Ordered)
    (parts :
      ∀ key,
        MemberTransfers (read key old) (read key new) (read key members)
          (target key)) :
    ∃ result,
      Transfers (.object old) (.object new) (.object members)
        (.object result) ∧
      ∀ key, read key result = target key := by
  have ascending : Ascending members := (ordered_object_iff.1 ordered).1
  obtain ⟨middle, changes, middleAscending, middleRead⟩ :=
    memberDifferences_carriedOut newAscending ascending
      fun entry member => by
        have found := Entries.read_eq_some_of_mem newAscending member
        exact found ▸ parts entry.1
  have present :
      ∀ key ∈ vanished old new, ∃ value, read key middle = some value := by
    intro key member
    obtain ⟨inOld, gone⟩ := mem_vanished_iff.1 member
    rw [middleRead, gone, Option.isSome_none, if_neg (by simp)]
    exact (gone ▸ parts key).found_of_gone inOld
  obtain ⟨result, removals, resultAscending, resultRead⟩ :=
    removals_carriedOut (vanished_nodup oldAscending new) middleAscending
      present
  have reads : ∀ key, read key result = target key := by
    intro key
    rw [resultRead, middleRead]
    simp only [mem_vanished_iff]
    exact (parts key).settled
  have carriedOut :
      (differences (.object old) (.object new)).carriedOut?
          (.object members) =
        some (.object result) := by
    unfold differences
    rw [differencesAt, Patch.carriedOut?_append, changes,
      memberRemovals_root]
    exact removals
  refine ⟨result, ⟨carriedOut, ?_, ?_⟩, reads⟩
  · refine ordered_object_of_read resultAscending fun key value found => ?_
    rw [reads] at found
    exact
      (parts key).ordered_result
        (fun given isGiven => ordered_of_read ordered isGiven) value found
  · intro location spares
    cases location with
    | nil =>
        rw [eq_of_spares_root carriedOut spares]
    | cons key rest =>
        have part := parts key
        have changes :
            ∀ value, read key new = some value →
              ∀ operation ∈ memberChange key (read key old) value,
                operation ∈ differences (.object old) (.object new) :=
          fun value found operation => mem_differences_object found
        have gone :
            key ∈ vanished old new ↔
              (read key old).isSome ∧ read key new = none :=
          mem_vanished_iff
        simp only [find?, reads]
        -- The part speaks of readings; as variables they can be told apart.
        generalize read key old = oldValue at part changes gone
        generalize read key new = newValue at part changes gone
        generalize read key members = found at part ⊢
        generalize target key = reached at part ⊢
        cases part with
        | kept =>
            rfl
        | @added value =>
            have addition := changes value rfl _ List.mem_cons_self
            exact absurd rfl (spares.path_ne addition)
        | removed =>
            have removal := remove_mem_differences_object (gone.2 ⟨rfl, rfl⟩)
            exact absurd rfl (spares.path_ne removal)
        | @changed oldValue newValue document result transfers =>
            refine transfers.untouched rest (spares.of_under ?_)
            intro operation member
            exact changes newValue rfl _ (List.mem_map_of_mem member)

/-- An object with ascending keys. -/
def IsRecord (value : Json) : Prop :=
  ∃ members, value = .object members ∧ Ascending members

theorem isRecord_ofMembers (members : List (String × Json)) :
    IsRecord (ofMembers members) :=
  ⟨Entries.sorted members, rfl, Entries.ascending_sorted members⟩

@[simp]
theorem get?_ofMembers (members : List (String × Json)) (key : String) :
    (ofMembers members).get? key = Entries.readLast key members :=
  Entries.read_sorted key members

@[simp]
theorem get?_object (members : List (String × Json)) (key : String) :
    (Json.object members).get? key = read key members := rfl

theorem isRecord_ofDictionary
    {α : Type} (encode : α → Json) (dictionary : Dictionary α) :
    IsRecord (ofDictionary encode dictionary) :=
  ⟨_, rfl, Entries.ascending_map_iff.2 dictionary.ascending⟩

theorem get?_ofDictionary
    {α : Type} (encode : α → Json) (dictionary : Dictionary α)
    (key : String) :
    (ofDictionary encode dictionary).get? key =
      (dictionary.get? key).map encode :=
  Entries.read_map _ _ _

theorem IsRecord.ordered_of_get?
    {value member : Json} (isRecord : IsRecord value)
    (ordered : value.Ordered) {key : String}
    (found : value.get? key = some member) :
    member.Ordered := by
  obtain ⟨members, rfl, _⟩ := isRecord
  exact ordered_of_read ordered found

/-- Two records that differ in some members only: the others stay as they are
in the document. -/
theorem Transfers.record
    {old new : Json} {members : List (String × Json)}
    (keys : List String) (target : String → Option Json)
    (oldRecord : IsRecord old) (newRecord : IsRecord new)
    (oldOrdered : old.Ordered) (ordered : (Json.object members).Ordered)
    (parts :
      ∀ key ∈ keys,
        MemberTransfers (old.get? key) (new.get? key) (read key members)
          (target key))
    (kept : ∀ key, key ∉ keys → new.get? key = old.get? key) :
    ∃ result,
      Transfers old new (.object members) (.object result) ∧
      (∀ key ∈ keys, read key result = target key) ∧
      ∀ key, key ∉ keys → read key result = read key members := by
  obtain ⟨oldMembers, rfl, oldAscending⟩ := oldRecord
  obtain ⟨newMembers, rfl, newAscending⟩ := newRecord
  simp only [get?_object] at parts kept
  obtain ⟨result, transfers, reads⟩ :=
    Transfers.object
      (fun key => if key ∈ keys then target key else read key members)
      oldAscending newAscending ordered fun key => by
        by_cases changed : key ∈ keys
        · rw [if_pos changed]
          exact parts key changed
        · rw [if_neg changed, kept key changed]
          exact .kept fun given found => ordered_of_read oldOrdered found
  refine ⟨result, transfers, fun key changed => ?_, fun key same => ?_⟩
  · rw [reads, if_pos changed]
  · rw [reads, if_neg same]

theorem exists_memberChange
    {old new : List (String × Json)} {operation : Operation}
    (member : operation ∈ memberDifferences [] old new) :
    ∃ key value,
      (key, value) ∈ new ∧
        operation ∈ memberChange key (read key old) value := by
  induction new with
  | nil =>
      cases member
  | cons entry rest inductionHypothesis =>
      obtain ⟨key, value⟩ := entry
      rw [memberDifferences_root] at member
      rcases List.mem_append.1 member with atHead | inRest
      · exact ⟨key, value, List.mem_cons_self, atHead⟩
      · obtain ⟨other, later, isLater, inChange⟩ := inductionHypothesis inRest
        exact ⟨other, later, List.mem_cons_of_mem _ isLater, inChange⟩

/-! ## Arrays -/

/-- What becomes of the items: each changes within, and new ones come at the
end. -/
inductive ItemsTransfer : (old new documents results : List Json) → Prop
  | added {items : List Json} (ordered : ∀ item ∈ items, item.Ordered) :
      ItemsTransfer [] items [] items
  | changed {old new document result : Json}
      {olds news documents results : List Json}
      (first : Transfers old new document result)
      (others : ItemsTransfer olds news documents results) :
      ItemsTransfer (old :: olds) (new :: news) (document :: documents)
        (result :: results)

theorem ItemsTransfer.ordered_results
    {old new documents results : List Json}
    (parts : ItemsTransfer old new documents results) :
    ∀ result ∈ results, result.Ordered := by
  induction parts with
  | added ordered =>
      exact ordered
  | changed first _ inductionHypothesis =>
      exact List.forall_mem_cons.2 ⟨first.ordered, inductionHypothesis⟩

theorem toString_ne_dash (n : Nat) : toString n ≠ "-" := by
  intro same
  have named : index? "-" = some n := same ▸ index?_toString n
  have noIndex : index? "-" = none := by decide
  rw [noIndex] at named
  cases named

theorem itemAdditions_carriedOut (done items : List Json) :
    Patch.carriedOut? (itemAdditions [] done.length items) (.array done) =
      some (.array (done ++ items)) := by
  induction items generalizing done with
  | nil =>
      rw [List.append_nil]
      rfl
  | cons item rest inductionHypothesis =>
      have first :
          Operation.carriedOut? (.array done)
              (.add [toString done.length] item) =
            some (.array (done ++ [item])) := by
        simp only [Operation.carriedOut?, addAt, updateParent, addChild,
          List.isEmpty_cons, Bool.false_eq_true, if_false,
          toString_ne_dash, index?_toString, Option.bind_eq_bind,
          Option.bind_some, Nat.le_refl, if_true, List.take_length,
          List.drop_length]
      rw [itemAdditions, Patch.carriedOut?_cons, List.nil_append, first,
        Option.bind_some]
      have others := inductionHypothesis (done ++ [item])
      rw [List.length_append, List.append_assoc] at others
      exact others

theorem ItemsTransfer.carriedOut
    {old new documents results : List Json}
    (parts : ItemsTransfer old new documents results) (done : List Json) :
    Patch.carriedOut? (itemDifferences [] done.length old new)
        (.array (done ++ documents)) =
      some (.array (done ++ results)) := by
  induction parts generalizing done with
  | @added items =>
      rw [List.append_nil]
      cases items with
      | nil =>
          rw [List.append_nil]
          rfl
      | cons item rest =>
          exact itemAdditions_carriedOut done (item :: rest)
  | @changed old new document result olds news documents results first _
      inductionHypothesis =>
      have found :
          (done ++ document :: documents)[done.length]? = some document := by
        simp
      have changed :=
        Patch.carriedOut?_under_item (inside_differencesAt [] old new) found
          first.carriedOut
      have placed :
          (done ++ document :: documents).set done.length result =
            (done ++ [result]) ++ documents := by
        simp
      rw [itemDifferences_root, Patch.carriedOut?_append]
      unfold differences
      rw [changed, placed, Option.bind_some]
      have others := inductionHypothesis (done ++ [result])
      rw [List.length_append, List.append_assoc _ _ results] at others
      exact others

theorem mem_itemAdditions
    {items : List Json} {index : Nat} {item : Json}
    (found : items[index]? = some item) (start : Nat) :
    Operation.add [toString (start + index)] item ∈
      itemAdditions [] start items := by
  induction items generalizing start index with
  | nil =>
      simp at found
  | cons first rest inductionHypothesis =>
      rw [itemAdditions]
      cases index with
      | zero =>
          have same : first = item := by simpa using found
          rw [same]
          exact List.mem_cons_self
      | succ index =>
          have later :=
            inductionHypothesis (by simpa using found) (start + 1)
          rw [Nat.add_assoc, Nat.add_comm 1 index] at later
          exact List.mem_cons_of_mem _ later

theorem ItemsTransfer.untouched
    {old new documents results : List Json}
    (parts : ItemsTransfer old new documents results)
    (start index : Nat) {rest : Pointer}
    (spares :
      (itemDifferences [] start old new).Spares
        (toString (start + index) :: rest)) :
    (results[index]?).bind (find? · rest) =
      (documents[index]?).bind (find? · rest) := by
  induction parts generalizing start index with
  | @added items =>
      cases found : items[index]? with
      | none =>
          rfl
      | some item =>
          have additions :
              itemDifferences [] start [] items =
                itemAdditions [] start items := by
            cases items with
            | nil => rfl
            | cons first others => rfl
          rw [additions] at spares
          exact absurd rfl (spares.path_ne (mem_itemAdditions found start))
  | @changed old new document result olds news documents results first _
      inductionHypothesis =>
      rw [itemDifferences_root] at spares
      cases index with
      | zero =>
          refine first.untouched rest (spares.of_under ?_)
          intro operation member
          exact List.mem_append_left _ (List.mem_map_of_mem member)
      | succ index =>
          apply inductionHypothesis (start + 1)
          rw [Nat.add_assoc, Nat.add_comm 1 index]
          intro operation member
          exact spares operation (List.mem_append_right _ member)

/-- The items transfer one by one. -/
theorem Transfers.array
    {old new documents results : List Json}
    (parts : ItemsTransfer old new documents results) :
    Transfers (.array old) (.array new) (.array documents)
      (.array results) := by
  have patch :
      differences (.array old) (.array new) =
        itemDifferences [] 0 old new := by
    rw [differences, differencesAt]
  have carriedOut :
      (differences (.array old) (.array new)).carriedOut?
          (.array documents) =
        some (.array results) := by
    rw [patch]
    exact parts.carriedOut []
  refine ⟨carriedOut, ordered_array_iff.2 parts.ordered_results, ?_⟩
  intro location spares
  cases location with
  | nil =>
      rw [eq_of_spares_root carriedOut spares]
  | cons segment rest =>
      simp only [find?]
      cases named : index? segment with
      | none =>
          rfl
      | some index =>
          rw [patch, eq_toString_of_index? named] at spares
          apply parts.untouched 0
          rw [Nat.zero_add]
          exact spares

end PodTelemetry.Json

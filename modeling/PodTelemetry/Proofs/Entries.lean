import PodTelemetry.Dictionary

/-!
# Readings of entries

A list of entries is known by its readings as soon as its keys ascend.  The
statements here say what is read from appended and from sorted lists, and
that setting a key twice, or to the value that it has, makes no difference.
-/

namespace PodTelemetry.Entries

variable {α : Type}

/-! ## Reading -/

@[simp]
theorem read_nil (key : String) :
    read key ([] : Entries α) = none := rfl

@[simp]
theorem read_cons
    (key other : String) (value : α) (rest : Entries α) :
    read key ((other, value) :: rest) =
      if other = key then some value else read key rest := rfl

@[simp]
theorem read_append
    (key : String) (left right : Entries α) :
    read key (left ++ right) = (read key left).or (read key right) := by
  induction left with
  | nil =>
      simp
  | cons entry rest inductionHypothesis =>
      obtain ⟨other, value⟩ := entry
      rw [List.cons_append]
      by_cases same : other = key
      · simp [read, same]
      · simp only [read, same, if_false]
        exact inductionHypothesis

theorem mem_of_read
    {key : String} {value : α} {entries : Entries α}
    (found : read key entries = some value) :
    (key, value) ∈ entries := by
  induction entries with
  | nil =>
      simp at found
  | cons entry rest inductionHypothesis =>
      obtain ⟨other, first⟩ := entry
      by_cases same : other = key
      · simp only [read, same, if_true, Option.some.injEq] at found
        rw [same, found]
        exact List.mem_cons_self
      · simp only [read, same, if_false] at found
        exact List.mem_cons_of_mem _ (inductionHypothesis found)

theorem read_eq_none_iff
    {key : String} {entries : Entries α} :
    read key entries = none ↔ ∀ entry ∈ entries, entry.1 ≠ key := by
  constructor
  · intro absent entry member same
    induction entries with
    | nil =>
        cases member
    | cons head rest inductionHypothesis =>
        by_cases atHead : head.1 = key
        · simp [read, atHead] at absent
        · simp only [read, atHead, if_false] at absent
          rcases List.mem_cons.1 member with isHead | inRest
          · exact atHead (isHead ▸ same)
          · exact inductionHypothesis absent inRest
  · exact read_eq_none_of_forall_ne

theorem mem_iff_read
    {key : String} {value : α} {entries : Entries α}
    (ascending : Ascending entries) :
    (key, value) ∈ entries ↔ read key entries = some value :=
  ⟨read_eq_some_of_mem ascending, mem_of_read⟩

theorem read_map
    {β : Type} (change : α → β) (key : String) (entries : Entries α) :
    read key (entries.map fun entry => (entry.1, change entry.2)) =
      (read key entries).map change := by
  induction entries with
  | nil =>
      rfl
  | cons entry rest inductionHypothesis =>
      rw [List.map_cons]
      by_cases same : entry.1 = key
      · simp [read, same]
      · simp only [read, same, if_false]
        exact inductionHypothesis

theorem read_filter
    {entries : Entries α} (ascending : Ascending entries)
    (keep : String × α → Bool) (key : String) :
    read key (entries.filter keep) =
      (read key entries).filter fun value => keep (key, value) := by
  have filtered : Ascending (entries.filter keep) :=
    List.Pairwise.filter _ ascending
  ext value
  rw [← mem_iff_read filtered, List.mem_filter, mem_iff_read ascending,
    Option.filter_eq_some_iff]

/-! ## Setting -/

theorem set_of_read
    {key : String} {value : α} {entries : Entries α}
    (ascending : Ascending entries)
    (found : read key entries = some value) :
    set key value entries = entries := by
  refine eq_of_read_eq (ascending.set key value) ascending fun other => ?_
  rw [read_set]
  split
  · next same => rw [same, found]
  · rfl

theorem set_set
    {entries : Entries α} (ascending : Ascending entries)
    (key : String) (first second : α) :
    set key second (set key first entries) = set key second entries := by
  refine
    eq_of_read_eq ((ascending.set key first).set key second)
      (ascending.set key second) fun other => ?_
  simp only [read_set]
  split <;> rfl

/-! ## Order -/

theorem ascending_map_iff
    {β : Type} {change : α → β} {entries : Entries α} :
    Ascending (entries.map fun entry => (entry.1, change entry.2)) ↔
      Ascending entries :=
  List.pairwise_map

/-- Keys taken in order from an ascending list ascend. -/
theorem ascending_of_keys
    {entries : Entries α} {keys : List String}
    (ascending : keys.Pairwise (· < ·))
    (taken : (entries.map Prod.fst).Sublist keys) :
    Ascending entries :=
  List.pairwise_map.1 (ascending.sublist taken)

theorem read_tail_of_ascending
    {entry : String × α} {rest : Entries α}
    (ascending : Ascending (entry :: rest)) :
    read entry.1 rest = none := by
  refine read_eq_none_of_forall_ne fun other member same => ?_
  have before : entry.1 < other.1 :=
    (List.pairwise_cons.1 ascending).1 other member
  exact String.lt_irrefl entry.1 (same ▸ before)

/-- The value of the last entry with the key. -/
def readLast (key : String) (entries : Entries α) : Option α :=
  read key entries.reverse

@[simp]
theorem readLast_nil (key : String) :
    readLast key ([] : Entries α) = none := rfl

@[simp]
theorem readLast_singleton (key other : String) (value : α) :
    readLast key [(other, value)] =
      if other = key then some value else none :=
  rfl

@[simp]
theorem readLast_append
    (key : String) (left right : Entries α) :
    readLast key (left ++ right) =
      (readLast key right).or (readLast key left) := by
  simp [readLast, read_append]

@[simp]
theorem readLast_cons
    (key other : String) (value : α) (rest : Entries α) :
    readLast key ((other, value) :: rest) =
      (readLast key rest).or (if other = key then some value else none) := by
  rw [← List.singleton_append, readLast_append, readLast_singleton]

theorem readLast_of_ascending
    {entries : Entries α} (ascending : Ascending entries) (key : String) :
    readLast key entries = read key entries := by
  cases found : read key entries with
  | none =>
      refine read_eq_none_iff.2 fun entry member => ?_
      exact read_eq_none_iff.1 found entry (List.mem_reverse.1 member)
  | some value =>
      have member : (key, value) ∈ entries := mem_of_read found
      cases last : readLast key entries with
      | none =>
          exact
            absurd rfl
              (read_eq_none_iff.1 last _ (List.mem_reverse.2 member))
      | some other =>
          have otherMember : (key, other) ∈ entries :=
            List.mem_reverse.1 (mem_of_read last)
          rw [← read_eq_some_of_mem ascending otherMember, found]

theorem readLast_eq_some_iff
    {key : String} {value : α} {entries : Entries α}
    (distinct : (entries.map Prod.fst).Nodup) :
    readLast key entries = some value ↔ (key, value) ∈ entries := by
  constructor
  · exact fun found => List.mem_reverse.1 (mem_of_read found)
  · intro member
    induction entries with
    | nil =>
        cases member
    | cons entry rest inductionHypothesis =>
        rw [List.map_cons, List.nodup_cons] at distinct
        rw [readLast_cons]
        rcases List.mem_cons.1 member with rfl | inRest
        · have absent : readLast key rest = none := by
            refine read_eq_none_iff.2 fun other isOther same => ?_
            exact
              distinct.1
                (List.mem_map.2 ⟨other, List.mem_reverse.1 isOther, same⟩)
          rw [absent, Option.none_or, if_pos rfl]
        · rw [inductionHypothesis distinct.2 inRest, Option.some_or]

theorem readLast_filterMap_eq_none_iff
    {β : Type} {shownBy : β → Option (String × α)} {key : String}
    {items : List β} :
    readLast key (items.filterMap shownBy) = none ↔
      ∀ item ∈ items, ∀ value, shownBy item ≠ some (key, value) := by
  rw [readLast, read_eq_none_iff]
  constructor
  · intro absent item member value isEntry
    refine absent (key, value) (List.mem_reverse.2 ?_) rfl
    exact List.mem_filterMap.2 ⟨item, member, isEntry⟩
  · rintro absent ⟨_, value⟩ member rfl
    obtain ⟨item, isItem, isEntry⟩ :=
      List.mem_filterMap.1 (List.mem_reverse.1 member)
    exact absent item isItem value isEntry

/-- The last item with the key gives the value. -/
theorem readLast_filterMap_eq_some_iff
    {β : Type} {shownBy : β → Option (String × α)} {key : String} {value : α}
    {items : List β} :
    readLast key (items.filterMap shownBy) = some value ↔
      ∃ before item after,
        items = before ++ item :: after ∧
        shownBy item = some (key, value) ∧
        ∀ later ∈ after, ∀ other, shownBy later ≠ some (key, other) := by
  constructor
  · intro found
    induction items with
    | nil =>
        cases found
    | cons first rest inductionHypothesis =>
        rw [← List.singleton_append, List.filterMap_append, readLast_append,
          Option.or_eq_some_iff] at found
        rcases found with inRest | ⟨notInRest, atFirst⟩
        · obtain ⟨before, item, after, whole, isItem⟩ :=
            inductionHypothesis inRest
          exact
            ⟨first :: before, item, after, by rw [whole, List.cons_append],
              isItem⟩
        · have member := List.mem_reverse.1 (mem_of_read atFirst)
          have isFirst : shownBy first = some (key, value) := by
            simpa using member
          exact
            ⟨[], first, rest, rfl, isFirst,
              readLast_filterMap_eq_none_iff.1 notInRest⟩
  · rintro ⟨before, item, after, rfl, isEntry, later⟩
    rw [List.filterMap_append, readLast_append, List.filterMap_cons, isEntry]
    simp [readLast_filterMap_eq_none_iff.2 later]

theorem read_foldl_set
    (key : String) (todo done : Entries α) :
    read key
        (todo.foldl (fun done entry => set entry.1 entry.2 done) done) =
      (readLast key todo).or (read key done) := by
  induction todo generalizing done with
  | nil =>
      rfl
  | cons entry rest inductionHypothesis =>
      rw [List.foldl_cons, inductionHypothesis, read_set,
        ← List.singleton_append, readLast_append, readLast_singleton]
      by_cases same : entry.1 = key
      · simp [same]
      · simp [same, Ne.symm same]

theorem read_sorted
    (key : String) (entries : Entries α) :
    read key (sorted entries) = readLast key entries := by
  rw [sorted, read_foldl_set, read_nil, Option.or_none]

theorem sorted_of_ascending
    {entries : Entries α} (ascending : Ascending entries) :
    sorted entries = entries := by
  refine eq_of_read_eq (ascending_sorted entries) ascending fun key => ?_
  rw [read_sorted, readLast_of_ascending ascending]

theorem mem_of_mem_sorted
    {entry : String × α} {entries : Entries α}
    (member : entry ∈ sorted entries) :
    entry ∈ entries := by
  have found : read entry.1 (sorted entries) = some entry.2 :=
    read_eq_some_of_mem (ascending_sorted entries) member
  rw [read_sorted] at found
  exact List.mem_reverse.1 (mem_of_read found)

end PodTelemetry.Entries

namespace PodTelemetry.Dictionary

theorem get?_ofList
    {α : Type} (entries : List (String × α)) (key : String) :
    (ofList entries).get? key = Entries.readLast key entries :=
  Entries.read_sorted key entries

theorem ofList_entries {α : Type} (dictionary : Dictionary α) :
    ofList dictionary.entries = dictionary :=
  entries_injective (Entries.sorted_of_ascending dictionary.ascending)

theorem get?_foldl_insert
    {α : Type} (dictionary : Dictionary α) (pairs : List (String × α))
    (key : String) :
    (pairs.foldl (fun done pair => done.insert pair.1 pair.2)
        dictionary).get? key =
      (Entries.readLast key pairs).or (dictionary.get? key) := by
  have entries :
      ∀ start : Dictionary α,
        (pairs.foldl (fun done pair => done.insert pair.1 pair.2)
            start).entries =
          pairs.foldl (fun done entry => Entries.set entry.1 entry.2 done)
            start.entries := by
    induction pairs with
    | nil =>
        intro start
        rfl
    | cons pair rest inductionHypothesis =>
        intro start
        exact inductionHypothesis (start.insert pair.1 pair.2)
  rw [get?, entries, Entries.read_foldl_set]
  rfl

end PodTelemetry.Dictionary

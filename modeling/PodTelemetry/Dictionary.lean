namespace PodTelemetry

/-! ## Entries in ascending key order

A finite map from text is written as its entries, keys strictly ascending by
code point. Reading a key, setting one and dropping one are functions on the
plain list; `Dictionary` packages a list with its order, so that two
dictionaries with the same readings are equal. -/

/-- A list of keys with their values. -/
abbrev Entries (α : Type) := List (String × α)

namespace Entries

variable {α β : Type}

/-- The value of the first entry with the key. -/
def read (key : String) : Entries α → Option α
  | [] => none
  | (k, v) :: rest => if k = key then some v else read key rest

/-- Puts the value at the key's place, over the entry with that key if there is
one. -/
def set (key : String) (value : α) : Entries α → Entries α
  | [] => [(key, value)]
  | (k, v) :: rest =>
      if key < k then (key, value) :: (k, v) :: rest
      else if key = k then (key, value) :: rest
      else (k, v) :: set key value rest

/-- Leaves out every entry with the key. -/
def drop (key : String) (entries : Entries α) : Entries α :=
  entries.filter fun entry => entry.1 ≠ key

/-- The entries in key order; of several with one key the last stays. -/
def sorted (entries : Entries α) : Entries α :=
  entries.foldl (fun done entry => set entry.1 entry.2 done) []

/-- Keys are strictly ascending. -/
def Ascending (entries : Entries α) : Prop :=
  entries.Pairwise fun left right => left.1 < right.1

theorem read_set_self (key : String) (value : α) (entries : Entries α) :
    read key (set key value entries) = some value := by
  induction entries with
  | nil => simp [set, read]
  | cons entry rest inductionHypothesis =>
      obtain ⟨k, v⟩ := entry
      unfold set
      split
      · simp [read]
      · split
        · simp [read]
        · next differs =>
            simp only [read, Ne.symm differs, if_false]
            exact inductionHypothesis

theorem read_set_of_ne {key other : String} (different : other ≠ key)
    (value : α) (entries : Entries α) :
    read other (set key value entries) = read other entries := by
  induction entries with
  | nil => simp [set, read, Ne.symm different]
  | cons entry rest inductionHypothesis =>
      obtain ⟨k, v⟩ := entry
      unfold set
      split
      · simp [read, Ne.symm different]
      · split
        · next same =>
            subst same
            simp [read, Ne.symm different]
        · simp only [read, inductionHypothesis]

theorem read_set (key other : String) (value : α) (entries : Entries α) :
    read other (set key value entries) =
    if other = key then some value else read other entries := by
  split
  · next same => subst same; exact read_set_self other value entries
  · next different => exact read_set_of_ne different value entries

theorem read_drop (key other : String) (entries : Entries α) :
    read other (drop key entries) =
      if other = key then none else read other entries := by
  induction entries with
  | nil => simp [drop, read]
  | cons entry rest inductionHypothesis =>
      obtain ⟨k, v⟩ := entry
      unfold drop at inductionHypothesis ⊢
      by_cases isKey : k = key
      · subst isKey
        rw [List.filter_cons_of_neg (by simp), inductionHypothesis]
        split
        · rfl
        · next different => simp [read, Ne.symm different]
      · rw [List.filter_cons_of_pos (by simpa using isKey)]
        by_cases isOther : k = other
        · subst isOther
          simp [read, isKey]
        · simp only [read, isOther, if_false]
          exact inductionHypothesis

theorem mem_set {key : String} {value : α} {entry : String × α}
    {entries : Entries α} (member : entry ∈ set key value entries) :
    entry = (key, value) ∨ entry ∈ entries := by
  induction entries with
  | nil => exact .inl (by simpa [set] using member)
  | cons head rest inductionHypothesis =>
      obtain ⟨k, v⟩ := head
      unfold set at member
      split at member
      · simpa using member
      · split at member
        · rcases List.mem_cons.1 member with atHead | inRest
          · exact .inl atHead
          · exact .inr (List.mem_cons_of_mem _ inRest)
        · rcases List.mem_cons.1 member with atHead | inRest
          · exact .inr (atHead ▸ List.mem_cons_self)
          · rcases inductionHypothesis inRest with new | old
            · exact .inl new
            · exact .inr (List.mem_cons_of_mem _ old)

theorem Ascending.set {entries : Entries α} (ascending : Ascending entries)
    (key : String) (value : α) :
    Ascending (Entries.set key value entries) := by
  induction entries with
  | nil => exact List.pairwise_singleton _ _
  | cons head rest inductionHypothesis =>
      obtain ⟨k, v⟩ := head
      have parts := List.pairwise_cons.1 ascending
      unfold Entries.set
      split
      · next before =>
          refine List.pairwise_cons.2 ⟨fun entry member => ?_, ascending⟩
          rcases List.mem_cons.1 member with atHead | inRest
          · exact atHead ▸ before
          · exact String.lt_trans before (parts.1 entry inRest)
      · next notBefore =>
          split
          · next same =>
              subst same
              exact List.pairwise_cons.2
                ⟨fun entry member => parts.1 entry member, parts.2⟩
          · next differs =>
              refine List.pairwise_cons.2
                ⟨fun entry member => ?_, inductionHypothesis parts.2⟩
              rcases mem_set member with new | old
              · subst new
                rcases Decidable.em (k < key) with after | notAfter
                · exact after
                · exact absurd
                    (String.le_antisymm (String.not_lt.1 notAfter)
                        (String.not_lt.1 notBefore))
                    differs
              · exact parts.1 entry old

theorem Ascending.drop {entries : Entries α} (ascending : Ascending entries)
    (key : String) : Ascending (Entries.drop key entries) :=
  List.Pairwise.filter _ ascending

theorem ascending_sorted (entries : Entries α) :
    Ascending (sorted entries) := by
  have step : ∀ (todo done : Entries α), Ascending done →
      Ascending (todo.foldl
          (fun done entry => Entries.set entry.1 entry.2 done) done) := by
    intro todo
    induction todo with
    | nil => intro done ascending; exact ascending
    | cons entry rest inductionHypothesis =>
        intro done ascending
        exact inductionHypothesis _ (ascending.set entry.1 entry.2)
  exact step entries [] List.Pairwise.nil

theorem read_eq_none_of_forall_ne {key : String} {entries : Entries α}
    (absent : ∀ entry ∈ entries, entry.1 ≠ key) : read key entries = none := by
  induction entries with
  | nil => rfl
  | cons head rest inductionHypothesis =>
      obtain ⟨k, v⟩ := head
      have differs : k ≠ key := absent (k, v) List.mem_cons_self
      simp only [read, differs, if_false]
      exact inductionHypothesis fun entry member =>
        absent entry (List.mem_cons_of_mem _ member)

theorem read_eq_some_of_mem {key : String} {value : α} {entries : Entries α}
    (ascending : Ascending entries) (member : (key, value) ∈ entries) :
    read key entries = some value := by
  induction entries with
  | nil => cases member
  | cons head rest inductionHypothesis =>
      obtain ⟨k, v⟩ := head
      have parts := List.pairwise_cons.1 ascending
      rcases List.mem_cons.1 member with atHead | inRest
      · cases atHead; simp [read]
      · have differs : k ≠ key := by
          intro same
          subst same
          exact String.lt_irrefl k (parts.1 (k, value) inRest)
        simp only [read, differs, if_false]
        exact inductionHypothesis parts.2 inRest

/-- Ascending lists with the same readings are the same list. -/
theorem eq_of_read_eq {left right : Entries α} (leftAscending : Ascending left)
    (rightAscending : Ascending right)
    (same : ∀ key, read key left = read key right) :
    left = right := by
  induction left generalizing right with
  | nil =>
      cases right with
      | nil => rfl
      | cons head rest =>
          obtain ⟨k, v⟩ := head
          have := same k
          simp [read] at this
  | cons leftHead leftRest inductionHypothesis =>
      obtain ⟨k, v⟩ := leftHead
      have leftParts := List.pairwise_cons.1 leftAscending
      cases right with
      | nil =>
          have := same k
          simp [read] at this
      | cons rightHead rightRest =>
          obtain ⟨k', v'⟩ := rightHead
          have rightParts := List.pairwise_cons.1 rightAscending
          have leftSmallest : ∀ key, key < k →
              read key ((k, v) :: leftRest) = none := by
            intro key smaller
            refine read_eq_none_of_forall_ne fun entry member equal => ?_
            rcases List.mem_cons.1 member with atHead | inRest
            · subst atHead; exact String.lt_irrefl _ (equal ▸ smaller)
            · exact String.lt_asymm smaller (equal ▸ leftParts.1 entry inRest)
          have rightSmallest : ∀ key, key < k' →
              read key ((k', v') :: rightRest) = none := by
            intro key smaller
            refine read_eq_none_of_forall_ne fun entry member equal => ?_
            rcases List.mem_cons.1 member with atHead | inRest
            · subst atHead; exact String.lt_irrefl _ (equal ▸ smaller)
            · exact String.lt_asymm smaller (equal ▸ rightParts.1 entry inRest)
          have keysEqual : k = k' := by
            refine String.le_antisymm (String.not_lt.1 fun smaller => ?_)
              (String.not_lt.1 fun smaller => ?_)
            · have := (same k').symm.trans (leftSmallest k' smaller)
              simp [read] at this
            · have := (same k).trans (rightSmallest k smaller)
              simp [read] at this
          subst keysEqual
          have valuesEqual : v = v' := by
            have := same k
            simpa [read] using this
          subst valuesEqual
          have restsEqual : leftRest = rightRest := by
            refine inductionHypothesis leftParts.2 rightParts.2 fun key => ?_
            by_cases atHead : k = key
            · subst atHead
              have leftNone := @read_eq_none_of_forall_ne _ k leftRest
                fun entry member equal =>
                  String.lt_irrefl k (equal ▸ leftParts.1 entry member)
              have rightNone := @read_eq_none_of_forall_ne _ k rightRest
                fun entry member equal =>
                  String.lt_irrefl k (equal ▸ rightParts.1 entry member)
              rw [leftNone, rightNone]
            · have := same key
              simpa [read, atHead] using this
          rw [restsEqual]

end Entries

/-- A map from text: entries with strictly ascending keys. -/
structure Dictionary (α : Type) where
  entries : Entries α := []
  ascending : Entries.Ascending entries := by exact List.Pairwise.nil

namespace Dictionary

variable {α : Type}

theorem entries_injective {left right : Dictionary α}
    (same : left.entries = right.entries) : left = right := by
  cases left; cases right; cases same; rfl

instance [DecidableEq α] : DecidableEq (Dictionary α) := fun left right =>
  decidable_of_iff (left.entries = right.entries)
    ⟨entries_injective, congrArg _⟩

instance [Repr α] : Repr (Dictionary α) :=
  ⟨fun dictionary => reprPrec dictionary.entries⟩

instance : Inhabited (Dictionary α) := ⟨{}⟩

/-- The dictionary without entries. -/
def empty : Dictionary α := {}

def get? (dictionary : Dictionary α) (key : String) : Option α :=
  Entries.read key dictionary.entries

def insert (dictionary : Dictionary α) (key : String) (value : α) :
    Dictionary α where
  entries := Entries.set key value dictionary.entries
  ascending := dictionary.ascending.set key value

def erase (dictionary : Dictionary α) (key : String) : Dictionary α where
  entries := Entries.drop key dictionary.entries
  ascending := dictionary.ascending.drop key

/-- Of several entries with one key the last stays. -/
def ofList (entries : List (String × α)) : Dictionary α where
  entries := Entries.sorted entries
  ascending := Entries.ascending_sorted entries

def keys (dictionary : Dictionary α) : List String :=
  dictionary.entries.map Prod.fst

@[simp]
theorem get?_empty (key : String) : (empty : Dictionary α).get? key = none :=
  rfl

theorem get?_insert (dictionary : Dictionary α) (key other : String)
    (value : α) :
    (dictionary.insert key value).get? other =
      if other = key then some value else dictionary.get? other :=
  Entries.read_set key other value dictionary.entries

theorem get?_erase (dictionary : Dictionary α) (key other : String) :
    (dictionary.erase key).get? other =
      if other = key then none else dictionary.get? other :=
  Entries.read_drop key other dictionary.entries

/-- A dictionary is known by its readings. -/
theorem eq_of_get?_eq {left right : Dictionary α}
    (same : ∀ key, left.get? key = right.get? key) :
    left = right :=
  entries_injective (Entries.eq_of_read_eq left.ascending right.ascending same)

end Dictionary

end PodTelemetry

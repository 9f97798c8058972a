import PodTelemetry.Json.Decode
import PodTelemetry.Json.Reader
import PodTelemetry.Proofs.Entries

/-!
# Ordered values

The keys of an ordered value ascend in each of its objects.  Everything that
is read from a text is ordered, and so is everything that is written from
ordered parts.
-/

namespace PodTelemetry.Json

theorem bind_eq_ok_iff
    {α β ε : Type} {first : Except ε α} {next : α → Except ε β}
    {result : β} :
    (first >>= next) = .ok result ↔
      ∃ value, first = .ok value ∧ next value = .ok result := by
  cases first with
  | error error =>
      simp [bind, Except.bind]
  | ok value =>
      simp [bind, Except.bind]

theorem orderedItems_iff {items : List Json} :
    OrderedItems items ↔ ∀ item ∈ items, item.Ordered := by
  induction items with
  | nil =>
      simp [OrderedItems]
  | cons item rest inductionHypothesis =>
      simp [OrderedItems, inductionHypothesis]

theorem orderedMembers_iff {members : List (String × Json)} :
    OrderedMembers members ↔ ∀ entry ∈ members, entry.2.Ordered := by
  induction members with
  | nil =>
      simp [OrderedMembers]
  | cons entry rest inductionHypothesis =>
      obtain ⟨key, value⟩ := entry
      simp only [OrderedMembers, inductionHypothesis, List.forall_mem_cons]

theorem ordered_array_iff {items : List Json} :
    (Json.array items).Ordered ↔ ∀ item ∈ items, item.Ordered := by
  rw [Ordered]
  exact orderedItems_iff

theorem ordered_object_iff {members : List (String × Json)} :
    (Json.object members).Ordered ↔
      Entries.Ascending members ∧ ∀ entry ∈ members, entry.2.Ordered := by
  rw [Ordered, orderedMembers_iff]

/-- An object is ordered when its keys ascend and all its readings are
ordered. -/
theorem ordered_object_of_read
    {members : List (String × Json)}
    (ascending : Entries.Ascending members)
    (values :
      ∀ key value, Entries.read key members = some value → value.Ordered) :
    (Json.object members).Ordered := by
  refine ordered_object_iff.2 ⟨ascending, fun entry member => ?_⟩
  exact values entry.1 entry.2 (Entries.read_eq_some_of_mem ascending member)

theorem ordered_of_read
    {members : List (String × Json)} {key : String} {value : Json}
    (ordered : (Json.object members).Ordered)
    (found : Entries.read key members = some value) :
    value.Ordered :=
  (ordered_object_iff.1 ordered).2 (key, value) (Entries.mem_of_read found)

/-! ## Writing ordered values -/

@[simp]
theorem orderedMembers_append {left right : List (String × Json)} :
    OrderedMembers (left ++ right) ↔
      OrderedMembers left ∧ OrderedMembers right := by
  simp only [orderedMembers_iff, List.forall_mem_append]

@[simp]
theorem orderedMembers_nil : OrderedMembers [] := by
  simp [OrderedMembers]

@[simp]
theorem orderedMembers_cons
    {key : String} {value : Json} {rest : List (String × Json)} :
    OrderedMembers ((key, value) :: rest) ↔
      value.Ordered ∧ OrderedMembers rest := by
  simp [OrderedMembers]

@[simp]
theorem orderedMembers_optionalMember
    {α : Type} {key : String} {encode : α → Json} {value : Option α} :
    OrderedMembers (optionalMember key encode value) ↔
      ∀ given, value = some given → (encode given).Ordered := by
  cases value with
  | none =>
      simp [optionalMember]
  | some given =>
      simp [optionalMember]

theorem ordered_ofMembers
    {members : List (String × Json)} (values : OrderedMembers members) :
    (ofMembers members).Ordered := by
  refine
    ordered_object_iff.2
      ⟨Entries.ascending_sorted members, fun entry member => ?_⟩
  exact
    orderedMembers_iff.1 values entry (Entries.mem_of_mem_sorted member)

/-- The keys of a record that is written with some of its members. -/
theorem keys_optionalMember
    {α : Type} (key : String) (encode : α → Json) (value : Option α) :
    ((optionalMember key encode value).map Prod.fst).Sublist [key] := by
  cases value with
  | none =>
      exact List.nil_sublist [key]
  | some given =>
      exact List.Sublist.refl [key]

theorem keys_member (key : String) (value : Json) :
    ([(key, value)].map Prod.fst).Sublist [key] :=
  List.Sublist.refl [key]

theorem keys_append
    {left right : List (String × Json)} {leftKeys rightKeys : List String}
    (leftTaken : (left.map Prod.fst).Sublist leftKeys)
    (rightTaken : (right.map Prod.fst).Sublist rightKeys) :
    ((left ++ right).map Prod.fst).Sublist (leftKeys ++ rightKeys) := by
  rw [List.map_append]
  exact leftTaken.append rightTaken

/-- A record whose keys are taken in order is ordered when its values are. -/
theorem ordered_of_keys
    {members : List (String × Json)} {keys : List String}
    (ascending : keys.Pairwise (· < ·))
    (taken : (members.map Prod.fst).Sublist keys)
    (values : OrderedMembers members) :
    (Json.object members).Ordered := by
  rw [Ordered]
  exact ⟨Entries.ascending_of_keys ascending taken, values⟩

@[simp]
theorem ordered_string (text : String) : (Json.string text).Ordered := by
  simp [Ordered]

@[simp]
theorem ordered_bool (value : Bool) : (Json.bool value).Ordered := by
  simp [Ordered]

@[simp]
theorem ordered_ofInt (value : Int) : (ofInt value).Ordered := by
  simp [Ordered, ofInt]

@[simp]
theorem ordered_ofStrings (texts : List String) :
    (ofStrings texts).Ordered := by
  refine ordered_array_iff.2 fun item member => ?_
  obtain ⟨text, _, rfl⟩ := List.mem_map.1 member
  exact ordered_string text

theorem ordered_ofList
    {α : Type} {encode : α → Json} {items : List α}
    (values : ∀ item ∈ items, (encode item).Ordered) :
    (ofList encode items).Ordered := by
  refine ordered_array_iff.2 fun item member => ?_
  obtain ⟨source, sourceMember, rfl⟩ := List.mem_map.1 member
  exact values source sourceMember

theorem ordered_ofDictionary
    {α : Type} {encode : α → Json} {dictionary : Dictionary α}
    (values : ∀ entry ∈ dictionary.entries, (encode entry.2).Ordered) :
    (ofDictionary encode dictionary).Ordered := by
  refine ordered_object_iff.2 ⟨?_, fun entry member => ?_⟩
  · exact Entries.ascending_map_iff.2 dictionary.ascending
  · obtain ⟨source, sourceMember, rfl⟩ := List.mem_map.1 member
    exact values source sourceMember

@[simp]
theorem ordered_ofTexts (dictionary : Dictionary String) :
    (ofDictionary Json.string dictionary).Ordered :=
  ordered_ofDictionary fun entry _ => ordered_string entry.2

/-! ## Reading ordered values -/

namespace Reader

theorem closedOr_eq_ok_iff
    {α : Type} {closed : Bool} {given result : α} :
    closedOr closed given = .ok result ↔ closed = true ∧ given = result := by
  cases closed <;> simp [closedOr]

mutual

theorem ordered_any
    (room : Nat) (document : Document) {value : Json}
    (reads : any room document = .ok value) : value.Ordered := by
  match document with
  | .broken | .keyless _ | .string none =>
      cases reads
  | .null =>
      cases reads
      simp [Ordered]
  | .bool flag =>
      cases reads
      simp
  | .string (some text) =>
      cases reads
      simp
  | .number text =>
      rw [any] at reads
      split at reads
      · cases reads
        simp [Ordered]
      · cases reads
  | .array items closed =>
      rw [any] at reads
      by_cases deep : room ≤ 1
      · simp [deep, throw, throwThe, MonadExceptOf.throw, bind, Except.bind]
          at reads
      · simp only [deep, if_false] at reads
        obtain ⟨values, itemsRead, isClosed⟩ := bind_eq_ok_iff.1 reads
        obtain ⟨_, rfl⟩ := closedOr_eq_ok_iff.1 isClosed
        exact
          ordered_array_iff.2 (ordered_anyItems (room - 1) items itemsRead)
  | .object members closed =>
      rw [any] at reads
      by_cases deep : room ≤ 1
      · simp [deep, throw, throwThe, MonadExceptOf.throw, bind, Except.bind]
          at reads
      · simp only [deep, if_false] at reads
        obtain ⟨values, membersRead, isClosed⟩ := bind_eq_ok_iff.1 reads
        obtain ⟨_, rfl⟩ := closedOr_eq_ok_iff.1 isClosed
        have ordered := ordered_anyMembers (room - 1) members membersRead
        exact ordered_ofMembers (orderedMembers_iff.2 ordered)
termination_by structural document

theorem ordered_anyItems
    (room : Nat) (items : List Document) {values : List Json}
    (reads : anyItems room items = .ok values) :
    ∀ value ∈ values, value.Ordered := by
  match items with
  | [] =>
      cases reads
      nofun
  | item :: rest =>
      rw [anyItems] at reads
      obtain ⟨value, first, later⟩ := bind_eq_ok_iff.1 reads
      obtain ⟨others, restRead, same⟩ := bind_eq_ok_iff.1 later
      cases same
      exact
        List.forall_mem_cons.2
          ⟨ordered_any room item first, ordered_anyItems room rest restRead⟩
termination_by structural items

theorem ordered_anyMembers
    (room : Nat) (members : List (Option String × Document))
    {values : List (String × Json)}
    (reads : anyMembers room members = .ok values) :
    ∀ entry ∈ values, entry.2.Ordered := by
  match members with
  | [] =>
      cases reads
      nofun
  | (none, _) :: _ =>
      cases reads
  | (some key, member) :: rest =>
      rw [anyMembers] at reads
      obtain ⟨value, first, later⟩ := bind_eq_ok_iff.1 reads
      obtain ⟨others, restRead, same⟩ := bind_eq_ok_iff.1 later
      cases same
      exact
        List.forall_mem_cons.2
          ⟨ordered_any room member first,
            ordered_anyMembers room rest restRead⟩
termination_by structural members

end

end Reader

/-- Whatever is read from a text is ordered. -/
theorem ordered_of_parse?
    {text : String} {value : Json} (parsed : parse? text = some value) :
    value.Ordered := by
  unfold parse? at parsed
  by_cases more : (Document.ofText text).2
  · simp [more] at parsed
  · simp only [more] at parsed
    cases reads : Reader.any initialRoom (Document.ofText text).1 with
    | error refusal =>
        rw [reads] at parsed
        cases parsed
    | ok read =>
        rw [reads] at parsed
        cases parsed
        exact Reader.ordered_any initialRoom _ reads

end PodTelemetry.Json

import PodTelemetry.Json.Shape
import PodTelemetry.Proofs.Extends
import PodTelemetry.Proofs.Json.Transfer

/-!
# Reading changed documents

A document from which a value was read may hold more than that value: members
that nobody knows, and nulls.  `Follows` says that a change of the value
carries over to every such document: the differences between what is written
of the old value and of the new one transfer, and the new value is read from
the result.  The rules go from the members of a record, the items of a list
and the entries of a dictionary to the whole.
-/

namespace PodTelemetry.Json

open Entries (Ascending)

namespace Decoder

variable {α β : Type}

/-! ## Results -/

theorem map_eq_ok_iff
    {first : Except DecodeError α} {change : α → β} {result : β} :
    first.map change = .ok result ↔
      ∃ value, first = .ok value ∧ change value = result := by
  cases first with
  | error error =>
      simp [Except.map]
  | ok value =>
      simp [Except.map]

theorem members_eq_ok_iff
    {expected : String} {document : Json}
    {found : List (String × Json)} :
    Decoder.members expected document = .ok found ↔
      document = .object found := by
  cases document <;> simp [Decoder.members]

/-! ## Members -/

theorem optional_congr
    {members next : List (String × Json)} {key : String}
    (same : Entries.read key next = Entries.read key members)
    (decode : Decoder α) :
    Decoder.optional next key decode =
      Decoder.optional members key decode := by
  unfold Decoder.optional
  rw [same]

theorem defaulted_congr
    [Inhabited α] {members next : List (String × Json)} {key : String}
    (same : Entries.read key next = Entries.read key members)
    (decode : Decoder α) :
    Decoder.defaulted next key decode =
      Decoder.defaulted members key decode := by
  unfold Decoder.defaulted
  rw [optional_congr same]

theorem constant_congr
    {members next : List (String × Json)} {key : String}
    (same : Entries.read key next = Entries.read key members)
    (text expected : String) :
    Decoder.constant next key text expected =
      Decoder.constant members key text expected := by
  unfold Decoder.constant
  rw [same]

/-- What is carried along is known by its readings. -/
theorem get?_carried
    {members : List (String × Json)} (ascending : Ascending members)
    (keys : List String) (key : String) :
    (Decoder.carried members keys).get? key =
      (Entries.read key members).filter fun value =>
        value ≠ .null ∧ key ∈ keys := by
  have inOrder :
      Ascending
        (members.filter fun member =>
          member.2 ≠ .null ∧ member.1 ∈ keys) :=
    List.Pairwise.filter _ ascending
  rw [Decoder.carried, Dictionary.get?_ofList,
    Entries.readLast_of_ascending inOrder, Entries.read_filter ascending]

/-- A change of other members leaves what is carried along as it is. -/
theorem carried_congr
    {members next : List (String × Json)} {changed keys : List String}
    (ordered : (Json.object members).Ordered)
    (nextOrdered : (Json.object next).Ordered)
    (kept :
      ∀ key, key ∉ changed →
        Entries.read key next = Entries.read key members)
    (apart : ∀ key ∈ keys, key ∉ changed) :
    Decoder.carried next keys = Decoder.carried members keys := by
  apply Dictionary.eq_of_get?_eq
  intro key
  rw [get?_carried (ordered_object_iff.1 ordered).1,
    get?_carried (ordered_object_iff.1 nextOrdered).1]
  by_cases known : key ∈ keys
  · rw [kept key (apart key known)]
  · simp [known]

theorem ordered_carried
    {members : List (String × Json)}
    (ordered : (Json.object members).Ordered) (keys : List String) :
    ∀ entry ∈ (Decoder.carried members keys).entries,
      entry.2.Ordered := by
  intro entry member
  have kept := List.mem_filter.1 (Entries.mem_of_mem_sorted member)
  exact (ordered_object_iff.1 ordered).2 entry kept.1

/-! ## Shapes of members carried along -/

theorem check_eq_ok_iff
    {fields : Fields} {members : List (String × Json)} :
    fields.check members = .ok () ↔
      ∀ field ∈ fields,
        ∃ found, Decoder.optional members field.1 field.2 = .ok found := by
  induction fields with
  | nil =>
      simp [Fields.check]
  | cons field rest inductionHypothesis =>
      rw [Fields.check, bind_eq_ok_iff, List.forall_mem_cons,
        inductionHypothesis, exists_and_right]

theorem check_append_eq_ok_iff
    {first second : Fields} {members : List (String × Json)} :
    Fields.check (first ++ second) members = .ok () ↔
      first.check members = .ok () ∧ second.check members = .ok () := by
  simp only [check_eq_ok_iff, List.forall_mem_append]

/-- A change of other members leaves the shapes of the carried ones. -/
theorem check_of_kept
    {members next : List (String × Json)} {changed : List String}
    {fields : Fields}
    (kept :
      ∀ key, key ∉ changed →
        Entries.read key next = Entries.read key members)
    (apart : ∀ key ∈ fields.keys, key ∉ changed)
    (fits : fields.check members = .ok ()) :
    fields.check next = .ok () := by
  refine check_eq_ok_iff.2 fun field member => ?_
  have same := kept field.1 (apart field.1 (List.mem_map_of_mem member))
  rw [optional_congr same]
  exact check_eq_ok_iff.1 fits field member

theorem check_of_absent
    {fields : Fields} {members : List (String × Json)}
    (absent : ∀ key ∈ fields.keys, Entries.read key members = none) :
    fields.check members = .ok () := by
  refine check_eq_ok_iff.2 fun field member => ⟨none, ?_⟩
  rw [Decoder.optional, absent field.1 (List.mem_map_of_mem member)]

/-! ## Following changes -/

/-- Whatever is read from an ordered document is written in order. -/
def Orderly (decode : Decoder α) (encode : α → Json) : Prop :=
  ∀ document value,
    document.Ordered → decode document = .ok value → (encode value).Ordered

/-- A change of the value carries over to every document that it is read
from. -/
def Follows (decode : Decoder α) (encode : α → Json) (old new : α) : Prop :=
  ∀ document,
    document.Ordered → decode document = .ok old →
      ∃ result,
        Transfers (encode old) (encode new) document result ∧
        decode result = .ok new

theorem Follows.refl
    {decode : Decoder α} {encode : α → Json}
    (orderly : Orderly decode encode) (value : α) :
    Follows decode encode value value := by
  intro document ordered decoded
  exact
    ⟨document,
      Transfers.refl (orderly document value ordered decoded) ordered,
      decoded⟩

/-- What is written of the value is in order, and the value is read back from
it. -/
structure Readable (decode : Decoder α) (encode : α → Json) (value : α) :
    Prop where
  ordered : (encode value).Ordered
  back : decode (encode value) = .ok value

/-- How an optional value may change: it stays, comes, or changes within. -/
inductive OptionFollows (decode : Decoder α) (encode : α → Json) :
    (old new : Option α) → Prop
  | kept (orderly : Orderly decode encode) (value : Option α) :
      OptionFollows decode encode value value
  | added {value : α} (ordered : (encode value).Ordered)
      (notNull : encode value ≠ .null)
      (back : decode (encode value) = .ok value) :
      OptionFollows decode encode none (some value)
  | changed {old new : α} (follows : Follows decode encode old new) :
      OptionFollows decode encode (some old) (some new)

theorem optional_eq_some_iff
    {members : List (String × Json)} {key : String}
    {decode : Decoder α} {value : α} :
    Decoder.optional members key decode = .ok (some value) ↔
      ∃ found,
        Entries.read key members = some found ∧ found ≠ .null ∧
        decode found = .ok value := by
  unfold Decoder.optional
  cases found : Entries.read key members with
  | none =>
      simp
  | some given =>
      cases given <;> simp [Decoder.nullable, map_eq_ok_iff]

theorem Orderly.optional
    {decode : Decoder α} {encode : α → Json}
    (orderly : Orderly decode encode)
    {members : List (String × Json)} {key : String}
    (ordered : (Json.object members).Ordered) {value : Option α}
    (decoded : Decoder.optional members key decode = .ok value) :
    ∀ given, value = some given → (encode given).Ordered := by
  intro given isValue
  subst isValue
  obtain ⟨found, isFound, _, reads⟩ := optional_eq_some_iff.1 decoded
  exact orderly found given (ordered_of_read ordered isFound) reads

theorem Orderly.defaulted
    [Inhabited α] {decode : Decoder α} {encode : α → Json}
    (orderly : Orderly decode encode)
    (plain : (encode default).Ordered)
    {members : List (String × Json)} {key : String}
    (ordered : (Json.object members).Ordered) {value : α}
    (decoded : Decoder.defaulted members key decode = .ok value) :
    (encode value).Ordered := by
  obtain ⟨found, reads, isValue⟩ := map_eq_ok_iff.1 decoded
  cases found with
  | none =>
      rw [← isValue]
      exact plain
  | some given =>
      rw [← isValue]
      exact orderly.optional ordered reads given rfl

/-- A reader that takes no null takes none from an optional member. -/
theorem OptionFollows.member
    {decode : Decoder α} {encode : α → Json} {old new : Option α}
    (follows : OptionFollows decode encode old new)
    (refusesNull : ∀ value, decode .null ≠ .ok value)
    {members : List (String × Json)} {key : String}
    (ordered : (Json.object members).Ordered)
    (decoded : Decoder.optional members key decode = .ok old) :
    ∃ result,
      MemberTransfers (old.map encode) (new.map encode)
        (Entries.read key members) result ∧
      ∀ next, Entries.read key next = result →
        Decoder.optional next key decode = .ok new := by
  cases follows with
  | kept orderly =>
      refine ⟨Entries.read key members, .kept ?_, fun next same => ?_⟩
      · intro given isGiven
        obtain ⟨value, isOld, rfl⟩ := Option.map_eq_some_iff.1 isGiven
        exact orderly.optional ordered decoded value isOld
      · rw [optional_congr same]
        exact decoded
  | @added value valueOrdered notNull back =>
      refine
        ⟨some (encode value), .added _ valueOrdered, fun next same => ?_⟩
      exact optional_eq_some_iff.2 ⟨encode value, same, notNull, back⟩
  | @changed old new follows =>
      obtain ⟨found, isFound, _, reads⟩ := optional_eq_some_iff.1 decoded
      obtain ⟨result, transfers, back⟩ :=
        follows found (ordered_of_read ordered isFound) reads
      rw [isFound]
      refine ⟨some result, .changed transfers, fun next same => ?_⟩
      refine optional_eq_some_iff.2 ⟨result, same, ?_, back⟩
      intro isNull
      exact refusesNull new (isNull ▸ back)

/-- A value other than the default has been written, so that a change of it
has its place. -/
theorem Follows.member
    [Inhabited α] {decode : Decoder α} {encode : α → Json} {old new : α}
    (follows : Follows decode encode old new)
    (refusesNull : ∀ value, decode .null ≠ .ok value)
    (given : old ≠ default)
    {members : List (String × Json)} {key : String}
    (ordered : (Json.object members).Ordered)
    (decoded : Decoder.defaulted members key decode = .ok old) :
    ∃ result,
      MemberTransfers (some (encode old)) (some (encode new))
        (Entries.read key members) result ∧
      ∀ next, Entries.read key next = result →
        Decoder.defaulted next key decode = .ok new := by
  obtain ⟨value, reads, isOld⟩ := map_eq_ok_iff.1 decoded
  cases value with
  | none =>
      exact absurd isOld.symm given
  | some value =>
      have same : value = old := isOld
      subst same
      obtain ⟨result, part, back⟩ :=
        (OptionFollows.changed follows).member refusesNull ordered reads
      refine ⟨result, part, fun next isResult => ?_⟩
      exact map_eq_ok_iff.2 ⟨some new, back next isResult, rfl⟩

/-! ## Written members -/

@[simp]
theorem readLast_optionalMember
    (key name : String) (encode : α → Json) (value : Option α) :
    Entries.readLast key (optionalMember name encode value) =
      if name = key then value.map encode else none := by
  cases value with
  | none =>
      simp [optionalMember]
  | some given =>
      simp [optionalMember]

@[simp]
theorem read_optionalMember
    (key name : String) (encode : α → Json) (value : Option α) :
    Entries.read key (optionalMember name encode value) =
      if name = key then value.map encode else none := by
  cases value with
  | none =>
      simp [optionalMember]
  | some given =>
      simp [optionalMember, Entries.read]

theorem optional_written
    {decode : Decoder α} (encode : α → Json) {value : Option α}
    {members : List (String × Json)} {key : String}
    (found : Entries.read key members = value.map encode)
    (refusesNull : ∀ given, decode .null ≠ .ok given)
    (back : ∀ given, decode (encode given) = .ok given) :
    Decoder.optional members key decode = .ok value := by
  cases value with
  | none =>
      rw [Decoder.optional, found]
      rfl
  | some given =>
      refine optional_eq_some_iff.2 ⟨encode given, found, ?_, back given⟩
      intro isNull
      exact refusesNull given (isNull ▸ back given)

theorem defaulted_written
    [Inhabited α] {decode : Decoder α} (encode : α → Json) {value : α}
    {members : List (String × Json)} {key : String}
    (found : Entries.read key members = some (encode value))
    (refusesNull : ∀ given, decode .null ≠ .ok given)
    (back : decode (encode value) = .ok value) :
    Decoder.defaulted members key decode = .ok value := by
  refine map_eq_ok_iff.2 ⟨some value, ?_, rfl⟩
  refine optional_eq_some_iff.2 ⟨encode value, found, ?_, back⟩
  intro isNull
  exact refusesNull value (isNull ▸ back)

/-- What is carried along is not among the other members. -/
theorem readLast_carried
    {members : List (String × Json)} {keys : List String} {key : String}
    {carried : Dictionary Json}
    (ordered : (Json.object members).Ordered)
    (isCarried : Decoder.carried members keys = carried)
    (other : key ∉ keys) :
    Entries.readLast key carried.entries = none := by
  have absent : (Decoder.carried members keys).get? key = none := by
    rw [get?_carried (ordered_object_iff.1 ordered).1]
    simp [other]
  rw [Entries.readLast_of_ascending carried.ascending, ← isCarried]
  exact absent

/-! ## Lists -/

theorem mapM_cons_eq_ok_iff
    {decode : Decoder α} {item : Json} {items : List Json}
    {values : List α} :
    (item :: items).mapM decode = .ok values ↔
      ∃ value rest,
        decode item = .ok value ∧ items.mapM decode = .ok rest ∧
        values = value :: rest := by
  rw [List.mapM_cons]
  constructor
  · intro decoded
    obtain ⟨value, first, later⟩ := bind_eq_ok_iff.1 decoded
    obtain ⟨rest, others, same⟩ := bind_eq_ok_iff.1 later
    exact ⟨value, rest, first, others, (Except.ok.inj same).symm⟩
  · rintro ⟨value, rest, first, others, rfl⟩
    rw [first, others]
    rfl

theorem mapM_map_encode
    {decode : Decoder α} {encode : α → Json} {values : List α}
    (back : ∀ value ∈ values, decode (encode value) = .ok value) :
    (values.map encode).mapM decode = .ok values := by
  induction values with
  | nil =>
      rfl
  | cons value rest inductionHypothesis =>
      rw [List.forall_mem_cons] at back
      rw [List.map_cons]
      exact
        mapM_cons_eq_ok_iff.2
          ⟨value, rest, back.1, inductionHypothesis back.2, rfl⟩

theorem list_eq_ok_iff
    {decode : Decoder α} {document : Json} {values : List α} :
    Decoder.list decode document = .ok values ↔
      ∃ items, document = .array items ∧ items.mapM decode = .ok values := by
  cases document <;> simp [Decoder.list]

theorem list_null
    (decode : Decoder α) (values : List α) :
    Decoder.list decode .null ≠ .ok values := nofun

theorem Orderly.items
    {decode : Decoder α} {encode : α → Json}
    (orderly : Orderly decode encode)
    {items : List Json} (ordered : ∀ item ∈ items, item.Ordered)
    {values : List α} (decoded : items.mapM decode = .ok values) :
    ∀ value ∈ values, (encode value).Ordered := by
  induction items generalizing values with
  | nil =>
      have empty : values = [] := (Except.ok.inj decoded).symm
      simp [empty]
  | cons item rest inductionHypothesis =>
      rw [List.forall_mem_cons] at ordered
      obtain ⟨value, others, first, later, rfl⟩ :=
        mapM_cons_eq_ok_iff.1 decoded
      exact
        List.forall_mem_cons.2
          ⟨orderly item value ordered.1 first,
            inductionHypothesis ordered.2 later⟩

theorem Orderly.list
    {decode : Decoder α} {encode : α → Json}
    (orderly : Orderly decode encode) :
    Orderly (Decoder.list decode) (ofList encode) := by
  intro document values ordered decoded
  obtain ⟨items, rfl, reads⟩ := list_eq_ok_iff.1 decoded
  exact ordered_ofList (orderly.items (ordered_array_iff.1 ordered) reads)

/-- New items may come at the end when they are read back from what is
written of them. -/
theorem Follows.items
    {decode : Decoder α} {encode : α → Json} {changes : α → α → Prop}
    (follow :
      ∀ {old new}, changes old new → Follows decode encode old new)
    {olds news : List α}
    (extended : Extends changes (Readable decode encode) olds news)
    {items : List Json} (ordered : ∀ item ∈ items, item.Ordered)
    (decoded : items.mapM decode = .ok olds) :
    ∃ results,
      ItemsTransfer (olds.map encode) (news.map encode) items results ∧
      results.mapM decode = .ok news := by
  induction extended generalizing items with
  | @added added readable =>
      have empty : items = [] := by
        cases items with
        | nil =>
            rfl
        | cons item rest =>
            obtain ⟨_, _, _, _, impossible⟩ := mapM_cons_eq_ok_iff.1 decoded
            cases impossible
      subst empty
      refine ⟨added.map encode, .added ?_, mapM_map_encode ?_⟩
      · intro item member
        obtain ⟨source, sourceMember, rfl⟩ := List.mem_map.1 member
        exact (readable source sourceMember).ordered
      · exact fun item member => (readable item member).back
  | @changed old new olds news change _ inductionHypothesis =>
      cases items with
      | nil =>
          cases decoded
      | cons item rest =>
          rw [List.forall_mem_cons] at ordered
          obtain ⟨value, others, reads, later, same⟩ :=
            mapM_cons_eq_ok_iff.1 decoded
          obtain ⟨rfl, rfl⟩ := List.cons.inj same
          obtain ⟨result, transfers, firstBack⟩ :=
            follow change item ordered.1 reads
          obtain ⟨results, parts, othersBack⟩ :=
            inductionHypothesis ordered.2 later
          exact
            ⟨result :: results, .changed transfers parts,
              mapM_cons_eq_ok_iff.2 ⟨new, news, firstBack, othersBack, rfl⟩⟩

theorem Follows.list
    {decode : Decoder α} {encode : α → Json} {changes : α → α → Prop}
    (follow :
      ∀ {old new}, changes old new → Follows decode encode old new)
    {olds news : List α}
    (extended : Extends changes (Readable decode encode) olds news) :
    Follows (Decoder.list decode) (ofList encode) olds news := by
  intro document ordered decoded
  obtain ⟨items, rfl, reads⟩ := list_eq_ok_iff.1 decoded
  obtain ⟨results, parts, resultsRead⟩ :=
    Follows.items follow extended (ordered_array_iff.1 ordered) reads
  exact
    ⟨.array results, Transfers.array parts,
      list_eq_ok_iff.2 ⟨results, rfl, resultsRead⟩⟩

theorem OptionFollows.list
    {decode : Decoder α} {encode : α → Json} {changes : α → α → Prop}
    (orderly : Orderly decode encode)
    (follow :
      ∀ {old new}, changes old new → Follows decode encode old new)
    {old new : Option (List α)}
    (grown : Grown changes (Readable decode encode) old new) :
    OptionFollows (Decoder.list decode) (ofList encode) old new := by
  rcases grown with rfl | ⟨items, rfl, extended⟩
  · exact .kept orderly.list new
  · cases old with
    | none =>
        cases extended with
        | added readable =>
            refine .added (ordered_ofList ?_) nofun ?_
            · exact fun item member => (readable item member).ordered
            · refine list_eq_ok_iff.2 ⟨items.map encode, rfl, ?_⟩
              exact
                mapM_map_encode fun item member => (readable item member).back
    | some olds =>
        exact .changed (Follows.list follow extended)

theorem OptionFollows.list_of_eq
    {decode : Decoder α} {encode : α → Json}
    (orderly : Orderly decode encode) {old new : Option (List α)}
    (grown : Grown Eq (Readable decode encode) old new) :
    OptionFollows (Decoder.list decode) (ofList encode) old new := by
  apply OptionFollows.list orderly _ grown
  rintro item _ rfl
  exact Follows.refl orderly item

/-! ## Dictionaries of texts -/

theorem string_eq_ok_iff {document : Json} {text : String} :
    Decoder.string document = .ok text ↔ document = .string text := by
  cases document <;> simp [Decoder.string]

theorem mapM_texts_eq_ok_iff
    {members : List (String × Json)} {entries : List (String × String)} :
    (members.mapM fun member => do
        let decoded ← Decoder.string member.2
        return (member.1, decoded)) = .ok entries ↔
      members = entries.map fun entry => (entry.1, .string entry.2) := by
  induction members generalizing entries with
  | nil =>
      constructor
      · intro decoded
        rw [← Except.ok.inj decoded]
        rfl
      · intro same
        rw [List.map_eq_nil_iff.1 same.symm]
        rfl
  | cons member rest inductionHypothesis =>
      rw [List.mapM_cons]
      constructor
      · intro decoded
        obtain ⟨entry, first, later⟩ := bind_eq_ok_iff.1 decoded
        obtain ⟨text, isText, isEntry⟩ := bind_eq_ok_iff.1 first
        obtain ⟨others, restDecoded, same⟩ := bind_eq_ok_iff.1 later
        rw [← Except.ok.inj same, ← Except.ok.inj isEntry, List.map_cons,
          ← inductionHypothesis.1 restDecoded,
          ← string_eq_ok_iff.1 isText]
      · intro same
        cases entries with
        | nil =>
            cases same
        | cons entry others =>
            obtain ⟨rfl, isRest⟩ := List.cons.inj same
            rw [inductionHypothesis.2 isRest]
            rfl

theorem string_ne_null (text : String) : Json.string text ≠ .null := by
  intro same
  cases same

theorem string_null (text : String) :
    Decoder.string .null ≠ .ok text := by
  intro decoded
  cases decoded

theorem string_orderly : Orderly Decoder.string .string :=
  fun _ text _ _ => ordered_string text

theorem Follows.string (old new : String) :
    Follows Decoder.string .string old new := by
  by_cases same : old = new
  · subst same
    exact Follows.refl string_orderly old
  · intro document _ _
    have differ : Json.string old ≠ .string new :=
      fun equal => same (Json.string.inj equal)
    exact ⟨.string new, Transfers.string differ document, rfl⟩

/-- An ordered document that a dictionary of texts is read from is what is
written of it. -/
theorem texts_eq_ok_iff
    {document : Json} (ordered : document.Ordered)
    {texts : Dictionary String} :
    Decoder.dictionary Decoder.string document = .ok texts ↔
      document = ofDictionary .string texts := by
  constructor
  · intro decoded
    cases document with
    | object members =>
        obtain ⟨entries, reads, same⟩ := bind_eq_ok_iff.1 decoded
        have isMembers := mapM_texts_eq_ok_iff.1 reads
        have ascending : Ascending entries := by
          have inOrder := (ordered_object_iff.1 ordered).1
          rw [isMembers] at inOrder
          exact Entries.ascending_map_iff.1 inOrder
        have isEntries : texts.entries = entries := by
          rw [← Except.ok.inj same]
          exact Entries.sorted_of_ascending ascending
        rw [ofDictionary, isEntries, isMembers]
    | null | bool _ | number _ | string _ | array _ =>
        cases decoded
  · intro same
    subst same
    refine bind_eq_ok_iff.2 ⟨texts.entries, mapM_texts_eq_ok_iff.2 rfl, ?_⟩
    rw [Dictionary.ofList_entries]
    rfl

private theorem text_member
    (old new : Option String) :
    MemberTransfers (old.map Json.string) (new.map Json.string)
      (old.map Json.string) (new.map Json.string) := by
  cases new with
  | none =>
      cases old with
      | none =>
          exact .kept nofun
      | some oldText =>
          exact .removed (.string oldText) (.string oldText)
  | some text =>
      cases old with
      | none =>
          exact .added _ (ordered_string text)
      | some oldText =>
          by_cases same : oldText = text
          · subst same
            refine .kept fun given isGiven => ?_
            rw [← Option.some.inj isGiven]
            exact ordered_string oldText
          · have differ : Json.string oldText ≠ .string text :=
              fun equal => same (Json.string.inj equal)
            exact .changed (Transfers.string differ (.string oldText))

/-- Every change of a dictionary of texts carries over. -/
theorem Follows.texts (old new : Dictionary String) :
    Follows (Decoder.dictionary Decoder.string) (ofDictionary .string)
      old new := by
  intro document ordered decoded
  have isOld := (texts_eq_ok_iff ordered).1 decoded
  subst isOld
  have newOrder := (ordered_object_iff.1 (ordered_ofTexts new)).1
  obtain ⟨result, transfers, reads⟩ :=
    Transfers.object (fun key => (new.get? key).map .string)
      (ordered_object_iff.1 ordered).1 newOrder ordered fun key => by
        rw [Entries.read_map, Entries.read_map]
        exact text_member (old.get? key) (new.get? key)
  have isNew :
      result = new.entries.map fun entry => (entry.1, .string entry.2) := by
    refine
      Entries.eq_of_read_eq (ordered_object_iff.1 transfers.ordered).1
        newOrder fun key => ?_
    rw [reads, Entries.read_map]
    rfl
  exact
    ⟨.object result, transfers,
      (texts_eq_ok_iff transfers.ordered).2 (by rw [isNew, ofDictionary])⟩

end Decoder

end PodTelemetry.Json

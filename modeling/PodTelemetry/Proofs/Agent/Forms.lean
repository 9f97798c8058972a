import PodTelemetry.Proofs.Agent.RoundTrip

/-!
# Records in keyed and in positional form

The two forms take different ways through a reader and fail with different
errors.  They are read as the same values: an array is a record whose last
fields may be missing, an object one whose members may have other names.
-/

namespace PodTelemetry.Json

variable {α β : Type}

/-! ## Results up to errors -/

/-- The same values come out, whatever the errors. -/
def SameReading (first second : Except DecodeError α) : Prop :=
  ∀ value, first = .ok value ↔ second = .ok value

namespace SameReading

theorem refl (result : Except DecodeError α) : SameReading result result :=
  fun _ => Iff.rfl

theorem of_error (first second : DecodeError) :
    SameReading (.error first : Except DecodeError α) (.error second) :=
  fun _ => by simp

theorem bind
    {first second : Except DecodeError α}
    {next other : α → Except DecodeError β}
    (same : SameReading first second)
    (sameNext : ∀ value, SameReading (next value) (other value)) :
    SameReading (first >>= next) (second >>= other) := by
  intro result
  rw [bind_eq_ok_iff, bind_eq_ok_iff]
  exact
    exists_congr fun value => and_congr (same value) (sameNext value result)

end SameReading

/-! ## Members in any order -/

/-- The members give the items the names of the fields, in order; there may be
members of other names. -/
def Spells
    (fields : List String) (items : List Json)
    (members : List (String × Json)) : Prop :=
  ∃ others : List (String × Json),
    members.Perm (fields.zip items ++ others) ∧
    ∀ other ∈ others, other.1 ∉ fields

theorem mem_zip_iff
    {fields : List String} (distinct : fields.Nodup) {items : List Json}
    {index : Nat} {key : String} (isKey : fields[index]? = some key)
    (item : Json) :
    (key, item) ∈ fields.zip items ↔ items[index]? = some item := by
  rw [List.mem_iff_getElem?]
  constructor
  · rintro ⟨place, isEntry⟩
    obtain ⟨isName, isItem⟩ := List.getElem?_zip_eq_some.1 isEntry
    have inRange := (List.getElem?_eq_some_iff.1 isName).1
    have same : place = index :=
      (List.getElem?_inj inRange distinct).1 (isName.trans isKey.symm)
    rw [← same]
    exact isItem
  · intro isItem
    exact ⟨index, List.getElem?_zip_eq_some.2 ⟨isKey, isItem⟩⟩

/-- A field that is named once is read, whatever the order. -/
theorem Spells.read
    {fields : List String} {items : List Json}
    {members : List (String × Json)}
    (spells : Spells fields items members) (distinct : fields.Nodup)
    {index : Nat} {key : String} (isKey : fields[index]? = some key) :
    Entries.read key members = items[index]? := by
  obtain ⟨others, isMembers, unknown⟩ := spells
  have mem_iff (item : Json) :
      (key, item) ∈ members ↔ items[index]? = some item := by
    rw [isMembers.mem_iff, List.mem_append, mem_zip_iff distinct isKey]
    refine or_iff_left fun other => ?_
    exact unknown _ other (List.mem_of_getElem? isKey)
  cases found : Entries.read key members with
  | some item =>
      exact ((mem_iff item).1 (Entries.mem_of_read found)).symm
  | none =>
      cases isItem : items[index]? with
      | none =>
          rfl
      | some item =>
          have member := (mem_iff item).2 isItem
          exact absurd rfl (Entries.read_eq_none_iff.1 found _ member)

/-! ## The parts of a record -/

namespace Form

variable {fields : List String} {items : List Json}
variable {members : List (String × Json)}

/-- A field is read alike in both forms. -/
theorem field_eq_of_spells
    (spells : Spells fields items members) (distinct : fields.Nodup)
    (index : Nat) (key : String) (isKey : fields[index]? = some key)
    (decode : Decoder α) :
    (keyed members).field index key decode =
      (positional items).field index key decode := by
  simp only [field, written, spells.read distinct isKey]

theorem forM_eq_ok_iff
    {results : List (String × Except DecodeError Unit)} :
    (results.forM fun result => result.2) = .ok () ↔
      ∀ result ∈ results, result.2 = .ok () := by
  constructor
  · induction results with
    | nil =>
        simp
    | cons result rest inductionHypothesis =>
        intro areRead
        obtain ⟨⟨⟩, isRead, restRead⟩ := bind_eq_ok_iff.1 areRead
        rw [List.forall_mem_cons]
        exact ⟨isRead, inductionHypothesis restRead⟩
  · exact forM_eq_ok

theorem mem_sorted_iff
    {results : List (String × Except DecodeError Unit)}
    (distinct : (results.map Prod.fst).Nodup)
    (result : String × Except DecodeError Unit) :
    result ∈ Entries.sorted results ↔ result ∈ results := by
  rw [Entries.mem_iff_read (Entries.ascending_sorted results),
    Entries.read_sorted, Entries.readLast_eq_some_iff distinct]

/-- In whatever order errors are looked for, there is one or there is none. -/
theorem sameReading_settle
    {results : List (String × Except DecodeError Unit)}
    (distinct : (results.map Prod.fst).Nodup) (first second : Form) :
    SameReading (first.settle results) (second.settle results) := by
  have settled (form : Form) :
      form.settle results = .ok () ↔
        ∀ result ∈ results, result.2 = .ok () := by
    cases form with
    | keyed _ =>
        rw [settle, forM_eq_ok_iff]
        simp only [mem_sorted_iff distinct]
    | positional _ =>
        exact forM_eq_ok_iff
  rintro ⟨⟩
  rw [settled, settled]

theorem sameReading_required
    (first second : Form) (expected key : String) (value : Option α) :
    SameReading (first.required expected key value)
      (second.required expected key value) := by
  cases value with
  | some given =>
      exact SameReading.refl _
  | none =>
      cases first <;> cases second <;> exact SameReading.of_error _ _

theorem sameReading_bounded
    {count : Nat} (fits : items.length ≤ count) :
    SameReading ((positional items).bounded count)
      ((keyed members).bounded count) := by
  simp only [bounded, if_pos fits]
  exact SameReading.refl _

theorem length_le_of_bounded
    {count : Nat} (fits : (positional items).bounded count = .ok ()) :
    items.length ≤ count := by
  by_contra more
  simp [bounded, more] at fits

/-! ## Records whose fields all have defaults -/

/-- What is left of reading a record once its fields were read. -/
def finished
    (form : Form) (results : List (String × Except DecodeError Unit))
    (count : Nat) (record : Except DecodeError α) : Except DecodeError α := do
  form.settle results
  form.bounded count
  record

theorem sameReading_finished
    {results : List (String × Except DecodeError Unit)}
    (distinct : (results.map Prod.fst).Nodup) {count : Nat}
    (fits : items.length ≤ count) (record : Except DecodeError α) :
    SameReading ((positional items).finished results count record)
      ((keyed members).finished results count record) := by
  refine (sameReading_settle distinct _ _).bind fun _ => ?_
  exact (sameReading_bounded fits).bind fun _ => SameReading.refl _

theorem length_le_of_finished
    {results : List (String × Except DecodeError Unit)} {count : Nat}
    {record : Except DecodeError α} {value : α}
    (decoded :
      (positional items).finished results count record = .ok value) :
    items.length ≤ count := by
  obtain ⟨_, _, later⟩ := bind_eq_ok_iff.1 decoded
  obtain ⟨_, fits, _⟩ := bind_eq_ok_iff.1 later
  exact length_le_of_bounded fits

end Form

end PodTelemetry.Json

namespace PodTelemetry.Agent

open PodTelemetry.Json (Decoder Form SameReading Spells bind_eq_ok_iff)

variable {α : Type}

/-! ## Records of the agent -/

/-- An array with a value for each of the first fields is read as the object
with these fields is, and no array has more items than there are fields. -/
structure FormsAgree (decode : Decoder α) (fields : List String) : Prop where
  agree :
    ∀ items members,
      items.length ≤ fields.length → Spells fields items members →
        SameReading (decode (.array items)) (decode (.object members))
  bounded :
    ∀ items value,
      decode (.array items) = .ok value → items.length ≤ fields.length

theorem CollectorSpec.formsAgree :
    FormsAgree CollectorSpec.ofJson
      ["enabled", "image", "config", "replicas"] where
  agree := by
    intro items members fits spells
    have distinct : ["enabled", "image", "config", "replicas"].Nodup := by
      decide
    simp only [ofJson, Form.ofJson, Form.ok_bind,
      Form.field_eq_of_spells spells distinct 0 "enabled" rfl,
      Form.field_eq_of_spells spells distinct 1 "image" rfl,
      Form.field_eq_of_spells spells distinct 2 "config" rfl,
      Form.field_eq_of_spells spells distinct 3 "replicas" rfl]
    exact Form.sameReading_finished (by exact distinct) fits _
  bounded := fun _ _ decoded => Form.length_le_of_finished decoded

theorem AutoInstrumentation.formsAgree :
    FormsAgree AutoInstrumentation.ofJson ["image"] where
  agree := by
    intro items members fits spells
    have distinct : ["image"].Nodup := by
      decide
    simp only [ofJson, Form.ofJson, Form.ok_bind,
      Form.field_eq_of_spells spells distinct 0 "image" rfl]
    exact Form.sameReading_finished (by exact distinct) fits _
  bounded := fun _ _ decoded => Form.length_le_of_finished decoded

theorem Instrumentation.formsAgree :
    FormsAgree Instrumentation.ofJson ["java"] where
  agree := by
    intro items members fits spells
    have distinct : ["java"].Nodup := by
      decide
    simp only [ofJson, Form.ofJson, Form.ok_bind,
      Form.field_eq_of_spells spells distinct 0 "java" rfl]
    exact Form.sameReading_finished (by exact distinct) fits _
  bounded := fun _ _ decoded => Form.length_le_of_finished decoded

theorem AgentStatus.formsAgree :
    FormsAgree AgentStatus.ofJson ["version", "messages"] where
  agree := by
    intro items members fits spells
    have distinct : ["version", "messages"].Nodup := by
      decide
    simp only [ofJson, Form.ofJson, Form.ok_bind,
      Form.field_eq_of_spells spells distinct 0 "version" rfl,
      Form.field_eq_of_spells spells distinct 1 "messages" rfl]
    exact Form.sameReading_finished (by exact distinct) fits _
  bounded := fun _ _ decoded => Form.length_le_of_finished decoded

theorem AgentSpec.formsAgree :
    FormsAgree AgentSpec.ofJson
      ["clusterName", "realm", "instrumentation", "agent", "clusterReceiver",
        "gateway"] where
  agree := by
    intro items members fits spells
    have distinct :
        ["clusterName", "realm", "instrumentation", "agent",
          "clusterReceiver", "gateway"].Nodup := by
      decide
    simp only [ofJson, Form.ofJson, Form.ok_bind,
      Form.field_eq_of_spells spells distinct 0 "clusterName" rfl,
      Form.field_eq_of_spells spells distinct 1 "realm" rfl,
      Form.field_eq_of_spells spells distinct 2 "instrumentation" rfl,
      Form.field_eq_of_spells spells distinct 3 "agent" rfl,
      Form.field_eq_of_spells spells distinct 4 "clusterReceiver" rfl,
      Form.field_eq_of_spells spells distinct 5 "gateway" rfl]
    refine
      (Form.sameReading_settle (by exact distinct) _ _).bind fun _ => ?_
    refine (SameReading.refl _).bind fun _ => ?_
    refine (Form.sameReading_required _ _ _ _ _).bind fun _ => ?_
    refine (SameReading.refl _).bind fun _ => ?_
    refine (Form.sameReading_required _ _ _ _ _).bind fun _ => ?_
    exact (Form.sameReading_bounded fits).bind fun _ => SameReading.refl _
  bounded := by
    intro items value decoded
    simp only [ofJson, Form.ofJson, Form.ok_bind] at decoded
    obtain ⟨_, _, afterFields⟩ := bind_eq_ok_iff.1 decoded
    obtain ⟨_, _, nameRead⟩ := bind_eq_ok_iff.1 afterFields
    obtain ⟨_, _, afterName⟩ := bind_eq_ok_iff.1 nameRead
    obtain ⟨_, _, realmRead⟩ := bind_eq_ok_iff.1 afterName
    obtain ⟨_, _, afterRealm⟩ := bind_eq_ok_iff.1 realmRead
    obtain ⟨_, fits, _⟩ := bind_eq_ok_iff.1 afterRealm
    exact Form.length_le_of_bounded fits

/-- The records of the agent are read alike in both forms: with their nested
records in either form, with members of other names, and with any JSON value in
the place of a field. -/
theorem agentData_formsAgree :
    FormsAgree AgentSpec.ofJson
      ["clusterName", "realm", "instrumentation", "agent", "clusterReceiver",
        "gateway"] ∧
    FormsAgree CollectorSpec.ofJson
      ["enabled", "image", "config", "replicas"] ∧
    FormsAgree Instrumentation.ofJson ["java"] ∧
    FormsAgree AutoInstrumentation.ofJson ["image"] ∧
    FormsAgree AgentStatus.ofJson ["version", "messages"] :=
  ⟨AgentSpec.formsAgree, CollectorSpec.formsAgree,
    Instrumentation.formsAgree, AutoInstrumentation.formsAgree,
    AgentStatus.formsAgree⟩

example :
    AgentSpec.ofJson
        (.array
          [.string "shop", .string "us0", .array [.array [.string "img:1"]],
            .object []]) =
      .ok
        { clusterName := "shop", realm := "us0"
          instrumentation := { java := { image := some "img:1" } } } := by
  rfl

end PodTelemetry.Agent

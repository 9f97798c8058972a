import PodTelemetry.Agent.Codec
import PodTelemetry.Proofs.Json.Decoding

/-!
# Agent data that is written and read again

Optional fields are left out when they have no value, lists when they are
empty, and what is left out is read as its default.  So every record is read
back from what is written of it, and what was read once in some other form is
read again from the form that is written.
-/

namespace PodTelemetry.Json.Form

variable {α : Type} {members : List (String × Json)} {key : String}

/-! ## Fields that were written -/

theorem forM_eq_ok
    {fields : List (String × Except DecodeError Unit)}
    (areRead : ∀ field ∈ fields, field.2 = .ok ()) :
    (fields.forM fun field => field.2) = .ok () := by
  induction fields with
  | nil =>
      rfl
  | cons field rest inductionHypothesis =>
      rw [List.forall_mem_cons] at areRead
      exact
        bind_eq_ok_iff.2 ⟨(), areRead.1, inductionHypothesis areRead.2⟩

theorem settle_of_ok
    (form : Form) {fields : List (String × Except DecodeError Unit)}
    (areRead : ∀ field ∈ fields, field.2 = .ok ()) :
    form.settle fields = .ok () := by
  cases form with
  | keyed members =>
      exact
        forM_eq_ok fun field member =>
          areRead field (Entries.mem_of_mem_sorted member)
  | positional items =>
      exact forM_eq_ok areRead

theorem field_written
    {decode : Decoder α} {value : α} (index : Nat) {written : Json}
    (found : Entries.read key members = some written)
    (back : decode written = .ok value) :
    (keyed members).field index key decode = .ok (some value) := by
  simp only [field, Form.written, found, back]
  rfl

theorem field_absent
    (decode : Decoder α) (index : Nat)
    (absent : Entries.read key members = none) :
    (keyed members).field index key decode = .ok none := by
  simp only [field, Form.written, absent]

/-- An optional field is left out just when it has no value. -/
theorem field_optional
    {decode : Decoder α} (encode : α → Json) {value : Option α}
    (index : Nat)
    (found : Entries.read key members = value.map encode)
    (back :
      ∀ given, Decoder.nullable decode (encode given) = .ok (some given)) :
    (keyed members).field index key (Decoder.nullable decode) =
      .ok (value.map some) := by
  cases value with
  | none =>
      exact field_absent _ index found
  | some given =>
      exact field_written index found (back given)

@[simp]
theorem ok_bind
    {β : Type} (value : α) (next : α → Except DecodeError β) :
    (Except.ok value >>= next) = next value := rfl

@[simp]
theorem outcome_ok (value : α) :
    outcome (.ok value : Except DecodeError α) = .ok () := rfl

@[simp]
theorem join_map_some (value : Option α) : (value.map some).join = value := by
  cases value <;> rfl

end PodTelemetry.Json.Form

namespace PodTelemetry.Agent

open PodTelemetry.Json (Decoder Form bind_eq_ok_iff)

/-! ## Records of the spec -/

theorem replicaCount_ofInt (count : Int32) :
    replicaCount (Json.ofInt count.toInt) = .ok count := by
  have lowest := count.le_toInt
  have highest := count.toInt_lt
  have inRange :
      -2147483648 ≤ count.toInt ∧ count.toInt ≤ 2147483647 := by
    omega
  simp only [replicaCount, Decoder.int32, Decoder.integer, Json.ofInt,
    if_pos inRange]
  exact congrArg Except.ok count.ofInt_toInt

theorem CollectorSpec.ofJson_toJson (collector : CollectorSpec) :
    CollectorSpec.ofJson collector.toJson = .ok collector := by
  let members :=
    Json.optionalMember "config" .string collector.config ++
    Json.optionalMember "enabled" .bool collector.enabled ++
    Json.optionalMember "image" .string collector.image ++
    Json.optionalMember "replicas" (fun count => Json.ofInt count.toInt)
      collector.replicas
  have enabled :
      (Form.keyed members).field 0 "enabled"
          (Decoder.nullable Decoder.bool) =
        .ok (collector.enabled.map some) :=
    Form.field_optional .bool 0 (by simp [members]) fun _ => rfl
  have image :
      (Form.keyed members).field 1 "image"
          (Decoder.nullable Decoder.string) =
        .ok (collector.image.map some) :=
    Form.field_optional .string 1 (by simp [members]) fun _ => rfl
  have config :
      (Form.keyed members).field 2 "config"
          (Decoder.nullable Decoder.string) =
        .ok (collector.config.map some) :=
    Form.field_optional .string 2 (by simp [members]) fun _ => rfl
  have replicas :
      (Form.keyed members).field 3 "replicas"
          (Decoder.nullable replicaCount) =
        .ok (collector.replicas.map some) := by
    refine
      Form.field_optional (fun count => Json.ofInt count.toInt) 3
        (by simp [members]) fun count => ?_
    exact
      Json.Decoder.map_eq_ok_iff.2 ⟨count, replicaCount_ofInt count, rfl⟩
  refine bind_eq_ok_iff.2 ⟨.keyed members, rfl, ?_⟩
  simp only [enabled, image, config, replicas]
  refine bind_eq_ok_iff.2 ⟨(), Form.settle_of_ok _ (by simp), ?_⟩
  refine bind_eq_ok_iff.2 ⟨(), rfl, ?_⟩
  simp only [Form.ok_bind, Form.join_map_some]
  rfl

theorem AutoInstrumentation.ofJson_toJson (language : AutoInstrumentation) :
    AutoInstrumentation.ofJson language.toJson = .ok language := by
  let members := Json.optionalMember "image" .string language.image
  have image :
      (Form.keyed members).field 0 "image"
          (Decoder.nullable Decoder.string) =
        .ok (language.image.map some) :=
    Form.field_optional .string 0 (by simp [members]) fun _ => rfl
  refine bind_eq_ok_iff.2 ⟨.keyed members, rfl, ?_⟩
  simp only [image]
  refine bind_eq_ok_iff.2 ⟨(), Form.settle_of_ok _ (by simp), ?_⟩
  refine bind_eq_ok_iff.2 ⟨(), rfl, ?_⟩
  simp only [Form.ok_bind, Form.join_map_some]
  rfl

theorem Instrumentation.ofJson_toJson (instrumentation : Instrumentation) :
    Instrumentation.ofJson instrumentation.toJson = .ok instrumentation := by
  have java :
      (Form.keyed [("java", instrumentation.java.toJson)]).field 0 "java"
          AutoInstrumentation.ofJson =
        .ok (some instrumentation.java) :=
    Form.field_written 0 rfl (AutoInstrumentation.ofJson_toJson _)
  refine bind_eq_ok_iff.2 ⟨.keyed _, rfl, ?_⟩
  simp only [java]
  refine bind_eq_ok_iff.2 ⟨(), Form.settle_of_ok _ (by simp), ?_⟩
  exact bind_eq_ok_iff.2 ⟨(), rfl, rfl⟩

theorem AgentSpec.ofJson_toJson (spec : AgentSpec) :
    AgentSpec.ofJson spec.toJson = .ok spec := by
  let members :=
    [("agent", spec.agent.toJson), ("clusterName", .string spec.clusterName),
      ("clusterReceiver", spec.clusterReceiver.toJson),
      ("gateway", spec.gateway.toJson),
      ("instrumentation", spec.instrumentation.toJson),
      ("realm", .string spec.realm)]
  have clusterName :
      (Form.keyed members).field 0 "clusterName" Decoder.string =
        .ok (some spec.clusterName) :=
    Form.field_written 0 rfl rfl
  have realm :
      (Form.keyed members).field 1 "realm" Decoder.string =
        .ok (some spec.realm) :=
    Form.field_written 1 rfl rfl
  have instrumentation :
      (Form.keyed members).field 2 "instrumentation"
          Instrumentation.ofJson =
        .ok (some spec.instrumentation) :=
    Form.field_written 2 rfl (Instrumentation.ofJson_toJson _)
  have agent :
      (Form.keyed members).field 3 "agent" CollectorSpec.ofJson =
        .ok (some spec.agent) :=
    Form.field_written 3 rfl (CollectorSpec.ofJson_toJson _)
  have clusterReceiver :
      (Form.keyed members).field 4 "clusterReceiver" CollectorSpec.ofJson =
        .ok (some spec.clusterReceiver) :=
    Form.field_written 4 rfl (CollectorSpec.ofJson_toJson _)
  have gateway :
      (Form.keyed members).field 5 "gateway" CollectorSpec.ofJson =
        .ok (some spec.gateway) :=
    Form.field_written 5 rfl (CollectorSpec.ofJson_toJson _)
  refine bind_eq_ok_iff.2 ⟨.keyed members, rfl, ?_⟩
  simp only [clusterName, realm, instrumentation, agent, clusterReceiver,
    gateway]
  refine bind_eq_ok_iff.2 ⟨(), Form.settle_of_ok _ (by simp), ?_⟩
  rfl

/-! ## The status -/

theorem AgentStatus.ofJson_toJson (status : AgentStatus) :
    AgentStatus.ofJson status.toJson = .ok status := by
  obtain ⟨version, messages⟩ := status
  let members :=
    (if messages.isEmpty then []
      else [("messages", Json.ofStrings messages)]) ++
    Json.optionalMember "version" .string version
  have isVersion :
      (Form.keyed members).field 0 "version"
          (Decoder.nullable Decoder.string) =
        .ok (version.map some) := by
    refine Form.field_optional .string 0 ?_ fun _ => rfl
    cases messages <;> simp [members, Json.ofStrings]
  obtain ⟨given, areMessages, isGiven⟩ :
      ∃ given,
        (Form.keyed members).field 1 "messages"
            (Decoder.list Decoder.string) =
          .ok given ∧
        given.getD [] = messages := by
    cases messages with
    | nil =>
        exact ⟨none, Form.field_absent _ 1 (by simp [members]), rfl⟩
    | cons message others =>
        refine ⟨some (message :: others), ?_, rfl⟩
        refine Form.field_written 1 rfl ?_
        exact Json.Decoder.mapM_map_encode fun _ _ => rfl
  refine bind_eq_ok_iff.2 ⟨.keyed members, rfl, ?_⟩
  simp only [isVersion, areMessages]
  refine bind_eq_ok_iff.2 ⟨(), Form.settle_of_ok _ (by simp), ?_⟩
  refine bind_eq_ok_iff.2 ⟨(), rfl, ?_⟩
  simp only [Form.ok_bind, Form.join_map_some, isGiven]
  rfl

/-! ## All of them -/

/-- Every record is read back from what is written of it, with its nested
records, its count of replicas and its messages, whichever options it leaves
out.  So what any JSON value is read as is read again once it is written, and
says the same about the agent, the gateway and the image of the Java agent. -/
theorem agentData_roundTrip :
    (∀ spec : AgentSpec, AgentSpec.ofJson spec.toJson = .ok spec) ∧
    (∀ status : AgentStatus,
      AgentStatus.ofJson status.toJson = .ok status) ∧
    (∀ collector : CollectorSpec,
      CollectorSpec.ofJson collector.toJson = .ok collector) ∧
    (∀ instrumentation : Instrumentation,
      Instrumentation.ofJson instrumentation.toJson = .ok instrumentation) ∧
    (∀ language : AutoInstrumentation,
      AutoInstrumentation.ofJson language.toJson = .ok language) ∧
    (∀ (json : Json) (spec : AgentSpec), AgentSpec.ofJson json = .ok spec →
      ∃ again,
        AgentSpec.ofJson spec.toJson = .ok again ∧
        again = spec ∧
        again.agentEnabled = spec.agentEnabled ∧
        again.gatewayEnabled = spec.gatewayEnabled ∧
        again.javaImage? = spec.javaImage?) ∧
    ∀ (json : Json) (status : AgentStatus),
      AgentStatus.ofJson json = .ok status →
        ∃ again,
          AgentStatus.ofJson status.toJson = .ok again ∧ again = status :=
  ⟨AgentSpec.ofJson_toJson, AgentStatus.ofJson_toJson,
    CollectorSpec.ofJson_toJson, Instrumentation.ofJson_toJson,
    AutoInstrumentation.ofJson_toJson,
    fun _ spec _ => ⟨spec, spec.ofJson_toJson, rfl, rfl, rfl, rfl⟩,
    fun _ status _ => ⟨status, status.ofJson_toJson, rfl⟩⟩

end PodTelemetry.Agent

import PodTelemetry.Proofs.Admission.Answer

/-!
# Which requests are refused and which are given a patch

A pod is kept from running when it cannot be decided about, when the decision
is an error, or when time runs out and the policy is to fail.  A patch is
given only to a pod that may run.
-/

namespace PodTelemetry.Admission

open PodTelemetry.Kubernetes
open PodTelemetry.Procedure (timeOf)

variable {settings : Settings} {cluster : Cluster}
variable {delay : Lookup → Nat} {request : Request}
variable {response : Response} {lookups : List Lookup}

/-- The lookups that deciding about the pod takes go beyond the deadline. -/
def Late
    (settings : Settings) (cluster : Cluster) (delay : Lookup → Nat)
    (request : Request) : Prop :=
  ∃ name pod,
    request.Admits name pod ∧
    settings.deadlineMilliseconds <
      timeOf delay
        ((Mutation.decide settings.operator name pod).run cluster).lookups

/-! ## Requests about one pod at most -/

theorem Request.Admits.exists_iff
    {name : String} {pod : Pod} (admits : request.Admits name pod)
    (holds : String → Pod → Prop) :
    (∃ other otherPod,
        request.Admits other otherPod ∧ holds other otherPod) ↔
      holds name pod := by
  constructor
  · rintro ⟨other, otherPod, admitsOther, held⟩
    obtain ⟨rfl, rfl⟩ := admits.eq admitsOther
    exact held
  · exact fun held => ⟨name, pod, admits, held⟩

theorem Request.Admits.late_iff
    {name : String} {pod : Pod} (admits : request.Admits name pod) :
    Late settings cluster delay request ↔
      settings.deadlineMilliseconds <
        timeOf delay
          ((Mutation.decide settings.operator name pod).run
            cluster).lookups :=
  admits.exists_iff _

theorem not_late_of_not_admits
    (nothing : ∀ name pod, ¬ request.Admits name pod) :
    ¬ Late settings cluster delay request := by
  rintro ⟨name, pod, admits, _⟩
  exact nothing name pod admits

theorem Request.Unfit.not_admits
    (isUnfit : request.Unfit) (name : String) (pod : Pod) :
    ¬ request.Admits name pod :=
  fun admits => admits.not_unfit isUnfit

theorem Request.not_admits_of_nothing
    (nothing : ∀ object, ¬ request.Presents object)
    (name : String) (pod : Pod) :
    ¬ request.Admits name pod := by
  rintro ⟨_, _, object, presents, _⟩
  exact nothing object presents

theorem Request.not_unfit_of_nothing
    (nothing : ∀ object, ¬ request.Presents object) : ¬ request.Unfit := by
  rintro ⟨object, presents, _⟩
  exact nothing object presents

/-! ## Responses to decisions -/

theorem uid_ofDecision (decision : Except Error Mutation) :
    (Response.ofDecision request decision).uid = request.uid := by
  unfold Response.ofDecision
  split <;> rfl

theorem allowed_ofDecision (decision : Except Error Mutation) :
    (Response.ofDecision request decision).allowed = false ↔
      ∃ error, decision = .error error := by
  unfold Response.ofDecision
  split <;> simp [Response.allowed, Response.allow, Response.allowPatched,
    Response.deny]

theorem patch_ofDecision
    (decision : Except Error Mutation) (patch : Json.Patch) :
    (Response.ofDecision request decision).patch = some patch ↔
      patch ≠ [] ∧ decision = .ok (.patched patch) := by
  cases decision with
  | error error =>
      simp [Response.ofDecision, Response.deny]
  | ok mutation =>
      cases mutation with
      | unchanged =>
          simp [Response.ofDecision, Response.allow]
      | patched operations =>
          cases operations with
          | nil =>
              simp only [Response.ofDecision, Response.allow]
              constructor
              · intro isSome
                cases isSome
              · rintro ⟨notEmpty, same⟩
                cases same
                exact absurd rfl notEmpty
          | cons operation rest =>
              simp only [Response.ofDecision, Response.allowPatched,
                Option.some.injEq, Except.ok.injEq, Mutation.patched.injEq]
              constructor
              · rintro rfl
                exact ⟨List.cons_ne_nil operation rest, rfl⟩
              · exact And.right

/-! ## What follows for the response -/

theorem Answered.uid_eq
    (answered : Answered settings cluster delay request response lookups) :
    response.uid = request.uid := by
  cases answered with
  | passed | unfit =>
      rfl
  | inTime =>
      exact uid_ofDecision _
  | late =>
      cases settings.failurePolicy <;> rfl

theorem Answered.allowed_eq_false_iff
    (answered : Answered settings cluster delay request response lookups) :
    response.allowed = false ↔
      (Late settings cluster delay request ∧
        settings.failurePolicy = .fail) ∨
      (¬ Late settings cluster delay request ∧
        (request.Unfit ∨
          ∃ name pod,
            request.Admits name pod ∧
            ∃ error,
              ((Mutation.decide settings.operator name pod).run
                  cluster).result =
                .error error)) := by
  cases answered with
  | passed nothing =>
      have notAdmits := Request.not_admits_of_nothing nothing
      simp [Response.allowed, Response.allow,
        not_late_of_not_admits notAdmits, notAdmits,
        Request.not_unfit_of_nothing nothing]
  | unfit isUnfit =>
      simp [Response.allowed, Response.deny,
        not_late_of_not_admits isUnfit.not_admits, isUnfit]
  | inTime admits soon =>
      have notLate : ¬ Late settings cluster delay request :=
        mt admits.late_iff.1 (Nat.not_lt_of_le soon)
      rw [allowed_ofDecision, admits.exists_iff]
      simp [notLate, admits.not_unfit]
  | late admits tooLong =>
      have isLate : Late settings cluster delay request :=
        admits.late_iff.2 tooLong
      cases settings.failurePolicy <;>
        simp [overdue, Response.allowed, Response.allow, Response.deny, isLate]

theorem Answered.patch_eq_some_iff
    (answered : Answered settings cluster delay request response lookups)
    (patch : Json.Patch) :
    response.patch = some patch ↔
      ¬ Late settings cluster delay request ∧
      ∃ name pod,
        request.Admits name pod ∧
        patch ≠ [] ∧
        ((Mutation.decide settings.operator name pod).run cluster).result =
          .ok (.patched patch) := by
  cases answered with
  | passed nothing =>
      simp [Response.allow, Request.not_admits_of_nothing nothing]
  | unfit isUnfit =>
      simp [Response.deny, isUnfit.not_admits]
  | inTime admits soon =>
      have notLate : ¬ Late settings cluster delay request :=
        mt admits.late_iff.1 (Nat.not_lt_of_le soon)
      rw [patch_ofDecision, admits.exists_iff]
      simp [notLate]
  | late admits tooLong =>
      have isLate : Late settings cluster delay request :=
        admits.late_iff.2 tooLong
      cases settings.failurePolicy <;>
        simp [overdue, Response.allow, Response.deny, isLate]

theorem Answered.eq_allow
    (answered : Answered settings cluster delay request response lookups)
    (nothing : ∀ object, ¬ request.Presents object) :
    response = .allow request ∧ lookups = [] := by
  cases answered with
  | passed =>
      exact ⟨rfl, rfl⟩
  | unfit isUnfit =>
      exact absurd isUnfit (Request.not_unfit_of_nothing nothing)
  | inTime admits | late admits =>
      exact absurd admits (Request.not_admits_of_nothing nothing _ _)

/-- What the response to a request looks like on its way back: the uid, whether
the object may be stored, and, under its type, the text of the patch byte for
byte. -/
theorem get?_toJson (response : Response) :
    response.toJson.get? "uid" = some (.string response.uid) ∧
      response.toJson.get? "allowed" = some (.bool response.allowed) ∧
      response.toJson.get? "patch" =
        (response.patch.map fun patch =>
          .array
            (patch.toJson.text.toUTF8.data.toList.map fun byte =>
              Json.ofNat byte.toNat)) ∧
      response.toJson.get? "patchType" =
        response.patch.map fun _ => .string "JSONPatch" := by
  unfold Response.toJson
  cases response.patch with
  | none =>
      simp [Json.get?, Entries.read]
  | some patch =>
      simp [Json.get?, Entries.read, Response.patchBytes]

/-- The response carries the request's uid.  It refuses when time ran out and
the policy is to fail, and else when an object is created or updated that is no
pod, that has no namespace, or for which the decision is an error; what becomes
of the injectors makes no difference to that.  It carries a patch when the
decision was made in time and is a patch that is not empty, and never together
with a refusal.  Requests about nothing are let through without a lookup.  All
of this can be read off the answer as it is sent. -/
theorem response_answer
    (settings : Settings) (cluster : Cluster) (delay : Lookup → Nat)
    (apiVersion kind : String) (request : Request) :
    let review : Review := { apiVersion, kind, request := some request }
    let run := answer settings cluster delay review
    let response := run.result.response
    let sent := response.toJson
    let isLate := Late settings cluster delay request
    let decision (name : String) (pod : Pod) :=
      ((Mutation.decide settings.operator name pod).run cluster).result
    response.uid = request.uid ∧
    (response.allowed = false ↔
      (isLate ∧ settings.failurePolicy = .fail) ∨
      (¬ isLate ∧
        (request.Unfit ∨
          ∃ name pod,
            request.Admits name pod ∧
            ∃ error, decision name pod = .error error))) ∧
    (∀ patch,
      response.patch = some patch ↔
        ¬ isLate ∧
        ∃ name pod,
          request.Admits name pod ∧
          patch ≠ [] ∧
          decision name pod = .ok (.patched patch)) ∧
    (run.result.toJson.get? "response" = some sent ∧
      sent.get? "uid" = some (.string request.uid) ∧
      sent.get? "allowed" = some (.bool response.allowed) ∧
      sent.get? "patch" =
        (response.patch.map fun patch =>
          .array
            (patch.toJson.text.toUTF8.data.toList.map fun byte =>
              Json.ofNat byte.toNat)) ∧
      sent.get? "patchType" =
        response.patch.map fun _ => .string "JSONPatch") ∧
    (response.allowed = false → response.patch = none) ∧
    ((request.verb ≠ .create ∧ request.verb ≠ .update) ∨
        request.object = none →
      response.allowed = true ∧ response.patch = none ∧
        run.lookups = []) ∧
    ∀ name pod found agent,
      request.Admits name pod →
      cluster (.findNamespace name) = .ok found →
      cluster .listAgents = .ok [agent] →
      (Injector.injectAll
          (Mutation.contextOf settings.operator cluster found agent pod) pod
          (Injector.selected pod.metadata.annotations)).fault ≠ none →
      ¬ (isLate ∧ settings.failurePolicy = .fail) →
      response.allowed = true := by
  intro review run response sent isLate decision
  have answered :
      Answered settings cluster delay request response run.lookups :=
    answered_respondInTime settings cluster delay request
  have refused := answered.allowed_eq_false_iff
  have patched := answered.patch_eq_some_iff
  refine ⟨answered.uid_eq, refused, patched, ?_, ?_, ?_, ?_⟩
  · have sentParts := get?_toJson response
    rw [answered.uid_eq] at sentParts
    exact ⟨rfl, sentParts⟩
  · intro denied
    refine Option.eq_none_iff_forall_ne_some.2 fun patch given => ?_
    obtain ⟨notLate, name, pod, admits, _, isPatch⟩ := (patched patch).1 given
    rcases refused.1 denied with ⟨late, _⟩ | ⟨_, isUnfit | failed⟩
    · exact notLate late
    · exact admits.not_unfit isUnfit
    · obtain ⟨error, isError⟩ := (admits.exists_iff _).1 failed
      rw [isPatch] at isError
      cases isError
  · intro other
    have nothing : ∀ object, ¬ request.Presents object := by
      rintro object ⟨verb, present⟩
      rcases other with ⟨notCreate, notUpdate⟩ | absent
      · exact verb.elim notCreate notUpdate
      · rw [absent] at present
        cases present
    obtain ⟨isAllowed, noLookups⟩ := answered.eq_allow nothing
    rw [isAllowed]
    exact ⟨rfl, rfl, noLookups⟩
  · intro name pod found agent admits isFound isListed _ notOverdue
    refine eq_true_of_ne_false fun denied => ?_
    rcases refused.1 denied with overdue | ⟨_, isUnfit | failed⟩
    · exact notOverdue overdue
    · exact admits.not_unfit isUnfit
    · obtain ⟨error, isError⟩ := (admits.exists_iff _).1 failed
      have ends := Mutation.decide_ends settings.operator cluster name pod
      exact ends.ne_error isFound isListed error isError

/-! ## Three pods -/

/-- The only container asks for a number in place of resources. -/
def sampleIllTyped : Json :=
  .object
    [("metadata", .object
        [("annotations", .object
            [("otel.splunk.com/inject-config", .string "true")])]),
      ("spec", .object
        [("containers", .array
            [.object
              [("name", .string "web"), ("resources", Json.ofNat 5)]])])]

/-- The only container takes its attributes from a field. -/
def sampleSourced : Json :=
  .object
    [("metadata", .object
        [("annotations", .object
            [("otel.splunk.com/inject-config", .string "true")])]),
      ("spec", .object
        [("containers", .array
            [.object
              [("env", .array
                  [(EnvVar.ofField Env.resourceAttributes
                      "metadata.name").toJson]),
                ("name", .string "web")]])])]

def sampleSourcedPod : Pod where
  metadata :=
    { annotations :=
        some (Dictionary.ofList [("otel.splunk.com/inject-config", "true")]) }
  spec :=
    some
      { containers :=
          [{ env :=
              some [EnvVar.ofField Env.resourceAttributes "metadata.name"]
             name := "web" }] }

def sampleCreation (object : Json) : Request where
  uid := "705ab4f5"
  verb := .create
  inNamespace := some "shop"
  object := some object

theorem sampleCreation_admits
    {object : Json} {pod : Pod} (isPod : Pod.ofJson object = .ok pod) :
    (sampleCreation object).Admits "shop" pod :=
  ⟨by decide, rfl, object, ⟨.inl rfl, rfl⟩, isPod⟩

/-- The first pod is refused, the second is given its patch, and the third may
run although there is no injecting into it. -/
theorem sampleCreations_answered :
    let settings : Settings := { failurePolicy := .fail }
    let sent (object : Json) :=
      (answer settings Mutation.sampleCluster (fun _ => 1000)
        { apiVersion := "admission.k8s.io/v1", kind := "AdmissionReview"
          request := some (sampleCreation object) }).result.response.toJson
    (Pod.ofJson sampleIllTyped =
        .error (.wrongType (Json.ofNat 5) "ResourceRequirements") ∧
      (sent sampleIllTyped).get? "allowed" = some (.bool false) ∧
      (sent sampleIllTyped).get? "patch" = none) ∧
    (Pod.ofJson Mutation.sampleDocument = .ok Mutation.samplePod ∧
      (sent Mutation.sampleDocument).get? "allowed" = some (.bool true) ∧
      (sent Mutation.sampleDocument).get? "patch" =
        some
          (.array
            (Mutation.samplePatch.toJson.text.toUTF8.data.toList.map
              fun byte => Json.ofNat byte.toNat))) ∧
    Pod.ofJson sampleSourced = .ok sampleSourcedPod ∧
    (Injector.injectAll
        (Mutation.contextOf settings.operator Mutation.sampleCluster
          Mutation.sampleNamespace default sampleSourcedPod)
        sampleSourcedPod [.config]).fault ≠ none ∧
    (sent sampleSourced).get? "allowed" = some (.bool true) := by
  intro settings sent
  have notLate {object : Json} {pod : Pod}
      (isPod : Pod.ofJson object = .ok pod)
      (soon :
        timeOf (fun _ => 1000)
            ((Mutation.decide {} "shop" pod).run
              Mutation.sampleCluster).lookups ≤ 5000) :
      ¬ Late settings Mutation.sampleCluster (fun _ => 1000)
          (sampleCreation object) :=
    mt (sampleCreation_admits isPod).late_iff.1 (Nat.not_lt_of_le soon)
  have answered (object : Json) :=
    response_answer settings Mutation.sampleCluster (fun _ => 1000)
      "admission.k8s.io/v1" "AdmissionReview" (sampleCreation object)
  refine ⟨?_, ?_, ?_⟩
  · have illTyped :
        Pod.ofJson sampleIllTyped =
          .error (.wrongType (Json.ofNat 5) "ResourceRequirements") := by
      decide +kernel
    have isUnfit : (sampleCreation sampleIllTyped).Unfit :=
      ⟨_, ⟨.inl rfl, rfl⟩, .inl ⟨_, illTyped⟩⟩
    obtain ⟨_, refused, _, ⟨_, _, sentAllowed, sentPatch, _⟩, unpatched, _⟩ :=
      answered sampleIllTyped
    have denied :=
      refused.2
        (.inr ⟨not_late_of_not_admits isUnfit.not_admits, .inl isUnfit⟩)
    rw [denied] at sentAllowed
    rw [unpatched denied] at sentPatch
    exact ⟨illTyped, sentAllowed, sentPatch⟩
  · have isPod := Mutation.ofJson_sampleDocument
    obtain ⟨_, _, patched, ⟨_, _, sentAllowed, sentPatch, _⟩, unpatched, _⟩ :=
      answered Mutation.sampleDocument
    have isPatched :=
      (patched Mutation.samplePatch).2
        ⟨notLate isPod (by decide +kernel), "shop", _,
          sampleCreation_admits isPod, by decide +kernel,
          Mutation.decide_samplePod⟩
    have isAllowed := eq_true_of_ne_false fun denied => by
      have absent := unpatched denied
      rw [isPatched] at absent
      cases absent
    rw [isAllowed] at sentAllowed
    rw [isPatched] at sentPatch
    exact ⟨isPod, sentAllowed, sentPatch⟩
  · have isPod : Pod.ofJson sampleSourced = .ok sampleSourcedPod := by
      decide +kernel
    have failed :
        (Injector.injectAll
            (Mutation.contextOf settings.operator Mutation.sampleCluster
              Mutation.sampleNamespace default sampleSourcedPod)
            sampleSourcedPod [.config]).fault ≠ none := by
      decide +kernel
    obtain ⟨_, _, _, ⟨_, _, sentAllowed, _⟩, _, _, ofFailure⟩ :=
      answered sampleSourced
    have isAllowed :=
      ofFailure "shop" sampleSourcedPod Mutation.sampleNamespace default
        (sampleCreation_admits isPod) rfl rfl failed fun overdue =>
          notLate isPod (by decide +kernel) overdue.1
    rw [isAllowed] at sentAllowed
    exact ⟨isPod, failed, sentAllowed⟩

end PodTelemetry.Admission

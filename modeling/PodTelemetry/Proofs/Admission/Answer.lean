import PodTelemetry.Proofs.Deadline
import PodTelemetry.Proofs.Mutation.Discipline
import PodTelemetry.Proofs.Mutation.Patching

/-!
# How a request is answered

A request is answered in one of four ways, depending on what it is about and
on whether the lookups are made in time.  What is said about responses follows
from these cases.
-/

namespace PodTelemetry.Admission

open PodTelemetry.Kubernetes
open PodTelemetry.Procedure (timeOf)

variable {settings : Settings} {cluster : Cluster}
variable {delay : Lookup → Nat} {request : Request}

/-! ## What a request is about -/

namespace Request

/-- An object is created or updated. -/
def Presents (request : Request) (object : Json) : Prop :=
  (request.verb = .create ∨ request.verb = .update) ∧
    request.object = some object

/-- A pod is created or updated, in a namespace that the request or else the
pod names. -/
def Admits (request : Request) (inNamespace : String) (pod : Pod) : Prop :=
  inNamespace ≠ "" ∧
    request.inNamespace.or pod.metadata.inNamespace = some inNamespace ∧
    ∃ object, request.Presents object ∧ Pod.ofJson object = .ok pod

/-- What is created or updated is no pod, or there is no namespace for it. -/
def Unfit (request : Request) : Prop :=
  ∃ object, request.Presents object ∧
    ((∃ error, Pod.ofJson object = .error error) ∨
      ∃ pod, Pod.ofJson object = .ok pod ∧
        (request.inNamespace.or pod.metadata.inNamespace = none ∨
          request.inNamespace.or pod.metadata.inNamespace = some ""))

theorem Presents.eq
    {object other : Json} (presents : request.Presents object)
    (presentsOther : request.Presents other) :
    other = object :=
  Option.some.inj (presentsOther.2.symm.trans presents.2)

theorem Admits.eq
    {name otherName : String} {pod other : Pod}
    (admits : request.Admits name pod)
    (admitsOther : request.Admits otherName other) :
    otherName = name ∧ other = pod := by
  obtain ⟨_, named, object, presents, decoded⟩ := admits
  obtain ⟨_, otherNamed, otherObject, otherPresents, otherDecoded⟩ :=
    admitsOther
  rw [presents.eq otherPresents, decoded] at otherDecoded
  have samePod := Except.ok.inj otherDecoded
  rw [← samePod, named] at otherNamed
  exact ⟨(Option.some.inj otherNamed).symm, samePod.symm⟩

theorem Admits.not_unfit
    {name : String} {pod : Pod} (admits : request.Admits name pod) :
    ¬ request.Unfit := by
  obtain ⟨notEmpty, named, object, presents, decoded⟩ := admits
  rintro ⟨other, otherPresents, unfit⟩
  rw [presents.eq otherPresents, decoded] at unfit
  rcases unfit with ⟨error, impossible⟩ | ⟨otherPod, isPod, nameless⟩
  · cases impossible
  · cases isPod
    rw [named] at nameless
    rcases nameless with absent | empty
    · cases absent
    · exact notEmpty (Option.some.inj empty)

theorem subject?_eq_some_iff {object : Json} :
    subject? request = some object ↔ request.Presents object := by
  unfold subject? Presents
  cases request.verb <;> simp

/-- A request is about nothing, about something unfit, or about a pod. -/
theorem subject_cases (request : Request) :
    (subject? request = none ∧ ∀ object, ¬ request.Presents object) ∨
    (request.Unfit ∧
      ∃ object fault,
        subject? request = some object ∧
        podOf request object = .error fault) ∨
    ∃ name pod object,
      request.Admits name pod ∧
      subject? request = some object ∧
      podOf request object = .ok (name, pod) := by
  cases found : subject? request with
  | none =>
      refine Or.inl ⟨rfl, fun object presents => ?_⟩
      rw [subject?_eq_some_iff.2 presents] at found
      cases found
  | some object =>
      have presents := subject?_eq_some_iff.1 found
      right
      cases decoded : Pod.ofJson object with
      | error error =>
          exact
            Or.inl
              ⟨⟨object, presents, Or.inl ⟨error, decoded⟩⟩, object, _, rfl,
                by rw [podOf, decoded]⟩
      | ok pod =>
          have orElse :
              (request.inNamespace <|> pod.metadata.inNamespace) =
                request.inNamespace.or pod.metadata.inNamespace := by
            cases request.inNamespace <;> rfl
          cases named : request.inNamespace.or pod.metadata.inNamespace with
          | none =>
              exact
                Or.inl
                  ⟨⟨object, presents, Or.inr ⟨pod, decoded, Or.inl named⟩⟩,
                    object, .noNamespace, rfl,
                    by simp only [podOf, decoded, orElse, named]⟩
          | some name =>
              by_cases empty : name = ""
              · subst empty
                exact
                  Or.inl
                    ⟨⟨object, presents, Or.inr ⟨pod, decoded, Or.inr named⟩⟩,
                      object, .noNamespace, rfl,
                      by simp only [podOf, decoded, orElse, named, if_true]⟩
              · exact
                  Or.inr
                    ⟨name, pod, object,
                      ⟨empty, named, object, presents, decoded⟩, rfl,
                      by simp only [podOf, decoded, orElse, named, empty,
                        if_false]⟩

end Request

/-! ## The ways to answer -/

/-- The response that a decision about a pod leads to. -/
def Response.ofDecision (request : Request) :
    Except Error Mutation → Response
  | .ok .unchanged => .allow request
  | .ok (.patched []) => .allow request
  | .ok (.patched patch) => .allowPatched request patch
  | .error error => .deny request error.text

/-- The ways in which a request is answered, with the lookups that were
made. -/
inductive Answered
    (settings : Settings) (cluster : Cluster) (delay : Lookup → Nat)
    (request : Request) : Response → List Lookup → Prop
  | passed (nothing : ∀ object, ¬ request.Presents object) :
      Answered settings cluster delay request (.allow request) []
  | unfit (isUnfit : request.Unfit) (message : String) :
      Answered settings cluster delay request (.deny request message) []
  | inTime {name : String} {pod : Pod} (admits : request.Admits name pod)
      (soon :
        timeOf delay
            ((Mutation.decide settings.operator name pod).run
              cluster).lookups ≤
          settings.deadlineMilliseconds) :
      Answered settings cluster delay request
        (.ofDecision request
          ((Mutation.decide settings.operator name pod).run cluster).result)
        ((Mutation.decide settings.operator name pod).run cluster).lookups
  | late {name : String} {pod : Pod} (admits : request.Admits name pod)
      (tooLong :
        settings.deadlineMilliseconds <
          timeOf delay
            ((Mutation.decide settings.operator name pod).run
              cluster).lookups)
      (lookups : List Lookup) :
      Answered settings cluster delay request
        (overdue settings.failurePolicy request) lookups

/-- With time enough, a pod is answered for as it was decided about. -/
theorem run_respond
    (operator : OperatorConfig) (cluster : Cluster)
    {name : String} {pod : Pod} {object : Json}
    (isSubject : subject? request = some object)
    (isPod : podOf request object = .ok (name, pod)) :
    ((respond operator request).run cluster).result =
        .ofDecision request
          ((Mutation.decide operator name pod).run cluster).result ∧
      ((respond operator request).run cluster).lookups =
        ((Mutation.decide operator name pod).run cluster).lookups := by
  unfold respond
  simp only [isSubject, isPod, Procedure.result_run_bind,
    Procedure.lookups_run_bind]
  match ((Mutation.decide operator name pod).run cluster).result with
  | .ok .unchanged | .ok (.patched []) =>
      exact ⟨rfl, List.append_nil _⟩
  | .ok (.patched (operation :: rest)) =>
      exact ⟨rfl, List.append_nil _⟩
  | .error error =>
      by_cases expected : error.isPrerequisite
      · simp [expected, Response.ofDecision]
      · simp [expected, Response.ofDecision]

theorem answered_respondInTime
    (settings : Settings) (cluster : Cluster) (delay : Lookup → Nat)
    (request : Request) :
    let run := respondInTime settings cluster delay request
    Answered settings cluster delay request run.result run.lookups := by
  intro run
  have isRun : run = respondInTime settings cluster delay request := rfl
  unfold respondInTime at isRun
  rcases request.subject_cases with
    ⟨isSubject, nothing⟩ | ⟨isUnfit, object, fault, isSubject, isPod⟩ |
      ⟨name, pod, object, admits, isSubject, isPod⟩
  · rw [respond, isSubject] at isRun
    rw [isRun]
    exact .passed nothing
  · rw [respond, isSubject] at isRun
    simp only [isPod] at isRun
    rw [isRun]
    exact .unfit isUnfit fault.error.text
  · obtain ⟨sameResult, sameLookups⟩ :=
      run_respond settings.operator cluster isSubject isPod
    by_cases tooLong :
        settings.deadlineMilliseconds <
          timeOf delay
            ((Mutation.decide settings.operator name pod).run
              cluster).lookups
    · rw [← sameLookups] at tooLong
      have noResult := Procedure.result_runWithin_of_lt_timeOf tooLong
      rw [sameLookups] at tooLong
      rw [isRun]
      simp only [noResult]
      exact .late admits tooLong _
    · have soon := Nat.le_of_not_lt tooLong
      rw [← sameLookups] at soon
      have whole := Procedure.runWithin_of_timeOf_le soon
      rw [sameLookups] at soon
      rw [isRun]
      simp only [whole, sameResult, sameLookups]
      exact .inTime admits soon

end PodTelemetry.Admission

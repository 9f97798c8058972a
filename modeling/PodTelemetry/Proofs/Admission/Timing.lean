import PodTelemetry.Admission.Webhook
import PodTelemetry.Proofs.Deadline
import PodTelemetry.Proofs.Procedure

/-!
# Answers before and after the deadline

The deadline is all or nothing.  An answer that comes in time is the one that
is given when lookups take no time; when time runs out, nothing of what was
done so far shows in the response.
-/

namespace PodTelemetry.Admission

open PodTelemetry.Procedure (timeOf ShortestBeyond)

variable {settings : Settings} {cluster : Cluster}
variable {delay : Lookup → Nat} {request : Request}

/-! ## Responses within the deadline -/

theorem respondInTime_of_soon
    (soon :
      timeOf delay
          ((respond settings.operator request).run cluster).lookups ≤
        settings.deadlineMilliseconds) :
    respondInTime settings cluster delay request =
      (respond settings.operator request).run cluster := by
  unfold respondInTime
  rw [Procedure.runWithin_of_timeOf_le soon]

/-- When time runs out, the lookups and events of the run that was cut short
are all that is left of it. -/
theorem respondInTime_of_late
    (late :
      settings.deadlineMilliseconds <
        timeOf delay
          ((respond settings.operator request).run cluster).lookups) :
    let cut :=
      (respond settings.operator request).runWithin cluster delay
        settings.deadlineMilliseconds
    respondInTime settings cluster delay request =
      { result := overdue settings.failurePolicy request
        lookups := cut.lookups
        events := cut.events ++ [deadlineExceeded settings request] } := by
  have noResult := Procedure.result_runWithin_of_lt_timeOf late
  unfold respondInTime
  simp only [noResult]

theorem respondInTime_immediate
    (settings : Settings) (cluster : Cluster) (request : Request) :
    respondInTime settings cluster (fun _ => 0) request =
      (respond settings.operator request).run cluster := by
  apply respondInTime_of_soon
  rw [Procedure.timeOf_immediate]
  exact Nat.zero_le _

/-! ## Responses after the deadline -/

theorem patch_overdue (policy : FailurePolicy) (request : Request) :
    (overdue policy request).patch = none := by
  cases policy <;> rfl

theorem allowed_overdue_iff {policy : FailurePolicy} :
    (overdue policy request).allowed = true ↔ policy = .ignore := by
  cases policy <;> simp [overdue, Response.allowed, Response.allow,
    Response.deny]

/-- No error starts like the account of a deadline that was missed. -/
theorem overdue_ne_deny
    (policy : FailurePolicy) (request : Request) (error : Error) :
    overdue policy request ≠ .deny request error.text := by
  cases policy with
  | ignore =>
      nofun
  | fail =>
      intro same
      have sameText :
          "telemetry injection did not finish before the admission deadline" =
            error.text := by
        simpa [overdue, Response.deny] using same
      have sameStart := congrArg (·.toList.take 2) sameText
      rcases error with ⟨kind, account⟩
      cases kind <;>
        simp [Error.text, ErrorKind.heading] at sameStart

/-! ## The two runs -/

/-- The deadline is all or nothing.  What counts is the time that the lookups
of the run without delays take together.  Below the deadline, the answer, the
lookups and the events are those of that run.  Beyond it, the response is the
policy's, with no patch and with no error of the run in it, and the lookups are
the shortest part at the start of that run's that goes beyond the deadline.  An
answer that needs no lookup is never late. -/
theorem answer_deadline
    (settings : Settings) (cluster : Cluster) (delay : Lookup → Nat)
    (apiVersion kind : String) (request : Request) :
    let review : Review := { apiVersion, kind, request := some request }
    let pipeline := (respond settings.operator request).run cluster
    let undelayed := answer settings cluster (fun _ => 0) review
    let timed := answer settings cluster delay review
    let response := timed.result.response
    let deadline := settings.deadlineMilliseconds
    (undelayed.result.response = pipeline.result ∧
      undelayed.lookups = pipeline.lookups ∧
      undelayed.events = pipeline.events) ∧
    (timeOf delay undelayed.lookups < deadline → timed = undelayed) ∧
    (deadline < timeOf delay undelayed.lookups →
      response = overdue settings.failurePolicy request ∧
      (response.allowed = true ↔ settings.failurePolicy = .ignore) ∧
      response.patch = none ∧
      (∀ error : Error, response ≠ .deny request error.text) ∧
      ShortestBeyond delay deadline undelayed.lookups timed.lookups ∧
      ∃ events,
        events <+: undelayed.events ∧
        timed.events = events ++ [deadlineExceeded settings request]) ∧
    (undelayed.lookups = [] → 0 < deadline → timed = undelayed) := by
  intro review pipeline undelayed timed response deadline
  have isUndelayed :
      undelayed =
        { pipeline with
          result := { apiVersion, kind, response := pipeline.result } } := by
    simp only [undelayed, review, answer, respondInTime_immediate, pipeline]
  have sameLookups : undelayed.lookups = pipeline.lookups := by
    rw [isUndelayed]
  have sameEvents : undelayed.events = pipeline.events := by
    rw [isUndelayed]
  have inTime
      (soon : timeOf delay undelayed.lookups < deadline) :
      timed = undelayed := by
    rw [sameLookups] at soon
    rw [isUndelayed]
    simp only [timed, review, answer,
      respondInTime_of_soon (Nat.le_of_lt soon), pipeline]
  refine ⟨⟨?_, sameLookups, sameEvents⟩, inTime, ?_, ?_⟩
  · rw [isUndelayed]
  · rw [sameLookups, sameEvents]
    intro late
    have cut := respondInTime_of_late late
    have isResponse : response = overdue settings.failurePolicy request := by
      simp only [response, timed, review, answer, cut]
    refine ⟨isResponse, ?_, ?_, ?_, ?_, ?_⟩
    · rw [isResponse]
      exact allowed_overdue_iff
    · rw [isResponse]
      exact patch_overdue _ _
    · rw [isResponse]
      exact overdue_ne_deny _ _
    · simp only [timed, review, answer, cut]
      exact Procedure.shortestBeyond_runWithin late
    · simp only [timed, review, answer, cut]
      exact ⟨_, Procedure.events_runWithin_starts _ _ _ _, rfl⟩
  · intro noLookup positive
    apply inTime
    rw [noLookup]
    exact positive

/-- A pod is created that asks for the exporter to be configured. -/
def sampleCreated : Request where
  uid := "705ab4f5"
  verb := .create
  inNamespace := some "shop"
  object :=
    some
      (.object
        [("metadata", .object
            [("annotations", .object
                [("otel.splunk.com/inject-config", .string "true")])]),
          ("spec", .object
            [("containers", .array [.object [("name", .string "web")]])])])

def sampleReady : Cluster
  | .findNamespace _ => .ok default
  | .listAgents => .ok [default]
  | .findReplicaSet _ _ => .error ⟨.kubernetes, "not found"⟩

/-- Each lookup takes three of the five seconds, so that the second one goes
beyond the deadline. -/
example :
    let run (failurePolicy : FailurePolicy) :=
      answer { failurePolicy } sampleReady (fun _ => 3000)
        { apiVersion := "admission.k8s.io/v1", kind := "AdmissionReview"
          request := some sampleCreated }
    (run .ignore).result.response = .allow sampleCreated ∧
    (run .fail).result.response =
      .deny sampleCreated
        "telemetry injection did not finish before the admission deadline" ∧
    (run .ignore).lookups = [.findNamespace "shop", .listAgents] ∧
    (run .fail).lookups = [.findNamespace "shop", .listAgents] ∧
    (run .ignore).events.map Event.message =
      ["Admission deadline exceeded"] := by
  decide +kernel

end PodTelemetry.Admission

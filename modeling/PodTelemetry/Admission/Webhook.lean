import PodTelemetry.Admission.Review
import PodTelemetry.Mutation

namespace PodTelemetry.Admission

open Kubernetes (Pod)

/-! ## Answering reviews -/

/-- What is answered when time runs out. -/
inductive FailurePolicy where
  | ignore
  | fail
  deriving DecidableEq, Repr, Inhabited

def FailurePolicy.name : FailurePolicy → String
  | .ignore => "Ignore"
  | .fail => "Fail"

/-- Seconds that an answer may take when nothing else is said. -/
def defaultDeadlineSeconds : Nat := 5

structure Settings where
  operator : OperatorConfig := {}
  deadlineMilliseconds : Nat := defaultDeadlineSeconds * 1000
  failurePolicy : FailurePolicy := .ignore
  deriving DecidableEq, Repr, Inhabited

/-! ### What a request is about -/

/-- Only objects that are created or updated are looked at. -/
def subject? (request : Request) : Option Json :=
  match request.verb with
  | .create | .update => request.object
  | .delete | .connect => none

/-- Why the pod of a request is not known. -/
inductive SubjectFault where
  | undecodable (error : Json.DecodeError)
  | noNamespace
  deriving DecidableEq, Repr

def SubjectFault.account : SubjectFault → String
  | .undecodable error => error.message
  | .noNamespace => "admission request has no namespace"

def SubjectFault.error (fault : SubjectFault) : Error :=
  ⟨.decode, fault.account⟩

/-- The pod that a JSON object is, and the namespace it is to run in: the
request's own, if it names one, else the pod's. An empty name is none. -/
def podOf (request : Request) (object : Json) :
    Except SubjectFault (String × Pod) :=
  match Pod.ofJson object with
  | .error error => .error (.undecodable error)
  | .ok pod =>
      match request.inNamespace <|> pod.metadata.inNamespace with
      | some name => if name = "" then .error .noNamespace else .ok (name, pod)
      | none => .error .noNamespace

/-! ### Events -/

def nothingToMutate (request : Request) : Event where
  level := .debug
  message := "Nothing to mutate, allowing unchanged"
  fields :=
    [("uid", .text request.uid), ("operation", .text request.verb.name)]

def podUndecodable (request : Request) (fault : SubjectFault) : Event where
  level := .warn
  message := "Failed to decode pod, denying"
  fields := [("uid", .text request.uid), ("error", .text fault.error.text)]

def patchReturned (request : Request) (patch : Json.Patch) : Event where
  level := .debug
  message := "Returning pod patch"
  fields := [("uid", .text request.uid), ("operations", .count patch.length)]

def unexpectedFailure (request : Request) (error : Error) : Event where
  level := .error
  message := "Unexpected mutation failure"
  fields := [("uid", .text request.uid), ("error", .text error.text)]

def podRejected (request : Request) (inNamespace : String) (error : Error) :
    Event where
  level := .warn
  message := "Rejecting pod"
  fields :=
    [ ("uid", .text request.uid), ("namespace", .text inNamespace),
      ("error", .text error.text) ]

def deadlineExceeded (settings : Settings) (request : Request) : Event where
  level := .warn
  message := "Admission deadline exceeded"
  fields :=
    [ ("uid", .text request.uid),
      ("deadline_ms", .count settings.deadlineMilliseconds),
      ("policy", .text settings.failurePolicy.name) ]

def requestMissing : String :=
  "failed to convert AdmissionReview into AdmissionRequest"

def requestUnparsable : Event where
  level := .error
  message := "Failed to parse admission request"
  fields := [("error", .text requestMissing)]

/-! ### Answers -/

/-- The response to a request when there is time enough. -/
def respond (operator : OperatorConfig) (request : Request) :
    Procedure Response :=
  match subject? request with
  | none => do
      Procedure.log (nothingToMutate request)
      return .allow request
  | some object =>
      match podOf request object with
      | .error fault => do
          Procedure.log (podUndecodable request fault)
          return .deny request fault.error.text
      | .ok (inNamespace, pod) => do
          match ← Mutation.decide operator inNamespace pod with
          | .ok .unchanged => return .allow request
          | .ok (.patched []) => return .allow request
          | .ok (.patched patch) =>
              Procedure.log (patchReturned request patch)
              return .allowPatched request patch
          | .error error =>
              unless error.isPrerequisite do
                Procedure.log (unexpectedFailure request error)
              Procedure.log (podRejected request inNamespace error)
              return .deny request error.text

/-- The response when time ran out. -/
def overdue (policy : FailurePolicy) (request : Request) : Response :=
  match policy with
  | .ignore => .allow request
  | .fail =>
      .deny request
        "telemetry injection did not finish before the admission deadline"

/-- Responds to a request before the deadline. -/
def respondInTime (settings : Settings) (cluster : Cluster)
    (delay : Lookup → Nat) (request : Request) : Procedure.Run Response :=
  let run :=
    (respond settings.operator request).runWithin cluster delay
      settings.deadlineMilliseconds
  match run.result with
  | some response => { run with result := response }
  | none =>
      { run with
        result := overdue settings.failurePolicy request
        events := run.events ++ [deadlineExceeded settings request] }

/-- The answer to an envelope without a request. -/
def invalid : Answer where
  apiVersion := "admission.k8s.io/v1beta1"
  kind := "AdmissionReview"
  response :=
    { uid := ""
      refused := some
        { message := requestMissing, reason := "InvalidRequest",
          status := "Failure" } }

/-- Answers a review in the envelope that it came in. -/
def answer (settings : Settings) (cluster : Cluster) (delay : Lookup → Nat)
    (review : Review) : Procedure.Run Answer :=
  match review.request with
  | none => { result := invalid, events := [requestUnparsable] }
  | some request =>
      let run := respondInTime settings cluster delay request
      { run with
        result :=
          { apiVersion := review.apiVersion, kind := review.kind,
            response := run.result } }

end PodTelemetry.Admission

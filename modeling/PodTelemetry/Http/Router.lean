import PodTelemetry.Admission.Webhook
import PodTelemetry.Admission.Wire
import PodTelemetry.Http.ContentType

namespace PodTelemetry.Http

open PodTelemetry.Admission (Answer Review Settings)

/-! ## The webhook over HTTP -/

structure Request where
  method : String
  /-- Path and query. -/
  target : String
  contentType : Option String := none
  body : String := ""
  deriving DecidableEq, Repr

/-- What a response carries: an answer to a review, or a text. -/
inductive Content where
  | answer (answer : Answer)
  | text (text : String)
  deriving DecidableEq, Repr

structure Response where
  status : Nat
  allow : Option String := none
  content : Content := .text ""
  deriving DecidableEq, Repr

def mutatePath : String := "/mutate-v1-pod"

/-- What is served at a path. -/
inductive Resource where
  | mutation
  | health
  deriving DecidableEq, Repr

/-- The path of a target, which may start with a scheme and a host. -/
def pathOf (target : String) : String :=
  let unqueried := target.toList.takeWhile fun c => c ≠ '?' ∧ c ≠ '#'
  let path :=
    if unqueried.head? = some '/' then unqueried
    else
      match unqueried.dropWhile (· ≠ ':') with
      | ':' :: '/' :: '/' :: located => located.dropWhile (· ≠ '/')
      | _ => unqueried
  String.ofList path

/-- Paths match as they are; the query does not count. -/
def resource? (target : String) : Option Resource :=
  let path := pathOf target
  if path = mutatePath then some .mutation
  else if path = "/healthz" ∨ path = "/readyz" then some .health
  else none

/-- Bodies are at most so many bytes long. -/
def bodyLimit : Nat := 2097152

/-- Why a review was not taken. -/
inductive Rejection where
  | unsupportedType
  | tooLarge
  | malformed
  | mismatched
  deriving DecidableEq, Repr

def Rejection.status : Rejection → Nat
  | .unsupportedType => 415
  | .tooLarge => 413
  | .malformed => 400
  | .mismatched => 422

/-- What the explanation of a rejection starts with. -/
def Rejection.text : Rejection → String
  | .unsupportedType => "Expected request with `Content-Type"
  | .tooLarge => "Failed to buffer the request body"
  | .malformed => "Failed to parse the request body as JSON"
  | .mismatched => "Failed to deserialize the JSON body into the target type"

/-- The review in a request. Its type, its length, its text and its shape are
checked in this order. -/
def reviewIn (request : Request) : Except Rejection Review :=
  if !(request.contentType.map isJsonType).getD false then
    .error .unsupportedType
  else if bodyLimit < request.body.utf8ByteSize then .error .tooLarge
  else
    (Review.ofText request.body).mapError fun
      | .malformed => .malformed
      | .mismatched => .mismatched

/-- Handles a request: reviews are posted, the health of the program may be
asked for. -/
def handle (settings : Settings) (cluster : Cluster) (delay : Lookup → Nat)
    (request : Request) : Procedure.Run Response :=
  match resource? request.target with
  | none => { result := { status := 404 } }
  | some .health =>
      if request.method = "GET" then
        { result := { status := 200, content := .text "ok" } }
      else if request.method = "HEAD" then { result := { status := 200 } }
      else { result := { status := 405, allow := some "GET,HEAD" } }
  | some .mutation =>
      if request.method ≠ "POST" then
        { result := { status := 405, allow := some "POST" } }
      else
        match reviewIn request with
        | .error rejection =>
            { result :=
                { status := rejection.status
                  content := .text rejection.text } }
        | .ok review =>
            let run := Admission.answer settings cluster delay review
            { run with
              result := { status := 200, content := .answer run.result } }

end PodTelemetry.Http

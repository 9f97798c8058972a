import PodTelemetry.Json.Patch
import PodTelemetry.Json.Printer

namespace PodTelemetry.Admission

/-! ## Admission reviews

The cluster asks about an object that is about to be stored, and is told
whether it may be and how it is to be changed first. -/

/-- What is to be done with the object. -/
inductive Verb where
  | create | update | delete | connect
  deriving DecidableEq, Repr, Inhabited

namespace Verb

def all : List Verb := [.create, .update, .delete, .connect]

def name : Verb → String
  | .create => "Create"
  | .update => "Update"
  | .delete => "Delete"
  | .connect => "Connect"

def wireName : Verb → String
  | .create => "CREATE"
  | .update => "UPDATE"
  | .delete => "DELETE"
  | .connect => "CONNECT"

end Verb

structure Request where
  uid : String
  verb : Verb
  inNamespace : Option String := none
  object : Option Json := none
  deriving DecidableEq, Repr, Inhabited

/-- A request in its envelope, or an envelope without one. -/
structure Review where
  apiVersion : String
  kind : String
  request : Option Request
  deriving DecidableEq, Repr, Inhabited

/-- The account that a response gives of a refusal. -/
structure Refused where
  message : String
  reason : String := ""
  status : String := ""
  deriving DecidableEq, Repr, Inhabited

structure Response where
  uid : String
  refused : Option Refused := none
  patch : Option Json.Patch := none
  deriving DecidableEq, Repr

/-- A response in its envelope. -/
structure Answer where
  apiVersion : String
  kind : String
  response : Response
  deriving DecidableEq, Repr

namespace Response

def allowed (response : Response) : Bool := response.refused.isNone

/-- The object may be stored as it is. -/
def allow (request : Request) : Response := { uid := request.uid }

/-- The object may be stored after these changes. -/
def allowPatched (request : Request) (patch : Json.Patch) : Response :=
  { uid := request.uid, patch := some patch }

def deny (request : Request) (message : String) : Response :=
  { uid := request.uid, refused := some { message } }

/-- The bytes of the patch as JSON text, which is how it travels. -/
def patchBytes (patch : Json.Patch) : Json :=
  .array <|
    patch.toJson.text.toUTF8.data.toList.map fun byte =>
      Json.ofNat byte.toNat

def toJson (response : Response) : Json :=
  let status (refused : Refused) : List (String × Json) :=
    [("message", refused.message), ("reason", refused.reason),
     ("status", refused.status)]
      |>.filter (fun entry => entry.2 ≠ "")
      |>.map (fun entry => (entry.1, Json.string entry.2))
  let patch :=
    match response.patch with
    | none => []
    | some patch =>
        [("patch", patchBytes patch), ("patchType", .string "JSONPatch")]
  .object <|
    [("allowed", .bool response.allowed)] ++ patch ++
    [("status", .object ((response.refused.map status).getD [])),
     ("uid", .string response.uid)]

end Response

def Answer.toJson (answer : Answer) : Json :=
  .object
    [ ("apiVersion", .string answer.apiVersion), ("kind", .string answer.kind),
      ("response", answer.response.toJson) ]

end PodTelemetry.Admission

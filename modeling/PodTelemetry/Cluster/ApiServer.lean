import PodTelemetry.Agent.Wire
import PodTelemetry.Lookup
import PodTelemetry.Text.Quoted

namespace PodTelemetry.Cluster

open PodTelemetry.Json (Decoder Document Reader)

/-! ## Clusters behind an API server

Every lookup is a GET request. What the server answers with a status from 400
to 599 is an error, all else is the object asked for. -/

/-- What a response carries. -/
inductive Body where
  | json (value : Json)
  | text (value : String)
  deriving DecidableEq, Repr

/-- What comes of a request. -/
inductive Reply where
  | answered (status : Nat) (body : Body)
  | failed (account : String)
  deriving DecidableEq, Repr

/-- A server: its reply to a GET request for a path with its query. -/
abbrev Server := (target : String) → Reply

def Body.shown : Body → String
  | .json value => value.text
  | .text value => value

/-- Reads the only value that a text consists of. -/
def readWhole {α : Type} (reader : Reader α) (text : String) :
    Except Json.Refusal α := do
  let (document, more) := Document.ofText text
  let found ← reader Json.initialRoom document
  if more then throw .malformed
  return found

/-- How objects of a type are read: from a value, and from a text, front to
back. -/
structure Readable (α : Type) where
  ofValue : Decoder α
  ofText : Reader α

namespace ApiServer

/-! ### Requests -/

/-- Characters of a path that may stand for themselves. -/
def allowedInPath (c : Char) : Bool :=
  c = '!' || c = '"' || ('$' ≤ c && c ≤ ';') || c = '=' ||
    ('@' ≤ c && c ≤ '_') || ('a' ≤ c && c ≤ '~') || c.toNat > 0x7F

/-- Characters of a query that may stand for themselves. -/
def allowedInQuery (c : Char) : Bool :=
  c = '!' || ('$' ≤ c && c ≤ ';') || c = '=' ||
    (c.toNat ≥ 0x3F && c.toNat ≠ 0x7F)

/-- The query up to a fragment. -/
def queryPart : List Char → Option (List Char)
  | [] => some []
  | c :: rest =>
      if c = '#' then some []
      else if allowedInQuery c then (queryPart rest).map (c :: ·)
      else none

/-- Path and query up to a fragment; none when a character may not stand
there. -/
def target? : List Char → Option (List Char)
  | [] => some []
  | c :: rest =>
      if c = '#' then some []
      else if c = '?' then (queryPart rest).map (c :: ·)
      else if allowedInPath c then (target? rest).map (c :: ·)
      else none

def unsendable (account : String) : Error :=
  ⟨.kubernetes, "Failed to build request: " ++ account⟩

/-- Targets are at most so many bytes long, fragment included. -/
def targetLimit : Nat := 65534

/-- The object's name has to be there, and the whole has to be a valid
target. -/
def namedTarget (collection name : String) : Except Error String :=
  let location := collection ++ "/" ++ name
  if name = "" then
    .error <| unsendable
      "failed to validate request: A non-empty name is required"
  else if targetLimit < location.utf8ByteSize then
    .error (unsendable "failed to build request: uri too long")
  else
    match target? location.toList with
    | some target => .ok (String.ofList target)
    | none =>
        .error (unsendable "failed to build request: invalid uri character")

/-- The target of a lookup's request. -/
def targetOf : Lookup → Except Error String
  | .findNamespace name => namedTarget "/api/v1/namespaces" name
  | .listAgents => .ok "/apis/otel.splunk.com/v1alpha1/agents?"
  | .findReplicaSet inNamespace name =>
      namedTarget s!"/apis/apps/v1/namespaces/{inNamespace}/replicasets" name

/-- The request that is sent for a lookup, if there is one. -/
def requestText? (lookup : Lookup) : Option String :=
  match targetOf lookup with
  | .ok target => some ("GET " ++ target)
  | .error _ => none

/-! ### Replies -/

/-- An error as the server describes it. -/
structure StatusReport where
  status : String
  message : String := ""
  reason : String := ""
  code : Nat
  deriving DecidableEq, Repr

def StatusReport.wire : Reader StatusReport := fun room document => do
  let found ← Reader.strict
    [ Reader.needed "status" Reader.text, Reader.spared "message" Reader.text,
      Reader.spared "reason" Reader.text,
      Reader.needed "code" (Reader.whole 0 65535) ]
    room document
  let text (key : String) : String :=
    match found.get? key with
    | some (.string text) => text
    | _ => ""
  let code :=
    match found.get? "code" with
    | some (.number (.integer code)) => code.toNat
    | _ => 0
  return { status := text "status", message := text "message",
           reason := text "reason", code }

def StatusReport.text (report : StatusReport) : String :=
  let details := "ErrorResponse \x7b status: " ++ Text.quoted report.status ++
    ", message: " ++ Text.quoted report.message ++
    ", reason: " ++ Text.quoted report.reason ++
    ", code: " ++ toString report.code ++ " \x7d"
  s!"ApiError: {report.message}: {report.reason} ({details})"

/-- The phrases of the status codes for errors. -/
def phrases : List (Nat × String) :=
  [ (400, "Bad Request"), (401, "Unauthorized"), (402, "Payment Required"),
    (403, "Forbidden"), (404, "Not Found"), (405, "Method Not Allowed"),
    (406, "Not Acceptable"), (407, "Proxy Authentication Required"),
    (408, "Request Timeout"), (409, "Conflict"), (410, "Gone"),
    (411, "Length Required"), (412, "Precondition Failed"),
    (413, "Payload Too Large"), (414, "URI Too Long"),
    (415, "Unsupported Media Type"), (416, "Range Not Satisfiable"),
    (417, "Expectation Failed"), (418, "I'm a teapot"),
    (421, "Misdirected Request"), (422, "Unprocessable Entity"),
    (423, "Locked"), (424, "Failed Dependency"), (425, "Too Early"),
    (426, "Upgrade Required"), (428, "Precondition Required"),
    (429, "Too Many Requests"), (431, "Request Header Fields Too Large"),
    (451, "Unavailable For Legal Reasons"), (500, "Internal Server Error"),
    (501, "Not Implemented"), (502, "Bad Gateway"),
    (503, "Service Unavailable"), (504, "Gateway Timeout"),
    (505, "HTTP Version Not Supported"), (506, "Variant Also Negotiates"),
    (507, "Insufficient Storage"), (508, "Loop Detected"),
    (510, "Not Extended"), (511, "Network Authentication Required") ]

/-- The report of an error response; one that cannot be read is quoted in the
message. -/
def reportOf (status : Nat) (body : Body) : StatusReport :=
  let phrase := (phrases.lookup status).getD "<unknown status code>"
  match readWhole StatusReport.wire body.shown with
  | .ok report => report
  | .error _ =>
      { status := s!"{status} {phrase}"
        message := Text.quoted body.shown
        reason := "Failed to parse error data"
        code := status }

/-- Reads an object from a body. -/
def objectOf {α : Type} (readable : Readable α) (body : Body) :
    Except Error α :=
  let fault (account : String) : Error :=
    ⟨.kubernetes, "Error deserializing response: " ++ account⟩
  match body with
  | .json value =>
      (readable.ofValue value).mapError fun error => fault error.message
  | .text text =>
      (readWhole readable.ofText text).mapError fun refusal =>
        match refusal with
        | .malformed =>
            if text = "" then
              fault "EOF while parsing a value at line 1 column 0"
            else fault "expected value"
        | .mismatched => fault "invalid type or value"

/-- What a reply means for a lookup that asks for something readable. -/
def resultOf {α : Type} (readable : Readable α) : Reply → Except Error α
  | .failed account => .error ⟨.kubernetes, "ServiceError: " ++ account⟩
  | .answered status body =>
      if 400 ≤ status ∧ status < 600 then
        .error ⟨.kubernetes, (reportOf status body).text⟩
      else objectOf readable body

def namespaces : Readable Kubernetes.Namespace :=
  ⟨Kubernetes.Namespace.ofJson, Kubernetes.Namespace.wire⟩

def replicaSets : Readable Kubernetes.ReplicaSet :=
  ⟨Kubernetes.ReplicaSet.ofJson, Kubernetes.ReplicaSet.wire⟩

/-- The items of a list of agents and its metadata may not be repeated. What
else the list says of itself does not matter, but has to be JSON within the
limits. -/
def agentItems : Reader (List Agent) := fun room document => do
  let (items, _) ← Reader.members ((none, false) : Option (List Agent) × Bool)
    (fun (items, described) key room value =>
      match key with
      | "items" =>
          if items.isSome then throw .mismatched
          else do
            let found ← Reader.nullable (Reader.list Agent.wire) room value
            return (some (found.getD []), described)
      | "metadata" =>
          if described then throw .mismatched
          else do
            let _ ← Kubernetes.Wire.listMetadata room value
            return (items, true)
      | _ => do
          let _ ← Reader.any room value
          return (items, described))
    room document
  match items with
  | some items => return items
  | none => throw .mismatched

/-- Lists of agents, of which only the items are needed. -/
def agentLists : Readable (List Agent) where
  ofValue json := do
    let members ← Decoder.members "struct ObjectList" json
    match Entries.read "items" members with
    | none => throw (.missingField "items")
    | some .null => return []
    | some items => Decoder.list Agent.ofJson items
  ofText := agentItems

def fetch {α : Type} (server : Server) (readable : Readable α)
    (lookup : Lookup) : Except Error α := do
  let target ← targetOf lookup
  resultOf readable (server target)

/-- Answers by way of requests to the server. -/
def cluster (server : Server) : Cluster
  | .findNamespace name => fetch server namespaces (.findNamespace name)
  | .listAgents => fetch server agentLists .listAgents
  | .findReplicaSet inNamespace name =>
      fetch server replicaSets (.findReplicaSet inNamespace name)

/-! ### Servers -/

/-- The reply to a request for something that is not there. -/
def notFound : Reply :=
  .answered 404 <| .json <| .object
    [ ("apiVersion", .string "v1"), ("code", Json.ofNat 404),
      ("kind", .string "Status"),
      ("message", .string "the server could not find the requested resource"),
      ("metadata", .object []), ("reason", .string "NotFound"),
      ("status", .string "Failure") ]

/-- Replies by the first route with the target. -/
def ofRoutes (routes : List (String × Reply)) : Server := fun target =>
  (routes.lookup target).getD notFound

end ApiServer

end PodTelemetry.Cluster

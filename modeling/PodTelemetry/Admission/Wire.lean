import PodTelemetry.Admission.Review
import PodTelemetry.Kubernetes.Wire

namespace PodTelemetry.Admission

open PodTelemetry.Json (Document Reader Refusal)
open PodTelemetry.Kubernetes (ObjectMeta)

/-! ## Reading reviews off the wire

A review is read front to back: the first thing amiss decides how it is
refused. -/

/-! ### Objects -/

/-- An object of any type: its metadata, and its other members in order of
appearance. -/
structure Loose where
  metadata : Option ObjectMeta := none
  others : List (String × Json) := []

/-- The version and kind of an object, if both are there once and are texts,
and the members without them. Reading them stops at the first that is amiss,
and what comes after it is left in place. -/
def versionAndKind (version kind : Option String) :
    List (String × Json) → Option (String × String) × List (String × Json)
  | [] =>
      match version, kind with
      | some version, some kind => (some (version, kind), [])
      | _, _ => (none, [])
  | (key, value) :: rest =>
      match key, value, version, kind with
      | "apiVersion", .string text, none, kind =>
          versionAndKind (some text) kind rest
      | "kind", .string text, version, none =>
          versionAndKind version (some text) rest
      | "apiVersion", _, _, _ => (none, rest)
      | "kind", _, _, _ => (none, rest)
      | key, value, version, kind =>
          let (found, others) := versionAndKind version kind rest
          (found, (key, value) :: others)

def Loose.toJson (object : Loose) : Json :=
  let (found, others) := versionAndKind none none object.others
  let types :=
    match found with
    | some (version, kind) =>
        [("apiVersion", Json.string version), ("kind", Json.string kind)]
    | none => []
  Json.ofMembers
    (types ++ [("metadata", (object.metadata.getD {}).toJson)] ++ others)

/-- Metadata may not be repeated and not be null. -/
def object : Reader Json := fun room document =>
  (Reader.members ({} : Loose) (fun taken key room value =>
    if key = "metadata" then
      match taken.metadata with
      | some _ => .error .mismatched
      | none => do
          let found ← ObjectMeta.wire room value
          return { taken with metadata := some found }
    else do
      let found ← Reader.any room value
      return { taken with others := taken.others ++ [(key, found)] })
    room document).map Loose.toJson

/-! ### Requests -/

def groupKind : Reader Json :=
  Reader.strict
    [ Reader.needed "group" Reader.text, Reader.needed "version" Reader.text,
      Reader.needed "kind" Reader.text ]

def groupResource : Reader Json :=
  Reader.strict
    [ Reader.needed "group" Reader.text, Reader.needed "version" Reader.text,
      Reader.needed "resource" Reader.text,
      Reader.spared "api_version" Reader.text ]

def userInfo : Reader Json :=
  Reader.loose
    [ ("extra", Reader.encoded Json.ofMembers (Reader.map Reader.texts)),
      ("groups", Reader.texts), ("uid", Reader.text),
      ("username", Reader.text) ]

def requestFields : List Reader.Field :=
  [ Reader.needed "uid" Reader.text, Reader.needed "kind" groupKind,
    Reader.needed "resource" groupResource,
    Reader.spared "subResource" (Reader.orNull Reader.text),
    Reader.spared "requestKind" (Reader.orNull groupKind),
    Reader.spared "requestResource" (Reader.orNull groupResource),
    Reader.spared "requestSubResource" (Reader.orNull Reader.text),
    Reader.spared "name" Reader.text,
    Reader.placed "namespace" (Reader.orNull Reader.text),
    Reader.needed "operation" (Reader.variant (Verb.all.map Verb.wireName)),
    Reader.needed "userInfo" userInfo,
    Reader.placed "object" (Reader.orNull object),
    Reader.placed "oldObject" (Reader.orNull object),
    Reader.spared "dryRun" Reader.flag,
    Reader.spared "options" (Reader.orNull Reader.any) ]

def textOf? (json : Json) (key : String) : Option String :=
  match json.get? key with
  | some (.string text) => some text
  | _ => none

def request : Reader Request := fun room document => do
  let found ← Reader.strict requestFields room document
  let verb := (textOf? found "operation").bind fun name =>
    Verb.all.find? fun verb => verb.wireName = name
  return {
    uid := (textOf? found "uid").getD ""
    verb := verb.getD .create
    inNamespace := textOf? found "namespace"
    object := (found.get? "object").filter (· ≠ .null) }

/-! ### Reviews -/

/-- Why something was refused, in more detail. -/
def detailFields : List Reader.Field :=
  let cause :=
    Reader.strict
      [ Reader.spared "reason" Reader.text,
        Reader.spared "message" Reader.text,
        Reader.spared "field" Reader.text ]
  [ Reader.spared "name" Reader.text, Reader.spared "group" Reader.text,
    Reader.spared "kind" Reader.text, Reader.spared "uid" Reader.text,
    Reader.spared "causes" (Reader.listOf cause),
    Reader.spared "retryAfterSeconds" (Reader.whole 0 4294967295) ]

def statusFields : List Reader.Field :=
  [ Reader.spared "status"
      (Reader.orNull (Reader.variant ["Success", "Failure"])),
    Reader.spared "code" (Reader.whole 0 65535),
    Reader.spared "message" Reader.text,
    Reader.spared "reason" Reader.text,
    Reader.spared "details" (Reader.orNull (Reader.strict detailFields)) ]

/-- A response is checked and then not used. -/
def responseFields : List Reader.Field :=
  [ Reader.needed "uid" Reader.text, Reader.needed "allowed" Reader.flag,
    Reader.needed "status" (Reader.strict statusFields),
    Reader.placed "patch" (Reader.orNull (Reader.listOf (Reader.whole 0 255))),
    Reader.placed "patchType" (Reader.orNull (Reader.variant ["JSONPatch"])),
    Reader.spared "auditAnnotations" Reader.textMap,
    Reader.placed "warnings" (Reader.orNull Reader.texts) ]

/-- The parts of an envelope as they come. -/
structure Envelope where
  request : Option (Option Request) := none
  response : Option Unit := none
  others : List (String × Json) := []

/-- The text of the only member with the key. -/
def Envelope.soleText (envelope : Envelope) (key : String) :
    Except Refusal String :=
  match envelope.others.filter fun member => member.1 = key with
  | [(_, .string text)] => .ok text
  | _ => .error .mismatched

def review : Reader Review := fun room document => do
  let envelope ← Reader.members ({} : Envelope) (fun taken key room value =>
    if key = "request" then
      match taken.request with
      | some _ => .error .mismatched
      | none => do
          let found ← Reader.nullable request room value
          return { taken with request := some found }
    else if key = "response" then
      match taken.response with
      | some _ => .error .mismatched
      | none => do
          let _ ← Reader.nullable (Reader.strict responseFields) room value
          return { taken with response := some () }
    else do
      let found ← Reader.any room value
      return { taken with others := taken.others ++ [(key, found)] })
    room document
  let apiVersion ← envelope.soleText "apiVersion"
  let kind ← envelope.soleText "kind"
  return { apiVersion, kind, request := envelope.request.join }

/-- Reads a review that has nothing but blanks after it. -/
def Review.ofText (text : String) : Except Refusal Review := do
  let (document, more) := Document.ofText text
  let found ← review Json.initialRoom document
  if more then throw .malformed
  return found

end PodTelemetry.Admission

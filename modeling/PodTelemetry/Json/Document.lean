import PodTelemetry.Json.Token

namespace PodTelemetry.Json

/-! ## Documents as far as they can be read

A document that is not well formed still has a part before the fault, and a
reader that takes what it needs in order of appearance may stop within that
part. `Document` is the tree of the part before the fault: `broken` stands
where a value could not be read, `keyless` where an object starts with
something else than a key, and an array or object is not `closed` when the
fault lies behind its last item or member. Along the way to a fault every
container is open, and a document has at most one fault. -/

/-- A syntax tree. A key is missing when it names half of a surrogate pair
alone. -/
inductive Document where
  | broken
  | keyless (start : Document)
  | null
  | bool (value : Bool)
  | number (text : NumberText)
  | string (text : Option String)
  | array (items : List Document) (closed : Bool)
  | object (members : List (Option String × Document)) (closed : Bool)
  deriving Repr, Inhabited

/-- A container whose contents are being read, with the contents so far, latest
first. -/
inductive Document.Frame where
  | item (done : List Document)
  | member (done : List (Option String × Document)) (key : Option String)

/-- What may come next. -/
inductive Document.Expecting where
  | value
  | firstItem
  | afterItem (done : List Document)
  | key (done : List (Option String × Document)) (first : Bool)
  | colon (done : List (Option String × Document)) (key : Option String)
  | afterMember (done : List (Option String × Document))

/-- Where one token leads to. -/
inductive Document.Step where
  | next (expecting : Document.Expecting) (frames : List Document.Frame)
  | finished (document : Document)
  | stuck

namespace Document

/-- A value is complete; it goes into the innermost container. -/
def deliver (value : Document) : List Frame → Step
  | [] => .finished value
  | .item done :: frames => .next (.afterItem (value :: done)) frames
  | .member done key :: frames =>
      .next (.afterMember ((key, value) :: done)) frames

/-- The token at the start of a value. -/
def startValue (frames : List Frame) : Token → Step
  | .null => deliver .null frames
  | .bool value => deliver (.bool value) frames
  | .number text => deliver (.number text) frames
  | .string text => deliver (.string text) frames
  | .leftBracket => .next .firstItem frames
  | .leftBrace => .next (.key [] true) frames
  | _ => .stuck

def step (frames : List Frame) : Expecting → Token → Step
  | .value, token => startValue frames token
  | .firstItem, .rightBracket => deliver (.array [] true) frames
  | .firstItem, token => startValue (.item [] :: frames) token
  | .afterItem done, .comma => .next .value (.item done :: frames)
  | .afterItem done, .rightBracket => deliver (.array done.reverse true) frames
  | .key done _, .string key => .next (.colon done key) frames
  | .key done true, .rightBrace => deliver (.object done.reverse true) frames
  | .colon done key, .colon => .next .value (.member done key :: frames)
  | .afterMember done, .comma => .next (.key done false) frames
  | .afterMember done, .rightBrace =>
      deliver (.object done.reverse true) frames
  | _, _ => .stuck

/-- The innermost container at a fault. -/
def Expecting.opened : Expecting → Document
  | .value => .broken
  | .firstItem => .array [] false
  | .afterItem done => .array done.reverse false
  | .key done _ => .object done.reverse false
  | .colon done name => .object ((name, .broken) :: done).reverse false
  | .afterMember done => .object done.reverse false

/-- The innermost container when a token does not fit. -/
def Expecting.openedAt : Expecting → Token → Document
  | .key [] true, .null => .keyless .null
  | .key [] true, .bool truth => .keyless (.bool truth)
  | .key [] true, .number text => .keyless (.number text)
  | .key [] true, .leftBracket => .keyless (.array [] false)
  | .key [] true, .leftBrace => .keyless (.object [] false)
  | expecting, _ => expecting.opened

/-- The whole document, given the innermost container at the fault. -/
def abandoned (innermost : Document) (frames : List Frame) : Document :=
  frames.foldl
    (fun inner frame =>
      match frame with
      | .item done => .array (inner :: done).reverse false
      | .member done key => .object ((key, inner) :: done).reverse false)
    innermost

/-- The first document of the tokens, and whether anything follows it. -/
def assemble (expecting : Expecting) (frames : List Frame) :
    List Token → Document × Bool
  | [] => (abandoned expecting.opened frames, false)
  | token :: rest =>
      match step frames expecting token with
      | .next expecting frames => assemble expecting frames rest
      | .finished document => (document, !rest.isEmpty)
      | .stuck => (abandoned (expecting.openedAt token) frames, false)

/-- The document at the start of a text, and whether anything but blanks
follows it. -/
def ofText (text : String) : Document × Bool :=
  assemble .value [] (tokens text)

end Document

end PodTelemetry.Json

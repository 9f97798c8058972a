import PodTelemetry.Dictionary
import PodTelemetry.Kubernetes.EnvVar
import PodTelemetry.Names
import PodTelemetry.Text.Blank
import PodTelemetry.Text.Pieces

namespace PodTelemetry

open Kubernetes (EnvVar)

/-! ## Resource attributes

Resource attributes travel in one environment variable, as `key=value` pairs
with commas between them. What a container already declares there is kept: it
wins over what is derived for it. -/

/-- Attributes with their values, in key order. -/
abbrev Attributes := Dictionary String

namespace Attributes

/-- Sets an attribute unless the value is empty. -/
def put (attributes : Attributes) (key value : String) : Attributes :=
  if value = "" then attributes else attributes.insert key value

/-! ### Pairs -/

/-- A pair has exactly one equals sign; blanks around the key and around the
value do not count. Either may be empty. -/
def pair? (piece : List Char) : Option (String × String) := do
  let (key, value) ← Text.cut? '=' (Text.trim piece)
  if '=' ∈ value then none
  else some (String.ofList (Text.trim key), String.ofList (Text.trim value))

/-- The pieces between the commas of a variable's text. -/
def piecesOf (text : String) : List (List Char) := Text.pieces ',' text.toList

/-- Every pair among the pieces, over what the attributes hold; later pairs win
over earlier ones. -/
def overlay (attributes : Attributes) (pieces : List (List Char)) :
    Attributes :=
  (pieces.filterMap pair?).foldl (fun done pair => done.insert pair.1 pair.2)
    attributes

/-- The pieces that are no pairs. -/
def malformed (pieces : List (List Char)) : List String :=
  (pieces.filter fun piece => (pair? piece).isNone).map String.ofList

/-- The attributes as a variable's text. -/
def text (attributes : Attributes) : String :=
  String.ofList <| Text.joined ',' <|
    attributes.entries.map fun entry => entry.1.toList ++ '=' :: entry.2.toList

/-! ### Merging with a container's variables -/

/-- Attributes together with what a container declares. -/
structure Merged where
  attributes : Attributes
  /-- Where the container declares its attributes, if it does. -/
  existingIndex : Option Nat
  /-- The declared pieces that are no pairs. -/
  skipped : List String
  deriving DecidableEq, Repr

/-- Whether a variable declares resource attributes. -/
def declares (entry : EnvVar) : Bool := entry.name = Env.resourceAttributes

/-- The pieces of the first declaration, none when it has no text. -/
def declaredPieces (env : List EnvVar) : List (List Char) :=
  match (env.find? declares).bind (·.value) with
  | some text => piecesOf text
  | none => []

/-- The first declaration in the variables laid over the attributes. -/
def mergedWith (attributes : Attributes) (env : List EnvVar) : Merged where
  attributes := overlay attributes (declaredPieces env)
  existingIndex := env.findIdx? declares
  skipped := malformed (declaredPieces env)

end Attributes

end PodTelemetry

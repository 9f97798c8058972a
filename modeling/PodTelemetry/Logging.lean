import PodTelemetry.Logging.Directive

namespace PodTelemetry

/-! ## Which events are logged

A filter is written as directives with commas between them. A directive sets
how detailed the events may be that come from one part of the program, or from
all of it. The question is asked before the values of an event are known, and
outside of all spans. -/

/-- How a logged event is laid out. -/
inductive LogFormat where
  | json
  | text
  deriving DecidableEq, Repr, Inhabited

def LogFormat.all : List LogFormat := [.json, .text]

def LogFormat.name : LogFormat → String
  | .json => "json"
  | .text => "text"

/-- Directives in the order in which they were given. -/
abbrev LogFilter := List Directive

namespace LogFilter

/-- What is logged when nothing else is said. -/
def standardText : String :=
  "info,splunk_otel_operator=debug,kube=info,tower=warn,hyper=warn"

/-- The texts of the directives; empty ones do not count. -/
def parts (text : String) : List (List Char) :=
  (Text.pieces ',' text.toList).filter fun part => !part.isEmpty

/-- The filter that a text writes, if each directive in it can be read. -/
def ofText? (text : String) : Option LogFilter :=
  (parts text).mapM Directive.ofText?

/-- The filter of the directives in a text that can be read; errors pass when
there is none. -/
def ofReadablePart (text : String) : LogFilter :=
  match (parts text).filterMap Directive.ofText? with
  | [] => [{ limit := some .error }]
  | directives => directives

/-- The filter that the environment asks for, if it can be read, or else the
one given. -/
def chosen (asked : Option String) (text : String) : LogFilter :=
  (asked.bind ofText?).getD (ofReadablePart text)

/-- The directive that decides about the events of a source. -/
def deciding? (filter : LogFilter) (source : String) : Option Directive :=
  (filter.filter fun directive => directive.concerns source).foldl
    (fun best directive =>
      match best with
      | none => some directive
      | some earlier =>
          if directive.overrides earlier then some directive else best)
    none

/-- Whether events of a source and a level are logged. -/
def permits (filter : LogFilter) (source : String) (level : Level) : Bool :=
  match filter.deciding? source with
  | none => false
  | some directive => directive.limit.permits level

end LogFilter

/-- How the program logs. -/
structure LogSettings where
  format : LogFormat := .json
  filter : String := LogFilter.standardText
  deriving DecidableEq, Repr, Inhabited

end PodTelemetry

import PodTelemetry.Event
import PodTelemetry.Text.Digits
import PodTelemetry.Text.Pieces

namespace PodTelemetry

/-! ## How detailed the logged events are -/

namespace Level

/-- From the gravest to the most detailed. -/
def all : List Level := [.error, .warn, .info, .debug, .trace]

def name : Level → String
  | .error => "ERROR"
  | .warn => "WARN"
  | .info => "INFO"
  | .debug => "DEBUG"
  | .trace => "TRACE"

/-- How detailed a level is. -/
def detail : Level → Nat
  | .error => 1
  | .warn => 2
  | .info => 3
  | .debug => 4
  | .trace => 5

end Level

/-- The most detailed level that is let through; none lets nothing through. -/
abbrev LevelLimit := Option Level

namespace LevelLimit

def all : List LevelLimit := none :: Level.all.map some

def name (limit : LevelLimit) : String := (limit.map Level.name).getD "OFF"

def detail (limit : LevelLimit) : Nat := (limit.map Level.detail).getD 0

/-- A limit is written by name, capitals or not, or by how detailed it is. -/
def ofText? (text : String) : Option LevelLimit :=
  all.find? fun limit =>
    Text.sameIgnoringCase limit.name text ||
    Text.number? 5 text = some limit.detail

def permits (limit : LevelLimit) (level : Level) : Bool :=
  level.detail ≤ limit.detail

end LevelLimit

end PodTelemetry

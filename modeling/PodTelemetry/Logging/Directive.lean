import PodTelemetry.Logging.Level
import PodTelemetry.Text.Alphanumeric
import PodTelemetry.Text.Blank
import PodTelemetry.Text.Pattern

namespace PodTelemetry

/-! ## Directives of a log filter

A directive names a source, then in square brackets a span and in braces a
value that is recorded, and after an equals sign a limit. Each of these may be
left out, and a limit may stand alone. -/

/-- The limit for the events whose source has a name that starts like this. -/
structure Directive where
  source : String := ""
  /-- A value that is recorded with the events. -/
  recorded : Option String := none
  /-- Whether the limit is only for events inside of certain spans. -/
  insideSpan : Bool := false
  limit : LevelLimit
  deriving DecidableEq, Repr

namespace Directive

/-- What may begin a directive, an opening bracket apart. -/
def startsSource (c : Char) : Bool :=
  Text.isAlphanumeric c || c ∈ ['-', ':', '_']

/-- The limit that a text writes; an empty text lets everything through. -/
def limit? (text : List Char) : Option LevelLimit :=
  if text.isEmpty then some (some .trace)
  else LevelLimit.ofText? (String.ofList text)

/-- A limit alone, or a source alone, for which all is let through. -/
def ofWord (word : List Char) : Directive :=
  match LevelLimit.ofText? (String.ofList word) with
  | some limit => { limit }
  | none => { source := String.ofList word, limit := some .trace }

/-- The value by its name, or by its name and, after an equals sign, a pattern
or number that it is compared with. The second part tells whether it is
compared. -/
def recorded? (text : List Char) : Option (String × Bool) :=
  match Text.pieces '=' text with
  | name :: pattern :: _ =>
      let number := Text.number? 18446744073709551615 (String.ofList pattern)
      if Text.isPattern pattern || number.isSome then
        some (String.ofList name, true)
      else none
  | _ => if text.isEmpty then none else some (String.ofList text, false)

/-- Reads a directive. The places of its marks are counted from its first
character that is not blank, but its parts are taken from the text as written,
so that blanks in front move them. -/
def ofText? (text : List Char) : Option Directive :=
  let trimmed := Text.trim text
  let part (start stop : Nat) : List Char := (text.take stop).drop start
  /- what follows the brackets, which begins at this place -/
  let limited (start : Nat) (directive : Directive) : Option Directive :=
    match trimmed.drop start with
    | [] => some directive
    | '=' :: _ =>
        (limit? (text.drop (start + 1))).map fun limit =>
          { directive with limit }
    | _ => none
  match trimmed.head? with
  | none => none
  | some first =>
      let sourceEnd := (trimmed.takeWhile fun c => c ≠ '=' ∧ c ≠ '[').length
      let directive : Directive :=
        { source := String.ofList (part 0 sourceEnd), limit := some .trace }
      if first ≠ '[' && !startsSource first then none
      else
        match trimmed.drop sourceEnd with
        | [] => some (ofWord text)
        | '=' :: _ => limited sourceEnd directive
        | _ :: inside =>
            let span := inside.takeWhile fun c => c ≠ ']' ∧ c ≠ '\x7b'
            let spanEnd := sourceEnd + 1 + span.length
            let named := sourceEnd + 1 < spanEnd
            match trimmed.drop spanEnd with
            | [] => none
            | ']' :: _ =>
                limited (spanEnd + 1) { directive with insideSpan := true }
            | _ :: values =>
                let valueEnd :=
                  spanEnd + 1 + (values.takeWhile (· ≠ '\x7d')).length
                let recorded := recorded? (part (spanEnd + 1) valueEnd)
                match trimmed.drop valueEnd, recorded with
                | '\x7d' :: ']' :: _, some (name, compared) =>
                    limited (valueEnd + 2)
                      { directive with
                        recorded := some name
                        insideSpan := named || compared }
                | _, _ => none

def concerns (directive : Directive) (source : String) : Bool :=
  !directive.insideSpan && directive.source.toList.isPrefixOf source.toList

/-- Directives with longer names are more particular, then those with a
recorded value, the later in the order of their names; of two for the same
events the later counts. -/
def overrides (later earlier : Directive) : Bool :=
  if earlier.source.utf8ByteSize ≠ later.source.utf8ByteSize then
    earlier.source.utf8ByteSize < later.source.utf8ByteSize
  else
    match earlier.recorded, later.recorded with
    | none, _ => true
    | some _, none => false
    | some before, some after => before ≤ after

end Directive

end PodTelemetry

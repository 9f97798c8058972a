namespace PodTelemetry.CommandLine

/-! ## Scanning arguments

A command has options with long names, some of them with a letter as well, and
commands of its own. Scanning goes through the arguments once. A value that
does not stand in one argument with its option is only looked at when the next
option begins or the arguments end. -/

/-- Why arguments do not lead to settings: they ask for something else, or
something is amiss. -/
inductive Stop where
  | helpWanted
  | versionWanted
  | unknownArgument
  | unknownCommand
  /-- The value is missing, empty or none of those there are. -/
  | invalidValue
  /-- The value cannot be read. -/
  | unreadableValue
  | repeated
  /-- There is a value where none may be. -/
  | surplusValue
  deriving DecidableEq, Repr, Inhabited

/-- Keeps a value in the settings. -/
abbrev Keep (σ : Type) := String → σ → Except Stop σ

/-- What an option does. -/
inductive Effect (σ : Type) where
  | stop (reason : Stop)
  | mark (mark : σ → σ)
  /-- Takes a value, from the environment when the arguments give none. -/
  | keep (source : String) (keep : Keep σ)

/-- An option, named without the hyphens. -/
structure LongOption (σ : Type) where
  name : String
  effect : Effect σ

/-- A command: its options, the letters that stop, the commands that may
follow, and what a word amounts to that has no place. -/
structure Command (σ : Type) where
  options : List (LongOption σ)
  letters : List (Char × Stop)
  commands : List String := []
  stray : Stop

/-- An option that waits for its value, or for being kept with it. -/
structure Waiting (σ : Type) where
  name : String
  keep : Keep σ
  value : Option String := none

/-- How far scanning has come. -/
structure Progress (σ : Type) where
  settings : σ
  given : List String := []
  waiting : Option (Waiting σ) := none

namespace Progress

variable {σ : Type}

/-- Whether the next word is a value. -/
def wantsValue (progress : Progress σ) : Bool :=
  progress.waiting.any fun waiting => waiting.value.isNone

/-- Changes the settings for an option, which may be given only once. -/
def take (progress : Progress σ) (name : String) (change : σ → Except Stop σ) :
    Except Stop (Progress σ) :=
  if name ∈ progress.given then .error .repeated
  else do
    return { settings := ← change progress.settings,
             given := name :: progress.given }

/-- Keeps the value of the option that waits, if there is one. -/
def settle (progress : Progress σ) : Except Stop (Progress σ) :=
  match progress.waiting with
  | none => .ok progress
  | some waiting =>
      match waiting.value with
      | none => .error .invalidValue
      | some value => progress.take waiting.name (waiting.keep value)

end Progress

namespace Command

variable {σ : Type}

/-- Goes on with a long option, given with or without a value. -/
def withLong (command : Command σ) (progress : Progress σ) (name : String)
    (value : Option String) : Except Stop (Progress σ) :=
  match command.options.find? fun option => option.name = name with
  | none => .error .unknownArgument
  | some option =>
      match option.effect, value with
      | .keep _ keep, none => do
          return { ← progress.settle with waiting := some { name, keep } }
      | .keep _ keep, some value =>
          do (← progress.settle).take name (keep value)
      | .stop _, some _ | .mark _, some _ => .error .surplusValue
      | .stop stop, none => do
          let _ ← progress.settle
          throw stop
      | .mark mark, none =>
          do (← progress.settle).take name fun settings => .ok (mark settings)

/-- The reason to stop at letters after a hyphen: the first of them decides. -/
def stopAtLetter (command : Command σ) (progress : Progress σ)
    (letter : Char) : Stop :=
  match command.letters.lookup letter with
  | none => .unknownArgument
  | some stop =>
      match progress.settle with
      | .ok _ => stop
      | .error earlier => earlier

/-- The reason to stop at a word that only two hyphens let be a word. -/
def stopAtWord (command : Command σ) (word : String) : Stop :=
  if word ∈ command.commands then .unknownArgument else command.stray

/-- Scans arguments up to the command that follows, if one does; it comes back
with the arguments after it. -/
def scan (command : Command σ) (progress : Progress σ) :
    List String → Except Stop (Progress σ × Option (String × List String))
  | [] => .ok (progress, none)
  | argument :: rest =>
      if !progress.wantsValue && argument ∈ command.commands then
        .ok (progress, some (argument, rest))
      else
        match argument.toList, progress.waiting with
        | ['-', '-'], _ =>
            match rest with
            | [] => .ok (progress, none)
            | word :: _ => .error (command.stopAtWord word)
        | '-' :: '-' :: text, _ =>
            let name := String.ofList (text.takeWhile (· ≠ '='))
            let value := (text.dropWhile (· ≠ '=')).tail?.map String.ofList
            match command.withLong progress name value with
            | .error stop => .error stop
            | .ok progress => command.scan progress rest
        | '-' :: letter :: _, _ =>
            .error (command.stopAtLetter progress letter)
        | _, some waiting =>
            if progress.wantsValue then
              let waiting := { waiting with value := argument }
              command.scan { progress with waiting := some waiting } rest
            else .error command.stray
        | _, none => .error command.stray

/-- Keeps the value that the environment has for an option, unless the
arguments gave one. -/
def fromEnvironment (environment : String → Option String)
    (given : List String) (settings : σ) (option : LongOption σ) :
    Except Stop σ :=
  match option.effect with
  | .keep source keep =>
      match environment source with
      | some value =>
          if option.name ∈ given then .ok settings else keep value settings
      | none => .ok settings
  | .mark _ | .stop _ => .ok settings

/-- The settings when there are no more arguments. -/
def finish (command : Command σ) (environment : String → Option String)
    (progress : Progress σ) : Except Stop σ := do
  let settled ← progress.settle
  command.options.foldlM (fromEnvironment environment settled.given)
    settled.settings

end Command

end PodTelemetry.CommandLine

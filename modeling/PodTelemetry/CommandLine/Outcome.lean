import PodTelemetry.Agent.Definition
import PodTelemetry.CommandLine.Settings
import PodTelemetry.Json.Yaml

namespace PodTelemetry.CommandLine

/-! ## What a run of the program comes to -/

/-- What is left to do once the arguments are read. -/
inductive Plan where
  | printDefinition
  | serve (format : LogFormat) (settings : WebhookSettings)
  | stop (reason : Stop)
  deriving DecidableEq, Repr

/-- The plan that arguments and environment make. Printing the definition comes
before all else, and the webhook is served when no command is given. -/
def plan (environment : Environment) (arguments : List String) : Plan :=
  match readProgram environment arguments with
  | .error stop => .stop stop
  | .ok settings =>
      if settings.printsDefinition then .printDefinition
      else
        match settings.webhook with
        | some webhook => .serve settings.logFormat webhook
        | none =>
            match readWebhook environment [] with
            | .ok webhook => .serve settings.logFormat webhook
            | .error stop => .stop stop

/-- What a finished run has written and how it ended. -/
structure Outcome where
  exitCode : UInt8 := 0
  output : String := ""
  complaint : String := ""
  deriving DecidableEq, Repr

def programName : String := "splunk-otel-operator"

def programVersion : String := "0.1.0"

/-- The names of a command's options, each with the variable that may stand in
for it. -/
def optionLines {σ : Type} (command : Command σ) : List String :=
  command.options.map fun option =>
    match option.effect with
    | .keep source _ =>
        "  --" ++ option.name ++ " <VALUE> [env: " ++ source ++ "]"
    | .mark _ | .stop _ => "  --" ++ option.name

def usage : String :=
  let lines :=
    ["Usage: " ++ programName ++ " [OPTIONS] [webhook [OPTIONS] | help]", "",
      "Options:"] ++
    optionLines programCommand ++ ["", "Options of the webhook:"] ++
    optionLines webhookCommand
  String.join (lines.map (· ++ "\n"))

def Stop.complaint : Stop → String
  | .helpWanted | .versionWanted => ""
  | .unknownArgument => "error: unexpected argument"
  | .unknownCommand => "error: unrecognized command"
  | .invalidValue => "error: a value is missing or not among the possible ones"
  | .unreadableValue => "error: a value cannot be read"
  | .repeated => "error: an option is given more than once"
  | .surplusValue => "error: an option that takes no value is given one"

def Stop.outcome : Stop → Outcome
  | .helpWanted => { output := usage }
  | .versionWanted =>
      { output := programName ++ " " ++ programVersion ++ "\n" }
  | fault => { exitCode := 2, complaint := fault.complaint }

/-- The outcome where there is no cluster to serve; the definition is printed
with an empty line after it. -/
def Plan.outcome : Plan → Outcome
  | .printDefinition => { output := Agent.definition.yaml ++ "\n" }
  | .serve _ _ =>
      { exitCode := 1, complaint := "Error: no cluster can be reached" }
  | .stop reason => reason.outcome

end PodTelemetry.CommandLine

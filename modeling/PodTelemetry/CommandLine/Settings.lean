import PodTelemetry.Admission.Webhook
import PodTelemetry.CommandLine.Scan
import PodTelemetry.Logging
import PodTelemetry.Server

namespace PodTelemetry.CommandLine

open PodTelemetry.Admission (FailurePolicy)
open PodTelemetry.Network (SocketAddress)

/-! ## What the command line sets -/

/-- An environment: the values of the variables that are set. -/
abbrev Environment := String → Option String

/-- How the webhook is run. -/
structure WebhookSettings where
  server : ServerConfig := {}
  deadlineSeconds : UInt64 := UInt64.ofNat Admission.defaultDeadlineSeconds
  failurePolicy : FailurePolicy := .ignore
  operator : OperatorConfig := {}
  deriving DecidableEq, Repr

/-- What the whole command line asks for. -/
structure ProgramSettings where
  printsDefinition : Bool := false
  logFormat : LogFormat := .json
  webhook : Option WebhookSettings := none
  deriving DecidableEq, Repr

def WebhookSettings.admission (settings : WebhookSettings) :
    Admission.Settings where
  operator := settings.operator
  deadlineMilliseconds := settings.deadlineSeconds.toNat * 1000
  failurePolicy := settings.failurePolicy

/-! ### Values -/

section

variable {σ : Type}

/-- Any text is kept. -/
def keepText (set : String → σ → σ) : Keep σ :=
  fun text settings => .ok (set text settings)

/-- A path is not empty. -/
def keepPath (set : String → σ → σ) : Keep σ := fun text settings =>
  if text = "" then .error .invalidValue else .ok (set text settings)

/-- A value that can be read. -/
def keepRead {α : Type} (read? : String → Option α) (set : α → σ → σ) :
    Keep σ :=
  fun text settings =>
    match read? text with
    | some value => .ok (set value settings)
    | none => .error .unreadableValue

/-- One of several values, by its name. -/
def keepChoice {α : Type} (choices : List α) (name : α → String)
    (set : α → σ → σ) : Keep σ :=
  fun text settings =>
    match choices.find? fun choice => name choice = text with
    | some choice => .ok (set choice settings)
    | none => .error .invalidValue

end

/-! ### Commands -/

def policyName : FailurePolicy → String
  | .ignore => "ignore"
  | .fail => "fail"

def seconds? (text : String) : Option UInt64 :=
  (Text.number? (UInt64.size - 1) text).map UInt64.ofNat

def helpOption {σ : Type} : LongOption σ :=
  { name := "help", effect := .stop .helpWanted }

def webhookCommand : Command WebhookSettings where
  options :=
    [ { name := "addr"
        effect := .keep "WEBHOOK_ADDR" <|
          keepRead SocketAddress.ofText? fun address settings =>
            { settings with server := { settings.server with address } } },
      { name := "tls-cert"
        effect := .keep "WEBHOOK_TLS_CERT" <|
          keepPath fun certificatePath settings =>
            { settings with
              server := { settings.server with certificatePath } } },
      { name := "tls-key"
        effect := .keep "WEBHOOK_TLS_KEY" <|
          keepPath fun keyPath settings =>
            { settings with server := { settings.server with keyPath } } },
      { name := "deadline-secs"
        effect := .keep "WEBHOOK_DEADLINE_SECS" <|
          keepRead seconds? fun deadlineSeconds settings =>
            { settings with deadlineSeconds } },
      { name := "failure-policy"
        effect := .keep "WEBHOOK_FAILURE_POLICY" <|
          keepChoice [.ignore, .fail] policyName fun failurePolicy settings =>
            { settings with failurePolicy } },
      { name := "operator-namespace"
        effect := .keep "OPERATOR_NAMESPACE" <|
          keepText fun operatorNamespace settings =>
            { settings with
              operator := { settings.operator with operatorNamespace } } },
      { name := "gateway-service"
        effect := .keep "GATEWAY_SERVICE" <|
          keepText fun gatewayService settings =>
            { settings with
              operator := { settings.operator with gatewayService } } },
      { name := "java-agent-image"
        effect := .keep "JAVA_AGENT_IMAGE" <|
          keepText fun defaultJavaImage settings =>
            { settings with
              operator := { settings.operator with defaultJavaImage } } },
      helpOption ]
  letters := [('h', .helpWanted)]
  stray := .unknownArgument

def programCommand : Command ProgramSettings where
  options :=
    [ { name := "crd"
        effect := .mark fun settings =>
          { settings with printsDefinition := true } },
      { name := "log-format"
        effect := .keep "LOG_FORMAT" <|
          keepChoice LogFormat.all LogFormat.name fun logFormat settings =>
            { settings with logFormat } },
      helpOption, { name := "version", effect := .stop .versionWanted } ]
  letters := [('h', .helpWanted), ('V', .versionWanted)]
  commands := ["webhook", "help"]
  stray := .unknownCommand

/-! ### Reading -/

/-- The settings that the arguments after the webhook's name give. -/
def readWebhook (environment : Environment) (arguments : List String) :
    Except Stop WebhookSettings := do
  let (progress, _) ← webhookCommand.scan { settings := {} } arguments
  webhookCommand.finish environment progress

/-- What the help command comes to: it explains the program or one of its
commands. -/
def readHelp (arguments : List String) : Stop :=
  match arguments with
  | [] => .helpWanted
  | [command] =>
      if command ∈ programCommand.commands then .helpWanted
      else .unknownCommand
  | _ => .unknownCommand

/-- The settings that all arguments after the program's name give. What comes
after a command is looked at before what is left of the program's own
options. -/
def readProgram (environment : Environment) (arguments : List String) :
    Except Stop ProgramSettings := do
  let (progress, command) ← programCommand.scan { settings := {} } arguments
  match command with
  | none => programCommand.finish environment progress
  | some ("webhook", rest) =>
      let webhook ← readWebhook environment rest
      let settings ← programCommand.finish environment progress
      return { settings with webhook := some webhook }
  | some (_, rest) => throw (readHelp rest)

end PodTelemetry.CommandLine

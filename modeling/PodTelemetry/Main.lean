import PodTelemetry.CommandLine.Outcome

namespace PodTelemetry.CommandLine

/-- The values of the variables that options may be taken from. -/
def readEnvironment : IO Environment := do
  let sourcesOf {σ : Type} (command : Command σ) : List String :=
    command.options.filterMap fun option =>
      match option.effect with
      | .keep source _ => some source
      | .mark _ | .stop _ => none
  let entries ←
    (sourcesOf webhookCommand ++ sourcesOf programCommand).mapM fun source =>
    return (source, ← IO.getEnv source)
  return fun source => (entries.lookup source).join

def runProgram (arguments : List String) : IO UInt32 := do
  let outcome := (plan (← readEnvironment) arguments).outcome
  (← IO.getStdout).putStr outcome.output
  unless outcome.complaint.isEmpty do
    (← IO.getStderr).putStrLn outcome.complaint
  return outcome.exitCode.toUInt32

end PodTelemetry.CommandLine

def main (arguments : List String) : IO UInt32 :=
  PodTelemetry.CommandLine.runProgram arguments

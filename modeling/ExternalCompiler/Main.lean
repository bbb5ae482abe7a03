/-
The command line program: reads its arguments, its environment and the configuration file, runs
the simulation and prints what the simulation wrote.
-/
import ExternalCompiler.CommandLine.Arguments
import ExternalCompiler.Simulation.Run

namespace ExternalCompiler

/-- What is printed on a request for help, line by line. -/
def helpLines : List String :=
  [ "Bootstrap an external JIT compiler against a simulated runtime",
    "",
    "Usage: jit-bootstrap [OPTIONS]",
    "",
    "Options:",
    "      --config <PATH>             TOML config file; options override its values",
    "      --workers <WORKERS>         Number of compiler threads [default: 2]",
    "      --hosted                    Run the compiler as a precompiled library",
    "      --idle-delay <MILLIS>       Idle time before a hosted thread is detached",
    "      --startup-grace <MILLIS>    Uptime before any thread may be detached",
    "      --progress                  Print bootstrap progress",
    "      --compile-millis <MILLIS>   Simulated time per compilation [default: 5]",
    "      --app-methods <METHODS>     Methods after the bootstrap [default: 200]",
    "      --linger <MILLIS>           Time that the threads stay [default: 0]",
    "      --bootstrap-timeout <SECS>  Give up on the bootstrap after this time",
    "      --log-level <LOG_LEVEL>     How much is logged [default: INFO]",
    "  -h, --help                      Print help" ]

/-- What is printed on a request for help. -/
def helpText : String :=
  String.join (helpLines.map fun line => line ++ "\n")

/-- The text of a usage error. -/
def UsageError.message : UsageError → String
  | unknownArgument => "unexpected argument"
  | invalidValue => "a value is missing or not possible"
  | valueValidation => "a value cannot be read"
  | argumentConflict => "an option was given twice"
  | tooManyValues => "a value for an option that takes none"
  | displayHelp => helpText

/-- Why a file could not be read. -/
def ReadFailure.ofSystem : IO.Error → ReadFailure
  | .noFileOrDirectory .. => .notFound
  | .inappropriateType .. => .isADirectory
  | e => .other (toString e)

/-- What a path leads to. -/
def readPath (path : String) : IO Config.FileContent := do
  try
    pure (.ok (← IO.FS.readBinFile path))
  catch e => pure (.error (.ofSystem e))

/-- The values of the environment variables that options have. -/
def readEnvironment : IO Environment :=
  environmentOptions.filterMapM fun (name, _) => do
    pure ((← IO.getEnv name).map fun value => (name, value))

/-- What the configuration file holds. -/
def readConfigFile (o : Options) : IO Config.FileContent :=
  match o.config with
  | none => pure (.error .notFound)
  | some path => readPath path

/-- Runs the simulation and prints its output; the answer is the exit code. -/
def runWith (o : Options) : IO UInt32 := do
  let content ← readConfigFile o
  match o.simulate (fun _ => content) {} with
  | none =>
    IO.eprintln "Error: the run does not end"
    pure 1
  | some (outcome, output) =>
    IO.print output.text
    match outcome with
    | .ok () => pure 0
    | .error e =>
      IO.eprintln ("Error: " ++ e.message)
      pure 1

end ExternalCompiler

open ExternalCompiler in
/-- Runs the program with its arguments. -/
def main (arguments : List String) : IO UInt32 := do
  match Options.ofArguments arguments (← readEnvironment) with
  | .error .displayHelp =>
    IO.print helpText
    pure 0
  | .error e =>
    IO.eprintln ("error: " ++ e.message)
    pure 2
  | .ok o => runWith o

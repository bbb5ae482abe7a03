/-
The options of the command line:

* `Options`: what a run is told, with the defaults;
* `ValueOption`, `Switch`: the options that take a value and those that do not, with their names
  and the environment variables that stand in for them;
* `Given`: the options that were given so far; `Given.put` and `Given.turnOn` give one more.
-/
import ExternalCompiler.Number.Word

namespace ExternalCompiler

/-! ### Log levels -/

/-- How much is logged. -/
inductive LogLevel
  | error
  | warn
  | info
  | debug
  | trace
deriving DecidableEq

namespace LogLevel

/-- The name of a level. -/
def name : LogLevel → String
  | error => "ERROR"
  | warn => "WARN"
  | info => "INFO"
  | debug => "DEBUG"
  | trace => "TRACE"

/-- All levels; the first is number one. -/
def all : List LogLevel :=
  [error, warn, info, debug, trace]

/-- The level with a number, or with a name in letters of either case. -/
def ofText? (text : String) : Option LogLevel :=
  let byName := all.find? fun l => l.name == text.map Char.toUpper
  match unsignedWord? text with
  | none => byName
  | some n => if n = 0 then none else all[n.toNat - 1]?

end LogLevel

/-! ### Options -/

/-- What a run is told. -/
structure Options where
  /-- The configuration file. -/
  config : Option String := none
  /-- The number of compiler threads. -/
  workers : UInt64 := 2
  /-- Whether the compiler is a precompiled library. -/
  isHosted : Bool := false
  idleDelay : Option Int64 := none
  startupGrace : Option UInt64 := none
  showsProgress : Bool := false
  /-- The milliseconds of one compilation. -/
  compileMillis : UInt64 := 5
  /-- The application methods that are queued after the bootstrap. -/
  appMethods : UInt64 := 200
  /-- The milliseconds that the workers stay after the queue has drained. -/
  linger : UInt64 := 0
  /-- The seconds after which a bootstrap is given up. -/
  bootstrapTimeout : Option UInt64 := none
  logLevel : LogLevel := .info
deriving DecidableEq

/-- The options that take a value. -/
inductive ValueOption
  | config
  | workers
  | idleDelay
  | startupGrace
  | compileMillis
  | appMethods
  | linger
  | bootstrapTimeout
  | logLevel
deriving DecidableEq

namespace ValueOption

/-- The name of an option behind its two dashes. -/
def name : ValueOption → String
  | config => "config"
  | workers => "workers"
  | idleDelay => "idle-delay"
  | startupGrace => "startup-grace"
  | compileMillis => "compile-millis"
  | appMethods => "app-methods"
  | linger => "linger"
  | bootstrapTimeout => "bootstrap-timeout"
  | logLevel => "log-level"

/-- All of them. -/
def all : List ValueOption :=
  [config, workers, idleDelay, startupGrace, compileMillis, appMethods, linger, bootstrapTimeout,
    logLevel]

/-- The value may be a negative number, which looks like an option. -/
def takesNegative (o : ValueOption) : Bool :=
  o == idleDelay

end ValueOption

/-- The options that take no value. -/
inductive Switch
  | hosted
  | progress
deriving DecidableEq

namespace Switch

/-- The name of a switch behind its two dashes. -/
def name : Switch → String
  | hosted => "hosted"
  | progress => "progress"

/-- All of them. -/
def all : List Switch :=
  [hosted, progress]

end Switch

/-! ### Giving options -/

/-- What is wrong with a command line: an argument that nobody knows, a value that is missing or
not among those that are possible, a value that cannot be read, an option that was given before,
or a value for an option that takes none. A request for help also ends the reading. -/
inductive UsageError
  | unknownArgument
  | invalidValue
  | valueValidation
  | argumentConflict
  | tooManyValues
  | displayHelp
deriving DecidableEq

/-- The options that were given; what was not has no value. -/
structure Given where
  config : Option String := none
  workers : Option UInt64 := none
  hosted : Option Bool := none
  idleDelay : Option Int64 := none
  startupGrace : Option UInt64 := none
  progress : Option Bool := none
  compileMillis : Option UInt64 := none
  appMethods : Option UInt64 := none
  linger : Option UInt64 := none
  bootstrapTimeout : Option UInt64 := none
  logLevel : Option LogLevel := none

namespace Given

/-- Whether an option was given. -/
def has (g : Given) : ValueOption → Bool
  | .config => g.config.isSome
  | .workers => g.workers.isSome
  | .idleDelay => g.idleDelay.isSome
  | .startupGrace => g.startupGrace.isSome
  | .compileMillis => g.compileMillis.isSome
  | .appMethods => g.appMethods.isSome
  | .linger => g.linger.isSome
  | .bootstrapTimeout => g.bootstrapTimeout.isSome
  | .logLevel => g.logLevel.isSome

/-- Whether a switch was given. -/
def hasSwitch (g : Given) : Switch → Bool
  | .hosted => g.hosted.isSome
  | .progress => g.progress.isSome

/-- A value that was read, or else an error. -/
def readOr {α : Type} (value : Option α) : Except UsageError α :=
  match value with
  | some a => .ok a
  | none => .error .valueValidation

/-- Reads the text of a value; any path but the empty one will do. -/
def store (g : Given) (o : ValueOption) (text : String) : Except UsageError Given :=
  match o with
  | .config =>
    if text.isEmpty then .error .invalidValue else .ok { g with config := some text }
  | .workers => (readOr (unsignedWord? text)).map fun n => { g with workers := some n }
  | .idleDelay => (readOr (signedWord? text)).map fun n => { g with idleDelay := some n }
  | .startupGrace => (readOr (unsignedWord? text)).map fun n => { g with startupGrace := some n }
  | .compileMillis => (readOr (unsignedWord? text)).map fun n => { g with compileMillis := some n }
  | .appMethods => (readOr (unsignedWord? text)).map fun n => { g with appMethods := some n }
  | .linger => (readOr (unsignedWord? text)).map fun n => { g with linger := some n }
  | .bootstrapTimeout =>
    (readOr (unsignedWord? text)).map fun n => { g with bootstrapTimeout := some n }
  | .logLevel => (readOr (LogLevel.ofText? text)).map fun l => { g with logLevel := some l }

/-- Gives an option its value, unless it was given before. -/
def put (g : Given) (o : ValueOption) (text : String) : Except UsageError Given :=
  if g.has o then .error .argumentConflict else g.store o text

/-- Sets a switch. -/
def storeSwitch (g : Given) (s : Switch) (value : Bool) : Given :=
  match s with
  | .hosted => { g with hosted := some value }
  | .progress => { g with progress := some value }

/-- Turns a switch on, unless it was given before. -/
def turnOn (g : Given) (s : Switch) : Except UsageError Given :=
  if g.hasSwitch s then .error .argumentConflict else .ok (g.storeSwitch s true)

/-- The options of a run: what was given, and the defaults for the rest. -/
def options (g : Given) : Options :=
  let d : Options := {}
  { config := g.config
    workers := g.workers.getD d.workers
    isHosted := g.hosted.getD d.isHosted
    idleDelay := g.idleDelay
    startupGrace := g.startupGrace
    showsProgress := g.progress.getD d.showsProgress
    compileMillis := g.compileMillis.getD d.compileMillis
    appMethods := g.appMethods.getD d.appMethods
    linger := g.linger.getD d.linger
    bootstrapTimeout := g.bootstrapTimeout
    logLevel := g.logLevel.getD d.logLevel }

end Given

end ExternalCompiler

/-
The configuration of the compiler service:

* `Config`: the eight settings and their defaults;
* `Config.isHosted`, `Config.idleDelay`, `Config.selectsExternalCompiler`: what the settings mean;
* `Config.isValid`: the one combination that cannot be started is excluded.
-/
import ExternalCompiler.Duration

namespace ExternalCompiler

/-- How the runtime executes code: interpreter and compiled code, interpreter only, or compiled
code only. -/
inductive ExecutionMode
  | mixed
  | interpreted
  | compiled
deriving DecidableEq

namespace ExecutionMode

/-- The name of a mode in configuration files. -/
def name : ExecutionMode → String
  | mixed => "mixed"
  | interpreted => "interpreted"
  | compiled => "compiled"

/-- All modes. -/
def all : List ExecutionMode :=
  [mixed, interpreted, compiled]

/-- The mode with the given name. -/
def ofName? (text : String) : Option ExecutionMode :=
  all.find? (·.name == text)

end ExecutionMode

/-- The settings of the compiler service. -/
structure Config where
  /-- The master switch for compilation. -/
  useCompiler : Bool := true
  /-- The external compiler is available. -/
  externalCompilerEnabled : Bool := true
  /-- The external compiler is the default compiler of the top tier. -/
  externalCompilerDefault : Bool := true
  /-- The external compiler is a precompiled library: hosted mode. -/
  nativeLibrary : Bool := false
  executionMode : ExecutionMode := .mixed
  /-- Milliseconds after which an idle worker of a hosted compiler is detached; nothing above
  zero switches this off. -/
  idleDelayMillis : Int64 := 1000
  /-- Show the progress of a bootstrap. -/
  printProgress : Bool := false
  /-- Milliseconds of uptime before any worker may be detached. -/
  startupGraceMillis : UInt64 := 1000
deriving DecidableEq

namespace Config

/-- Hosted mode: the external compiler runs as a precompiled library. -/
def isHosted (c : Config) : Bool :=
  c.nativeLibrary

/-- The idle delay in milliseconds, if idling is on. -/
def idleDelay (c : Config) : Option Nat :=
  if 0 < c.idleDelayMillis.toInt then some c.idleDelayMillis.toInt.toNat else none

/-- The startup grace period in milliseconds. -/
def startupGrace (c : Config) : Nat :=
  c.startupGraceMillis.toNat

/-- All three switches that select the external compiler are on. -/
def selectsExternalCompiler (c : Config) : Bool :=
  c.useCompiler && c.externalCompilerEnabled && c.externalCompilerDefault

/-- Hosted mode needs the external compiler. -/
def isValid (c : Config) : Bool :=
  !c.nativeLibrary || c.externalCompilerEnabled

/-- The idle settings as diagnostics show them. -/
def lifecycleText (c : Config) : String :=
  let delay := match c.idleDelay with
    | none => "None"
    | some n => "Some(" ++ millisText n ++ ")"
  "WorkerLifecycleManager \x7b hosted: " ++ toString c.isHosted ++ ", idle_delay: " ++ delay
    ++ ", startup_grace: " ++ millisText c.startupGrace ++ ", .. \x7d"

end Config

end ExternalCompiler

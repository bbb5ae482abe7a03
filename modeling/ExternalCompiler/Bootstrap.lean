/-
The bootstrap: before application code is compiled, a small set of methods is sent through the
external compiler.

* `seedTasks`: the tasks that a bootstrap submits, one for each eligible method;
* `Routine.drain`: waits until the top tier is empty and shows the progress;
* `Routine.bootstrap`: opens the bootstrap window, switches compile-the-world off, seeds, drains
  and tells the external runtime.

Whatever happens, the window is closed and compile-the-world has its value back at the end.
-/
import ExternalCompiler.Config.Basic
import ExternalCompiler.Queue.Operations

namespace ExternalCompiler

/-! ### Seeds -/

/-- The hot count of every seed task. -/
def seedHotCount : UInt32 := 10

/-- The task that compiles a method in a bootstrap. -/
def seedTask (m : Method) : CompileTask where
  method := m
  tier := .top
  hotCount := seedHotCount
  reason := .bootstrap

/-- The tasks of a bootstrap, in the order of the methods. -/
def seedTasks (methods : List Method) : List CompileTask :=
  (methods.filter (·.isBootstrapCandidate)).map seedTask

/-- What a finished bootstrap reports: the seed tasks that were accepted, the compiled methods at
its end, and the milliseconds it took. -/
structure BootstrapReport where
  submitted : Nat
  compiled : UInt64
  elapsedMillis : Nat
deriving DecidableEq

/-- A bootstrap as diagnostics show it. -/
def sequencerText (cancellable : Bool) : String :=
  "BootstrapSequencer \x7b cancellable: " ++ toString cancellable ++ ", .. \x7d"

namespace Routine

/-- Submits tasks and counts those that are accepted. -/
def submitAll (broker : Broker) : List CompileTask → Nat → Routine Nat
  | [], accepted => pure accepted
  | t :: rest, accepted => do
    if ← broker.submit t then submitAll broker rest (accepted + 1)
    else submitAll broker rest accepted

/-! ### Output -/

/-- Writes a text to the sink of the bootstrap. -/
def emit (text : String) : Routine (Except ServiceError Unit) := do
  match ← call (.write text) with
  | .error e => pure (.error (.output e))
  | .ok () => pure (.ok ())

/-- Flushes the sink of the bootstrap. -/
def flushSink : Routine (Except ServiceError Unit) := do
  match ← call .flush with
  | .error e => pure (.error (.output e))
  | .ok () => pure (.ok ())

/-- Writes a number of dots, one at a time, and flushes the sink. -/
def emitDots : Nat → Routine (Except ServiceError Unit)
  | 0 => flushSink
  | n + 1 => do
    match ← emit "." with
    | .error e => pure (.error e)
    | .ok () => emitDots n

/-- What is written at the start of a bootstrap. -/
def banner : String := "Bootstrapping external compiler"

/-- Writes the banner and flushes the sink. -/
def emitBanner : Routine (Except ServiceError Unit) := do
  match ← emit banner with
  | .error e => pure (.error e)
  | .ok () => flushSink

/-- The end of the line that a bootstrap writes. -/
def summaryText (elapsedMillis : Nat) (compiled : UInt64) : String :=
  " in " ++ toString elapsedMillis ++ " ms (compiled " ++ toString compiled.toNat
    ++ " methods)\n"

/-- One dot stands for so many compiled methods. -/
def methodsPerDot : UInt64 := 100

/-- Brings the dots up to the number of compiled methods; the answer is how many there are. -/
def showProgress (print : Bool) (dots : Nat) : Routine (Except ServiceError Nat) :=
  if print then do
    let compiled ← access (.readCounter .methodsCompiled)
    let target := (compiled / methodsPerDot).toNat
    match ← emitDots (target - dots) with
    | .error e => pure (.error e)
    | .ok () => pure (.ok (max dots target))
  else pure (.ok dots)

/-! ### Waiting for the queue to drain -/

/-- Milliseconds between two looks at the queue. -/
def pollMillis : Nat := 100

/-- Fails if the bootstrap was cancelled; only a bootstrap with a token can be. -/
def checkCancelled (cancellable : Bool) (start pending : Nat) :
    Routine (Except ServiceError Unit) :=
  if cancellable then do
    if ← call .isCancelled then
      let moment ← call .now
      pure (.error (.bootstrapCancelled (moment - start) pending))
    else pure (.ok ())
  else pure (.ok ())

/-- Whether a look belongs to the first round: nothing waits at the top tier, and no worker took
up a task yet, so the seeds may still be on their way. -/
def awaitsFirstTask (first : Bool) (size : Nat) : Routine Bool :=
  if first && size == 0 then do
    if ← access .readHandled then pure false else pure true
  else pure false

/-- Looks at the top tier until it is empty; in the first round an empty tier counts only once a
task was taken up. -/
def drain (print cancellable : Bool) (broker : Broker) (start : Nat) :
    Nat → Bool → Nat → Routine (Except ServiceError Unit)
  | 0, _, _ => more
  | n + 1, first, dots => do
    pause (.sleep pollMillis)
    let size ← broker.size .top
    match ← checkCancelled cancellable start size with
    | .error e => pure (.error e)
    | .ok () => do
      if ← awaitsFirstTask first size then drain print cancellable broker start n true dots
      else
        match ← showProgress print dots with
        | .error e => pure (.error e)
        | .ok dots =>
          if size = 0 then pure (.ok ())
          else drain print cancellable broker start n false dots

/-! ### The bootstrap -/

/-- Writes the banner if progress is shown. -/
def openOutput (print : Bool) : Routine (Except ServiceError Unit) :=
  if print then emitBanner else pure (.ok ())

/-- Writes the end of the line if progress is shown. -/
def closeOutput (print : Bool) (report : BootstrapReport) : Routine (Except ServiceError Unit) :=
  if print then emit (summaryText report.elapsedMillis report.compiled) else pure (.ok ())

/-- Seeds the broker and waits until it is drained. -/
def seedAndDrain (polls : Nat) (print cancellable : Bool) (methods : List Method)
    (broker : Broker) : Routine (Except ServiceError BootstrapReport) := do
  match ← openOutput print with
  | .error e => pure (.error e)
  | .ok () => do
    let start ← call .now
    let submitted ← submitAll broker (seedTasks methods) 0
    match ← drain print cancellable broker start polls true 0 with
    | .error e => pure (.error e)
    | .ok () => do
      let compiled ← access (.readCounter .methodsCompiled)
      let finish ← call .now
      let report : BootstrapReport := ⟨submitted, compiled, finish - start⟩
      match ← closeOutput print report with
      | .error e => pure (.error e)
      | .ok () => pure (.ok report)

/-- Tells the external runtime that the bootstrap is finished; a service whose runtime does not
accept that has failed. -/
def announceEnd : Routine (Except ServiceError Unit) := do
  match ← call .bootstrapFinished with
  | .error e => do
    access (.storeState .failed)
    pure (.error e)
  | .ok () => pure (.ok ())

/-- A bootstrap inside its window. A bootstrap that breaks off puts compile-the-world back and
then closes the window; one that drained closes the window first and puts compile-the-world back
after the external runtime was told. -/
def withinWindow (polls : Nat) (print cancellable : Bool) (methods : List Method)
    (broker : Broker) : Routine (Except ServiceError BootstrapReport) := do
  let previous ← access (.swapFlag false)
  match ← seedAndDrain polls print cancellable methods broker with
  | .error e => do
    access (.storeFlag previous)
    access .closeWindow
    pure (.error e)
  | .ok report => do
    access .closeWindow
    match ← announceEnd with
    | .error e => do
      access (.storeFlag previous)
      pure (.error e)
    | .ok () => do
      access (.storeFlag previous)
      pure (.ok report)

/-- Runs a bootstrap, for as many polls as are looked at. An interpreter has nothing to boot, and
only one bootstrap runs at a time. -/
def bootstrap (polls : Nat) (c : Config) (cancellable : Bool) (methods : List Method)
    (broker : Broker) : Routine (Except ServiceError (Option BootstrapReport)) :=
  if c.executionMode = .interpreted then pure (.ok none)
  else do
    if ← access .openWindow then
      match ← withinWindow polls c.printProgress cancellable methods broker with
      | .error e => pure (.error e)
      | .ok report => pure (.ok (some report))
    else pure (.error .bootstrapInProgress)

end Routine

end ExternalCompiler

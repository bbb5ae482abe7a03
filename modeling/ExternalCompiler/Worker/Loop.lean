/-
What a compiler thread does:

* `Routine.compile`: one task, compiled by the external compiler or left to the simple tier;
* `Routine.work`: task after task until the queue is closed and empty.
-/
import ExternalCompiler.Gate
import ExternalCompiler.Startup
import ExternalCompiler.Worker.Idle

namespace ExternalCompiler

/-- The summary after an idle wait. -/
def Summary.afterIdle (s : Summary) : IdleAction → Summary
  | .none => s
  | .detached => { s with idleDetaches := s.idleDetaches + 1 }
  | .repacked => { s with idleRepacks := s.idleRepacks + 1 }

namespace Routine

/-! ### One task -/

/-- Makes additions to counters, one after the other. -/
def record : List Addition → Routine Unit
  | [] => pure ()
  | (counter, n) :: rest => do
    access (.addCounter counter n)
    record rest

/-- The size of an installed code blob and of the code in it. -/
def blobBytes : UInt64 := 1024

/-- The size of the code in an installed blob. -/
def codeBytes : UInt64 := 640

/-- Attaches a worker to the external runtime, unless it is attached. -/
def attach (w : Nat) : Routine Unit := do
  if ← access (.readAttached w) then pure ()
  else
    access (.storeAttached w true)
    access (.countRuntime .attaches)

/-- Makes sure that a worker of a hosted compiler is attached; one that comes back installs the
entry stub of its thread. -/
def connect (c : Config) (w : Nat) : Routine Unit :=
  if c.isHosted then do
    if ← access (.readAttached w) then pure ()
    else
      attach w
      record (installed .hosted (blobBytes / 4) (codeBytes / 4))
  else pure ()

/-- Adds the time since `start` to a timer. -/
def addTimeSince (start : Nat) (timer : Counter) : Routine Unit := do
  let finish ← call .now
  record (timed timer (.ofMillis (finish - start)))

/-- The external compiler compiles a method and installs its code. -/
def compileAndInstall (compileMillis : Nat) : Routine Unit := do
  let compileStart ← call .now
  pause (.sleep compileMillis)
  addTimeSince compileStart .compileTime
  let installStart ← call .now
  record (installed .jit blobBytes codeBytes)
  addTimeSince installStart (.installTime .jit)
  record methodCompiled

/-- Takes up one task. -/
def compile (c : Config) (w : Nat) (compileMillis : Nat) (t : CompileTask) (s : Summary) :
    Routine Summary := do
  markRequestHandled
  if ← consultGate c t.method then
    record ticked
    pure { s with forcedSimple := s.forcedSimple + 1 }
  else
    connect c w
    compileAndInstall compileMillis
    pure { s with compiled := s.compiled + 1 }

/-! ### The loop -/

/-- Milliseconds after which a worker that does not idle out looks again. -/
def recheckMillis : Nat := 20

/-- Waits a little if there is still nothing to do. -/
def lookAgain : Routine Unit := do
  let waiting ← access .readLength
  if waiting = 0 then
    if ← access .readClosed then pure ()
    else
      let _ ← waitForWork recheckMillis
      pure ()
  else pure ()

/-- The rounds of a worker, with the lock held at the start of each. -/
def workRounds (c : Config) (w : Nat) (compileMillis : Nat) :
    Nat → Summary → Routine (Except ServiceError Summary)
  | 0, _ => more
  | n + 1, s => do
    match ← access .popTask with
    | some t => do
      unlock
      let s ← compile c w compileMillis t s
      lock
      workRounds c w compileMillis n s
    | Option.none => do
      if ← access .readClosed then
        match ← stopping c w with
        | .error e => pure (.error e)
        | .ok () => do
          unlock
          pure (.ok s)
      else
        match ← onEmptyQueue c w with
        | .error e => pure (.error e)
        | .ok action => do
          if action = .none then lookAgain
          workRounds c w compileMillis n (s.afterIdle action)

/-- A compiler thread, for as many rounds as are looked at. -/
def work (rounds : Nat) (c : Config) (w : Nat) (compileMillis : Nat) :
    Routine (Except ServiceError Summary) := do
  lock
  workRounds c w compileMillis rounds {}

end Routine

end ExternalCompiler

/-
The steps of a session, in which one service is exercised with scripted surroundings:

* `Step`: what the session does next;
* `Visit`: what another thread does to the queue meanwhile;
* `ScriptedRuntime`: an external runtime that answers as it is told and runs lists of steps before
  it answers;
* `BootstrapPlan`: a bootstrap and its surroundings.

Lists of steps that run inside others are named by their numbers in one table.
-/
import ExternalCompiler.Sink
import ExternalCompiler.CompileTask
import ExternalCompiler.Duration
import ExternalCompiler.Statistics

namespace ExternalCompiler

/-- The number of a list of steps in the table of a session. -/
abbrev ScriptNumber := Nat

/-! ### A scripted external runtime -/

/-- The kinds of calls that a scripted runtime gets. -/
inductive RuntimeCall
  | probe
  | excluded
  | detach
  | repack
  | notify
deriving DecidableEq

/-- An external runtime that answers as it is told: whether it is live and under which handle, the
modules that it excludes, the reason for which a call fails (if it does), and the lists of steps
that run before it answers, one for each call. -/
structure ScriptedRuntime where
  isLive : Bool := false
  handle : UInt64 := 0
  excluded : Option (List ModuleId) := none
  failure : RuntimeCall → Option String := fun _ => none
  scripts : RuntimeCall → List ScriptNumber := fun _ => []

/-- A change of a scripted runtime. -/
inductive RuntimeChange
  | live (value : Bool)
  | handle (value : UInt64)
  | excluded (modules : Option (List ModuleId))
  | failure (call : RuntimeCall) (reason : Option String)
  | scripts (call : RuntimeCall) (numbers : List ScriptNumber)

namespace ScriptedRuntime

/-- A scripted runtime after a change. -/
def change (r : ScriptedRuntime) : RuntimeChange → ScriptedRuntime
  | .live value => { r with isLive := value }
  | .handle value => { r with handle := value }
  | .excluded modules => { r with excluded := modules }
  | .failure call reason =>
    { r with failure := fun c => if c = call then reason else r.failure c }
  | .scripts call numbers =>
    { r with scripts := fun c => if c = call then numbers else r.scripts c }

/-- A scripted runtime after some changes. -/
def changeAll (r : ScriptedRuntime) (changes : List RuntimeChange) : ScriptedRuntime :=
  changes.foldl change r

/-- The live instance. -/
def instance? (r : ScriptedRuntime) : Option UInt64 :=
  if r.isLive then some r.handle else none

end ScriptedRuntime

/-! ### Visits and plans -/

/-- What another thread does to the queue or to the compile-the-world flag. -/
inductive Visit
  | submit (task : CompileTask)
  | pop
  | close
  | setFlag (value : Bool)

/-- A bootstrap and its surroundings: the sink; whether the broker is the queue or a scripted one,
and what a scripted one answers (tasks are accepted and the last size repeats when the lists are
used up); the lists of steps that run before a task is taken or a size is told; the methods; and
whether the bootstrap can be cancelled, was cancelled before, and is asked for without a token. -/
structure BootstrapPlan where
  sink : Sink := {}
  usesQueue : Bool := false
  sizes : List Nat := []
  accept : List Bool := []
  onSubmit : List ScriptNumber := []
  onPoll : List ScriptNumber := []
  methods : List Method := []
  isCancellable : Bool := false
  isCancelled : Bool := false
  isTokenless : Bool := false

/-! ### Steps -/

/-- A step of a session; workers are named by their places. -/
inductive Step
  | startUp
  | isInitialized
  | markFailed
  | shutDown
  | markRequestHandled
  | countMethods (n : UInt64)
  | countTicks (n : UInt64)
  | recordCompilation (time : Duration)
  | timeCompilation
  | install (origin : Origin) (blob code : UInt64)
  | recordInstall (origin : Origin) (time : Duration)
  | setFlag (value : Bool)
  | cancel
  | printTimers (sink : Sink)
  | snapshot
  | counts
  | describe
  | changeRuntime (changes : List RuntimeChange)
  | consultGate (method : Method)
  | submit (task : CompileTask)
  | submitWorkload (n : Nat)
  | size (tier : Tier)
  | length
  | isEmpty
  | close
  | pop
  | lock
  | unlock
  | guardInfo
  | lockedElsewhere
  | worker (w : Nat)
  | markAttached (w : Nat)
  | attach (w : Nat)
  | wait (millis : Nat) (visits : List Visit)
  | onEmpty (w : Nat) (visits : List Visit)
  | stopping (w : Nat)
  | runWorker (w : Nat) (compileMillis : Nat) (visits : List Visit) (afterMillis : Nat)
  | bootstrap (plan : BootstrapPlan)

namespace Step

/-- One more than the tasks that a step puts into the queue by itself. -/
def weight : Step → Nat
  | submitWorkload n => n + 1
  | runWorker _ _ visits _ => visits.length + 1
  | wait _ visits => visits.length + 1
  | onEmpty _ visits => visits.length + 1
  | bootstrap plan => plan.methods.length + 1
  | _ => 2

end Step

/-- A session before its start: the numbered lists of steps, and the one that it begins with. -/
structure Scripts where
  table : List (List Step) := []
  main : List Step := []

/-- A bound on the tasks that all steps together put into the queue. -/
def Scripts.weight (s : Scripts) : Nat :=
  (s.main :: s.table).flatten.foldl (fun n step => n + step.weight) 0

end ExternalCompiler

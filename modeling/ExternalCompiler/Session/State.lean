/-
The state of a session:

* `RunningBootstrap`: a bootstrap that is under way and what is left of its plan;
* `Session`: the shared state, the clock, the surroundings and what was logged;
* `Play`: what is done in a session.
-/
import ExternalCompiler.Session.Entry
import ExternalCompiler.Session.Step

namespace ExternalCompiler

/-- A bootstrap that is under way: its sink, whether it was cancelled, what is left of its plan,
and what it asked of its broker, the newest first. -/
structure RunningBootstrap where
  sink : Sink
  isCancelled : Bool
  usesQueue : Bool
  sizes : List Nat
  accept : List Bool
  onSubmit : List ScriptNumber
  onPoll : List ScriptNumber
  events : List (BrokerRecord Entry) := []

/-- The bootstrap at the start of a plan. -/
def BootstrapPlan.begun (p : BootstrapPlan) : RunningBootstrap where
  sink := p.sink
  isCancelled := p.isCancelled
  usesQueue := p.usesQueue
  sizes := p.sizes
  accept := p.accept
  onSubmit := p.onSubmit
  onPoll := p.onPoll

/-- Another thread that comes at a moment. -/
structure Visitor where
  due : Nat
  visits : List Visit

/-- The state of a session. The time is in milliseconds; without a scripted runtime the external
runtime is a simulated one. -/
structure Session where
  config : Config
  scripts : Scripts
  shared : Shared := {}
  clock : Nat := 0
  runtime : Option ScriptedRuntime := none
  workerCount : Nat := 1
  policyCalls : Nat := 0
  /-- The calls of the step that runs, the newest first. -/
  calls : List (Logged Entry) := []
  /-- The bootstraps that are under way, the innermost first. -/
  bootstraps : List RunningBootstrap := []
  /-- The list of steps that runs holds the queue lock. -/
  holdsGuard : Bool := false
  visitor : Option Visitor := none

/-- What is done in a session. -/
abbrev Play := StateM Session

namespace Session

/-- The thread of a session. -/
def thread : ThreadId := 1

/-- The thread of a visitor. -/
def visitorThread : ThreadId := 2

/-- Whether the thread of the session holds the queue lock. -/
def isHeld (s : Session) : Bool :=
  s.shared.lock.holder == some thread

/-- Whether the thread of the session is marked as the owner of the queue lock. -/
def isMarked (s : Session) : Bool :=
  s.shared.lock.owner == thread

/-- The number of tasks, unless the lock is held further out. -/
def queued (s : Session) : Option Nat :=
  if s.isHeld && !s.holdsGuard then none else some s.shared.queue.length

/-- What is seen of the state. -/
def view (s : Session) : View where
  state := s.shared.service.state
  isBootstrapping := s.shared.service.isBootstrapping
  requestHandled := s.shared.service.requestHandled
  methodsCompiled := s.shared.service.counters.methodsCompiled
  ticks := s.shared.service.counters.ticks
  compileTheWorld := s.shared.compileTheWorld
  isLocked := s.isMarked
  queued := s.queued
  workers := (List.range s.workerCount).map s.shared.workers

/-- Changes the innermost bootstrap that is under way. -/
def onBootstrap (s : Session) (f : RunningBootstrap → RunningBootstrap) : Session :=
  match s.bootstraps with
  | [] => s
  | b :: rest => { s with bootstraps := f b :: rest }

/-- Logs a call. -/
def log (s : Session) (call : Logged Entry) : Session :=
  { s with calls := call :: s.calls }

end Session

end ExternalCompiler

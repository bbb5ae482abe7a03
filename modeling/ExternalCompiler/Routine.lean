/-
Routines: what a thread does, as atomic steps.

* `Access`: an atomic access to the shared state, performed by `Access.perform`;
* `Pause`: a point where a thread may have to wait;
* `Call`: a question to the surroundings: the clock, a sink, a broker, the external runtime
  (`Call.silence` is the answer where nothing happens);
* `Routine`: a routine is done with a result, acts and goes on with the answer, or was not
  unrolled any further; routines form a monad;
* `Routine.run`: a routine with someone who answers every action.

Loops are unrolled as often as a number says, so that a statement about all numbers is one about
all that a loop does in finite time.
-/
import ExternalCompiler.Error
import ExternalCompiler.Service

namespace ExternalCompiler

/-! ### Accesses -/

/-- The counts of the external runtime. -/
inductive RuntimeCount
  | attaches
  | detaches
  | repacks
  | notifications
deriving DecidableEq

/-- Adds one to a count of the external runtime. -/
def RuntimeCalls.count (r : RuntimeCalls) : RuntimeCount → RuntimeCalls
  | .attaches => { r with attaches := r.attaches + 1 }
  | .detaches => { r with detaches := r.detaches + 1 }
  | .repacks => { r with repacks := r.repacks + 1 }
  | .notifications => { r with notifications := r.notifications + 1 }

/-- An atomic access to the shared state. -/
inductive Access
  /-- Reads the compile-the-world flag. -/
  | readFlag
  /-- Stores the compile-the-world flag. -/
  | storeFlag (value : Bool)
  /-- Stores the compile-the-world flag and answers what it was. -/
  | swapFlag (value : Bool)
  /-- Reads the state of the service. -/
  | readState
  /-- Stores the state of the service. -/
  | storeState (state : ServiceState)
  /-- Turns an uninitialized service into one that is initializing, or else refuses. -/
  | claimStartup
  /-- Whether a bootstrap window is open. -/
  | readBootstrapping
  /-- Opens the bootstrap window, or refuses if it is open. -/
  | openWindow
  /-- Closes the bootstrap window. -/
  | closeWindow
  /-- Whether a bootstrap request was handled. -/
  | readHandled
  /-- Remembers that a bootstrap request was handled. -/
  | setHandled
  /-- Reads a counter. -/
  | readCounter (counter : Counter)
  /-- Adds to a counter. -/
  | addCounter (counter : Counter) (n : UInt64)
  /-- Marks the calling thread as the owner of the queue lock. -/
  | markOwner
  /-- Removes the mark of the owner. -/
  | clearOwner
  /-- Gives the queue lock back. -/
  | releaseLock
  /-- Whether the calling thread is marked as the owner of the queue lock. -/
  | readOwner
  /-- Puts a task into the queue. -/
  | pushTask (task : CompileTask)
  /-- Takes the oldest task out of the queue. -/
  | popTask
  /-- The number of tasks that wait at a tier. -/
  | countTasks (tier : Tier)
  /-- The number of tasks that wait. -/
  | readLength
  /-- Whether the queue is closed. -/
  | readClosed
  /-- Closes the queue. -/
  | setClosed
  /-- The number of accepted tasks. -/
  | readSubmitted
  /-- Whether a worker is attached. -/
  | readAttached (worker : Nat)
  /-- Marks a worker as attached or detached. -/
  | storeAttached (worker : Nat) (value : Bool)
  /-- Counts a repack of a worker. -/
  | countRepack (worker : Nat)
  /-- Counts a call of the external runtime. -/
  | countRuntime (count : RuntimeCount)

/-- What an access answers. -/
@[reducible] def Access.Answer : Access → Type
  | readFlag => Bool
  | swapFlag _ => Bool
  | readState => ServiceState
  | claimStartup => Bool
  | readBootstrapping => Bool
  | openWindow => Bool
  | readHandled => Bool
  | readCounter _ => UInt64
  | readOwner => Bool
  | popTask => Option CompileTask
  | countTasks _ => Nat
  | readLength => Nat
  | readClosed => Bool
  | readSubmitted => UInt64
  | readAttached _ => Bool
  | _ => Unit

namespace Shared

/-- Changes the service. -/
def onService (s : Shared) (f : Service → Service) : Shared :=
  { s with service := f s.service }

end Shared

/-- The effect of an access by a thread: its answer and the state after it. -/
def Access.perform (me : ThreadId) (s : Shared) : (a : Access) → a.Answer × Shared
  | readFlag => (s.compileTheWorld, s)
  | storeFlag v => ((), { s with compileTheWorld := v })
  | swapFlag v => (s.compileTheWorld, { s with compileTheWorld := v })
  | readState => (s.service.state, s)
  | storeState st => ((), s.onService fun v => { v with state := st })
  | claimStartup =>
    if s.service.state = .uninitialized then
      (true, s.onService fun v => { v with state := .initializing })
    else (false, s)
  | readBootstrapping => (s.service.isBootstrapping, s)
  | openWindow =>
    if s.service.isBootstrapping then (false, s)
    else (true, s.onService fun v => { v with isBootstrapping := true })
  | closeWindow => ((), s.onService fun v => { v with isBootstrapping := false })
  | readHandled => (s.service.requestHandled, s)
  | setHandled => ((), s.onService fun v => { v with requestHandled := true })
  | readCounter k => (s.service.counters.get k, s)
  | addCounter k n => ((), s.onService fun v => { v with counters := v.counters.add k n })
  | markOwner => ((), { s with lock := { s.lock with owner := me } })
  | clearOwner => ((), { s with lock := { s.lock with owner := 0 } })
  | releaseLock => ((), { s with lock := { s.lock with holder := none } })
  | readOwner => (s.lock.owner == me, s)
  | pushTask t => ((), { s with queue := s.queue.push t })
  | popTask => (s.queue.pop.1, { s with queue := s.queue.pop.2 })
  | countTasks tier => (s.queue.sizeAt tier, s)
  | readLength => (s.queue.length, s)
  | readClosed => (s.queue.isClosed, s)
  | setClosed => ((), { s with queue := s.queue.close })
  | readSubmitted => (s.queue.submitted, s)
  | readAttached w => ((s.workers w).isAttached, s)
  | storeAttached w v => ((), s.onWorker w fun t => { t with isAttached := v })
  | countRepack w => ((), s.onWorker w fun t => { t with repacks := t.repacks + 1 })
  | countRuntime k => ((), { s with runtime := s.runtime.count k })

/-! ### Pauses and calls -/

/-- How a wait for new work ended: nothing came in time, or a task was accepted or the queue
closed. -/
inductive WaitOutcome
  | timedOut
  | notified
deriving DecidableEq

/-- A point where a thread may have to wait. -/
inductive Pause
  /-- Takes the queue lock as soon as no thread holds it. -/
  | takeLock
  /-- Waits without the queue lock until the number of accepted tasks is another one, the queue
  is closed or the time is over, and takes the lock again; `seen` is the number at the start. -/
  | awaitWork (seen : UInt64) (millis : Nat)
  /-- Lets time pass. -/
  | sleep (millis : Nat)

/-- What a pause answers. -/
@[reducible] def Pause.Answer : Pause → Type
  | awaitWork _ _ => WaitOutcome
  | _ => Unit

/-- A question to the surroundings. -/
inductive Call
  /-- The milliseconds since the runtime started. -/
  | now
  /-- Whether the bootstrap was cancelled. -/
  | isCancelled
  /-- Writes to the sink of the bootstrap. -/
  | write (text : String)
  /-- Flushes the sink of the bootstrap. -/
  | flush
  /-- Submits a task to the broker of the bootstrap, which may refuse it. -/
  | submit (task : CompileTask)
  /-- The number of tasks that wait at a tier, as the broker of the bootstrap says. -/
  | size (tier : Tier)
  /-- The live instance of the external runtime. -/
  | probe
  /-- The modules that the external compiler must not compile, if there is such a list. -/
  | excluded (handle : UInt64)
  /-- Gives up the connection of a worker. -/
  | detach (worker : Nat) (reason : String)
  /-- Reclaims the resources of a worker. -/
  | repack (worker : Nat)
  /-- Tells the external runtime that the bootstrap is finished. -/
  | bootstrapFinished
  /-- Tells the compilation policy that startup is over. -/
  | startupCompleted

/-- What a call answers. -/
@[reducible] def Call.Answer : Call → Type
  | now => Nat
  | isCancelled => Bool
  | write _ => Except SinkError Unit
  | flush => Except SinkError Unit
  | submit _ => Bool
  | size _ => Nat
  | probe => Option UInt64
  | excluded _ => Option (List ModuleId)
  | detach _ _ => Except ServiceError Unit
  | repack _ => Except ServiceError Unit
  | bootstrapFinished => Except ServiceError Unit
  | startupCompleted => Unit

/-- What surroundings answer in which nothing happens: time stands still, no text is refused, no
task is taken and there is no external runtime. -/
def Call.silence : (c : Call) → c.Answer
  | now => 0
  | isCancelled => false
  | write _ => .ok ()
  | flush => .ok ()
  | submit _ => false
  | size _ => 0
  | probe => none
  | excluded _ => none
  | detach _ _ => .ok ()
  | repack _ => .ok ()
  | bootstrapFinished => .ok ()
  | startupCompleted => ()

/-! ### Routines -/

/-- One step of a thread. -/
inductive Action
  | access (a : Access)
  | pause (p : Pause)
  | call (c : Call)

/-- What a step answers. -/
@[reducible] def Action.Answer : Action → Type
  | access a => a.Answer
  | pause p => p.Answer
  | call c => c.Answer

/-- What a thread does: it is done, or it acts and goes on with the answer, or it was not unrolled
any further. -/
inductive Routine (α : Type) : Type
  | done (a : α)
  | act (a : Action) (next : a.Answer → Routine α)
  | more

namespace Routine

variable {α β : Type}

/-- One routine after the other. -/
def bind : Routine α → (α → Routine β) → Routine β
  | done a, f => f a
  | act a next, f => act a fun x => (next x).bind f
  | more, _ => more

instance : Monad Routine where
  pure := done
  bind := bind

/-- A single access. -/
def access (a : Access) : Routine a.Answer :=
  act (.access a) done

/-- A single pause. -/
def pause (p : Pause) : Routine p.Answer :=
  act (.pause p) done

/-- A single call. -/
def call (c : Call) : Routine c.Answer :=
  act (.call c) done

/-- Runs a routine with someone who answers every action; there is no result if the routine was
not unrolled far enough. -/
def run {m : Type → Type} [Monad m] (answer : (a : Action) → m a.Answer) :
    Routine α → m (Option α)
  | done a => pure (some a)
  | act a next => do (next (← answer a)).run answer
  | more => pure none

end Routine

end ExternalCompiler

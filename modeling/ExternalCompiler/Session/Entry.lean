/-
What a session answers:

* `View`: what is seen of the state after a step;
* `RuntimeRecord`, `Logged`: the calls that were made;
* `BrokerRecord`: what a bootstrap asked of its broker;
* `Result`, `Entry`: the answer of one step.
-/
import ExternalCompiler.Bootstrap
import ExternalCompiler.Worker.Idle

namespace ExternalCompiler

/-! ### The state -/

/-- What is seen of the state after a step; the number of tasks cannot be told while the lock is
held further out. -/
structure View where
  state : ServiceState
  isBootstrapping : Bool
  requestHandled : Bool
  methodsCompiled : UInt64
  ticks : UInt64
  compileTheWorld : Bool
  isLocked : Bool
  queued : Option Nat
  workers : List Worker

/-! ### Calls -/

/-- A call of a scripted runtime, with what it was told. -/
inductive RuntimeRequest
  | probe
  | excluded (handle : UInt64)
  | detach (worker : Worker) (reason : String)
  | repack (worker : Worker)
  | notify

/-- A call of a scripted runtime: what was asked, whether the caller held the queue lock, whether a
bootstrap window was open, the compile-the-world flag, and the answers of the steps that ran before
it was answered. -/
structure RuntimeRecord (ε : Type) where
  request : RuntimeRequest
  isLocked : Bool
  isBootstrapping : Bool
  compileTheWorld : Bool
  steps : Option (List ε)

/-- A call that is logged: one of the runtime, or one of the compilation policy with the state of
the service at that moment. -/
inductive Logged (ε : Type)
  | runtime (record : RuntimeRecord ε)
  | startupCompleted (state : ServiceState)

/-- What a bootstrap asked of its broker; the window and the flag are those after the broker took
or refused the task. -/
inductive BrokerRecord (ε : Type)
  | submit (task : CompileTask) (accepted isBootstrapping compileTheWorld : Bool)
    (steps : Option (List ε))
  | size (tier : Tier) (size : Nat) (steps : Option (List ε))

/-! ### Answers -/

/-- How a hook of a worker ended. -/
inductive HookAction
  | waited (outcome : WaitOutcome)
  | idled (action : IdleAction)
  | stopped

/-- The result of a step. -/
inductive Result (ε : Type)
  | nothing
  | truth (value : Bool)
  | number (n : Nat)
  | started (won : Bool) (policyCalls : Nat)
  | printed (sink : Sink) (outcome : Except SinkError Unit)
  | snapshot (service : Service)
  | counts (counters : Counters) (runtime : RuntimeCalls)
  | text (text : String)
  | task (task : Option CompileTask)
  | guard (queue : Queue)
  | worker (worker : Worker)
  | hook (outcome : Except ServiceError HookAction) (relocked : Bool)
  | summary (outcome : Except ServiceError Summary)
  | bootstrap (outcome : Except ServiceError (Option BootstrapReport)) (sink : Sink)
    (isCancellable : Bool) (events : List (BrokerRecord ε))
  /-- There is no lock to give back. -/
  | notHeld
  /-- The step would wait for a lock that its own thread holds. -/
  | deadlock
  /-- The step did not end within the bound on its length. -/
  | unfinished

/-- The answer of one step: its result, what is seen of the state after it, and the calls that it
made. -/
inductive Entry
  | mk (result : Result Entry) (view : View) (calls : List (Logged Entry))

end ExternalCompiler

/-
The compiler service and the state that threads share:

* `ServiceState`, `Service`: the life of the service, its bootstrap window and its counters;
* `RuntimeCalls`: how often the external runtime was called;
* `Shared`: all that the threads of a process share.
-/
import ExternalCompiler.Queue
import ExternalCompiler.Statistics
import ExternalCompiler.Worker

namespace ExternalCompiler

/-- The life of the service. -/
inductive ServiceState
  | uninitialized
  | initializing
  | initialized
  | failed
  | shutDown
deriving DecidableEq

/-- The name of a state in diagnostics. -/
def ServiceState.name : ServiceState → String
  | uninitialized => "Uninitialized"
  | initializing => "Initializing"
  | initialized => "Initialized"
  | failed => "Failed"
  | shutDown => "ShutDown"

/-- The service: its state, whether a bootstrap window is open, whether a request was handled in
one, and its counters. -/
structure Service where
  state : ServiceState := .uninitialized
  isBootstrapping : Bool := false
  requestHandled : Bool := false
  counters : Counters := {}
deriving DecidableEq

/-- The service as diagnostics show it. -/
def Service.text (s : Service) : String :=
  "CompilerService \x7b state: " ++ s.state.name ++ ", bootstrapping: "
    ++ toString s.isBootstrapping ++ ", methods_compiled: "
    ++ toString s.counters.methodsCompiled.toNat ++ ", .. \x7d"

/-- How often the external runtime was called. -/
structure RuntimeCalls where
  attaches : UInt64 := 0
  detaches : UInt64 := 0
  repacks : UInt64 := 0
  notifications : UInt64 := 0
deriving DecidableEq

/-- The state that all threads share: the compile-the-world flag, the service, the queue with its
lock, the workers and the runtime's own counts. -/
structure Shared where
  compileTheWorld : Bool := false
  service : Service := {}
  queue : Queue := {}
  lock : Lock := {}
  workers : Nat → Worker := fun n => { id := n }
  runtime : RuntimeCalls := {}

/-- Changes one worker. -/
def Shared.onWorker (s : Shared) (w : Nat) (f : Worker → Worker) : Shared :=
  { s with workers := fun v => if v = w then f (s.workers w) else s.workers v }

end ExternalCompiler

/-
A simulated run of a runtime with an external compiler:

* `Routine.drive`: the main thread boots the compiler and then feeds it the application's methods;
* `printReport`: what is written at the end;
* `Options.simulate`: the whole run, from its options to its output.
-/
import ExternalCompiler.CommandLine.Settings
import ExternalCompiler.Simulation.World
import ExternalCompiler.Worker.Loop

namespace ExternalCompiler

/-! ### Errors -/

/-- Why a run failed. -/
inductive RunError
  | config (cause : ConfigError)
  | service (cause : ServiceError)
  | output (cause : SinkError)
  | workerPanicked (worker : Nat)
deriving DecidableEq

/-- The text of an error; causes speak for themselves. -/
def RunError.message : RunError → String
  | config cause => cause.message
  | service cause => cause.message
  | output cause => "output failed: " ++ cause.message
  | workerPanicked worker => "compiler thread " ++ toString worker ++ " panicked"

/-! ### The main thread -/

namespace Routine

/-- Milliseconds between two looks whether the workload is taken up. -/
def workloadPollMillis : Nat := 10

/-- Waits until the queue is empty. -/
def awaitEmpty : Nat → Routine Unit
  | 0 => more
  | n + 1 => do
    let waiting ← length
    if waiting = 0 then pure ()
    else
      pause (.sleep workloadPollMillis)
      awaitEmpty n

/-- Boots the compiler, submits the workload and waits until it is taken up, for as many looks at
the queue as are counted. -/
def drive (looks : Nat) (o : Options) (c : Config) : Routine (Except ServiceError Unit) := do
  match ← bootstrap looks c o.bootstrapTimeout.isSome rootClass Broker.queue with
  | .error e => pure (.error e)
  | .ok _ => do
    let _ ← submitWorkload Broker.queue o.appMethods.toNat
    awaitEmpty looks
    pause (.sleep o.linger.toNat)
    pure (.ok ())

/-- Whatever comes of it, the queue is closed at the end. -/
def driveAndClose (looks : Nat) (o : Options) (c : Config) :
    Routine (Except ServiceError Unit) := do
  let outcome ← drive looks o c
  close
  pure outcome

end Routine

/-! ### The threads of a run -/

/-- What a thread of a run brings. -/
inductive ThreadResult
  | worked (outcome : Except ServiceError Summary)
  | drove (outcome : Except ServiceError Unit)

/-- The thread of a worker. -/
def workerThread (rounds : Nat) (o : Options) (c : Config) (w : Nat) : Thread ThreadResult where
  me := w + 2
  rest := do
    let outcome ← Routine.work rounds c w o.compileMillis.toNat
    pure (.worked outcome)

/-- The main thread. -/
def mainThread (looks : Nat) (o : Options) (c : Config) : Thread ThreadResult where
  me := 1
  rest := do
    let outcome ← Routine.driveAndClose looks o c
    pure (.drove outcome)

/-- All threads of a run; the workers are there first. -/
def runThreads (bound : Nat) (o : Options) (c : Config) : List (Thread ThreadResult) :=
  (List.range o.workers.toNat).map (workerThread bound o c) ++ [mainThread bound o c]

/-- The first error of a list of results, workers before the main thread, or else the summaries
of the workers. -/
def summaries : List ThreadResult → Except ServiceError (List Summary)
  | [] => .ok []
  | .worked (.error e) :: _ => .error e
  | .drove (.error e) :: _ => .error e
  | .worked (.ok s) :: rest => do
    let others ← summaries rest
    .ok (s :: others)
  | .drove (.ok ()) :: rest => summaries rest

/-! ### The report -/

/-- The line about the external runtime. -/
def RuntimeCalls.line (r : RuntimeCalls) : String :=
  "       attaches: " ++ toString r.attaches.toNat ++ ", detaches: " ++ toString r.detaches.toNat
    ++ ", repacks: " ++ toString r.repacks.toNat ++ ", bootstrap notifications: "
    ++ toString r.notifications.toNat ++ "\n"

/-- The line about a worker. -/
def Summary.line (w : Worker) (s : Summary) : String :=
  "       " ++ w.name ++ ": compiled " ++ toString s.compiled ++ ", simple tier "
    ++ toString s.forcedSimple ++ ", idle detaches " ++ toString s.idleDetaches
    ++ ", idle repacks " ++ toString s.idleRepacks ++ "\n"

/-- The line about all compilations. -/
def Counters.totalsLine (c : Counters) : String :=
  "    methods compiled: " ++ toString c.methodsCompiled.toNat ++ ", compilation ticks: "
    ++ toString c.ticks.toNat ++ "\n"

/-- Writes the report at the end of a run. -/
def printReport (s : Shared) (summaries : List Summary) : Writing :=
  .inTurn
    [ s.service.counters.printTimers,
      (·.writeAll ["\n", "    External Runtime:\n", s.runtime.line]),
      (·.writeAll (summaries.zipIdx.map fun (summary, i) => summary.line (s.workers i))),
      (·.writeAll [s.service.counters.totalsLine]) ]

/-! ### The run -/

namespace Options

/-- A bound on the turns of all threads in a run that ends: each takes up a task, or time passes
towards the end of a compilation, of the linger time or of the bootstrap. -/
def turnBound (o : Options) : Nat :=
  let tasks := o.appMethods.toNat + rootClass.length
  let millis := tasks * (o.compileMillis.toNat + 1) + o.linger.toNat
    + 1000 * (o.bootstrapTimeout.map (·.toNat)).getD 0
  (o.workers.toNat + 2) * (4 * (tasks + millis) + 10000)

/-- The world at the start of a run. -/
def startWorld (o : Options) (output : Sink) : World where
  output := output
  cancelAt := o.bootstrapTimeout.map fun secs => secs.toNat * 1000

/-- Starts the service on the main thread. -/
def started (c : Config) (w : World) : World :=
  ((⟨1, Routine.startUp c, none⟩ : Thread Bool).proceed w).2

/-- Shuts the service down and writes the report. -/
def finish (w : World) (summaries : List Summary) : Except RunError Unit × Sink :=
  let shared := (Access.perform 1 w.shared (.storeState .shutDown)).2
  let (output, outcome) := printReport shared summaries w.output
  (outcome.mapError .output, output)

/-- The run with a configuration: its outcome and what is in the output then, unless it does not
end within its bound. -/
def simulateWith (o : Options) (c : Config) (output : Sink) :
    Option (Except RunError Unit × Sink) := do
  let w := started c (o.startWorld output)
  let (threads, w) := w.schedule o.turnBound (runThreads o.turnBound o c)
  let results ← threads.mapM (·.result?)
  match summaries results with
  | .error e => some (.error (.service e), w.output)
  | .ok summaries => some (finish w summaries)

/-- A whole run. -/
def simulate (o : Options) (read : String → Config.FileContent) (output : Sink) :
    Option (Except RunError Unit × Sink) :=
  match o.compilerConfig read with
  | .error e => some (.error (.config e), output)
  | .ok c => o.simulateWith c output

end Options

end ExternalCompiler

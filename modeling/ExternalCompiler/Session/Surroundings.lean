/-
The surroundings of a session:

* `Play.admitVisitor`: another thread does what it came for;
* `Play.pause`: time passes at once, and visitors come when it does;
* `Play.call`: the answers of the clock, the sink, the broker and the external runtime;
* `Play.exec`: runs a routine on the thread of the session.
-/
import ExternalCompiler.Session.State
import ExternalCompiler.Simulation.Workload

namespace ExternalCompiler

/-! ### Accesses and visitors -/

namespace Play

/-- Performs an access on a thread. -/
def access (me : ThreadId) (a : Access) : Play a.Answer := fun s =>
  let (answer, shared) := a.perform me s.shared
  (answer, { s with shared := shared })

/-- Gives the queue lock to a thread. -/
def takeLock (me : ThreadId) : Play Unit :=
  modify fun s => { s with shared.lock.holder := some me }

/-- The answers to a visitor, who neither waits nor calls. -/
def answerVisitor : (a : Action) → Play a.Answer
  | .access a => access Session.visitorThread a
  | .pause .takeLock => takeLock Session.visitorThread
  | .pause (.awaitWork _ _) => pure .timedOut
  | .pause (.sleep _) => pure ()
  | .call c => pure c.silence

end Play

/-- What a visitor does. -/
def Visit.routine : Visit → Routine Unit
  | submit t => do
    let _ ← Routine.submit t
    pure ()
  | pop => do
    Routine.lock
    let _ ← Routine.access .popTask
    Routine.unlock
  | close => Routine.close
  | setFlag value => Routine.access (.storeFlag value)

namespace Play

/-- A visitor does what it came for. -/
def receive (v : Visitor) : Play Unit := do
  modify fun s => { s with visitor := none, clock := max s.clock v.due }
  v.visits.forM fun visit => do
    let _ ← visit.routine.run answerVisitor

/-- Admits the visitor that is due at a moment, if there is one. -/
def admitVisitor (moment : Nat) : Play Unit := do
  match (← get).visitor with
  | none => pure ()
  | some v => if v.due ≤ moment then receive v

/-! ### Pauses -/

/-- Waits for new work: it has come if a visitor brought it, or else the time passes. -/
def awaitWork (seen : UInt64) (millis : Nat) : Play WaitOutcome := do
  let deadline := (← get).clock + millis
  admitVisitor deadline
  let queue := (← get).shared.queue
  if queue.submitted != seen || queue.isClosed then
    takeLock Session.thread
    pure .notified
  else
    modify fun s => { s with clock := deadline }
    takeLock Session.thread
    pure .timedOut

/-- Time passes; a visitor comes in if nobody holds the queue lock. -/
def sleep (millis : Nat) : Play Unit := do
  let deadline := (← get).clock + millis
  if (← get).shared.lock.holder.isNone then admitVisitor deadline
  modify fun s => { s with clock := deadline }

/-- The answer to a pause. -/
def pause : (p : Pause) → Play p.Answer
  | .takeLock => takeLock Session.thread
  | .awaitWork seen millis => awaitWork seen millis
  | .sleep millis => sleep millis

/-! ### The external runtime -/

/-- How numbered lists of steps are run. -/
abbrev Nested := ScriptNumber → Play (List Entry)

/-- Takes the list of steps that runs at the next call of a kind. -/
def takeScript (call : RuntimeCall) : Play (Option ScriptNumber) := do
  match (← get).runtime with
  | none => pure none
  | some r =>
    match r.scripts call with
    | [] => pure none
    | number :: rest => do
      modify fun s => { s with runtime := some (r.change (.scripts call rest)) }
      pure (some number)

/-- Runs a list of steps, if there is one. -/
def runNested (nested : Nested) : Option ScriptNumber → Play (Option (List Entry))
  | none => pure none
  | some number => do
    let entries ← nested number
    pure (some entries)

/-- Notes a call of the scripted runtime and runs the steps that come before its answer. -/
def noteCall (nested : Nested) (call : RuntimeCall) (request : RuntimeRequest) : Play Unit := do
  let s ← get
  let steps ← runNested nested (← takeScript call)
  modify (·.log (.runtime
    { request := request
      isLocked := s.isMarked
      isBootstrapping := s.shared.service.isBootstrapping
      compileTheWorld := s.shared.compileTheWorld
      steps := steps }))

/-- The scripted runtime as it is now. -/
def scripted : Play ScriptedRuntime := do
  pure ((← get).runtime.getD {})

/-- Whether a call of the scripted runtime succeeds. -/
def succeeds (call : RuntimeCall) (operation : String) : Play (Except ServiceError Unit) := do
  match (← scripted).failure call with
  | none => pure (.ok ())
  | some reason => pure (.error (.communication operation reason))

/-- The simulated runtime counts a call, which succeeds. -/
def simulate (count : RuntimeCount) : Play (Except ServiceError Unit) := do
  access Session.thread (.countRuntime count)
  pure (.ok ())

/-- The live instance. -/
def probe (nested : Nested) : Play (Option UInt64) := do
  if (← get).runtime.isNone then pure (some simulatedHandle)
  else
    noteCall nested .probe .probe
    pure (← scripted).instance?

/-- The excluded modules. -/
def excluded (nested : Nested) (handle : UInt64) : Play (Option (List ModuleId)) := do
  if (← get).runtime.isNone then pure (some simulatedExclusions)
  else
    noteCall nested .excluded (.excluded handle)
    pure (← scripted).excluded

/-- Detaches a worker. -/
def detach (nested : Nested) (w : Nat) (reason : String) : Play (Except ServiceError Unit) := do
  if (← get).runtime.isNone then simulate .detaches
  else
    noteCall nested .detach (.detach ((← get).shared.workers w) reason)
    succeeds .detach "detach"

/-- Repacks the resources of a worker. -/
def repack (nested : Nested) (w : Nat) : Play (Except ServiceError Unit) := do
  if (← get).runtime.isNone then simulate .repacks
  else
    noteCall nested .repack (.repack ((← get).shared.workers w))
    succeeds .repack "repack"

/-- Hears that a bootstrap is finished. -/
def bootstrapFinished (nested : Nested) : Play (Except ServiceError Unit) := do
  if (← get).runtime.isNone then simulate .notifications
  else
    noteCall nested .notify .notify
    succeeds .notify "bootstrap finished"

/-- The policy hears that startup is over. -/
def startupCompleted : Play Unit :=
  modify fun s =>
    { s.log (.startupCompleted s.shared.service.state) with policyCalls := s.policyCalls + 1 }

/-! ### The sink and the broker of a bootstrap -/

/-- The innermost bootstrap that is under way. -/
def innermost : Play (Option RunningBootstrap) := do
  pure (← get).bootstraps.head?

/-- Writes to the sink of the innermost bootstrap. -/
def write (text : String) : Play (Except SinkError Unit) := do
  match ← innermost with
  | none => pure (.ok ())
  | some b => do
    let (sink, outcome) := b.sink.write text
    modify (·.onBootstrap fun b => { b with sink := sink })
    pure outcome

/-- Flushes the sink of the innermost bootstrap. -/
def flush : Play (Except SinkError Unit) := do
  match ← innermost with
  | none => pure (.ok ())
  | some b => pure b.sink.flush

/-- Whether the innermost bootstrap was cancelled. -/
def isCancelled : Play Bool := do
  pure ((← innermost).any (·.isCancelled))

/-- Answers the thread of the session where nobody is called. -/
def answerQuietly : (a : Action) → Play a.Answer
  | .access a => access Session.thread a
  | .pause p => pause p
  | .call c => pure c.silence

/-- Whether the broker takes a task. -/
def brokerTakes (t : CompileTask) : Play Bool := do
  match ← innermost with
  | none => pure false
  | some b =>
    if b.usesQueue then do
      let accepted ← (Routine.submit t).run answerQuietly
      pure (accepted.getD false)
    else do
      modify (·.onBootstrap fun b => { b with accept := b.accept.tail })
      pure (b.accept.headD true)

/-- The size that the broker tells. -/
def brokerSize (tier : Tier) : Play Nat := do
  match ← innermost with
  | none => pure 0
  | some b =>
    if b.usesQueue then do
      let size ← (Routine.size tier).run answerQuietly
      pure (size.getD 0)
    else
      match b.sizes with
      | [] => pure 0
      | [n] => pure n
      | n :: rest => do
        modify (·.onBootstrap fun b => { b with sizes := rest })
        pure n

/-- Takes the list of steps that runs before the next task is taken. -/
def takeSubmitScript : Play (Option ScriptNumber) := do
  let number := (← innermost).bind (·.onSubmit.head?)
  modify (·.onBootstrap fun b => { b with onSubmit := b.onSubmit.tail })
  pure number

/-- Takes the list of steps that runs before the next size is told. -/
def takePollScript : Play (Option ScriptNumber) := do
  let number := (← innermost).bind (·.onPoll.head?)
  modify (·.onBootstrap fun b => { b with onPoll := b.onPoll.tail })
  pure number

/-- Notes what was asked of the broker. -/
def noteEvent (event : BrokerRecord Entry) : Play Unit :=
  modify (·.onBootstrap fun b => { b with events := event :: b.events })

/-- The broker of a bootstrap gets a task. -/
def brokerSubmit (nested : Nested) (t : CompileTask) : Play Bool := do
  let steps ← runNested nested (← takeSubmitScript)
  let accepted ← brokerTakes t
  let s ← get
  noteEvent (.submit t accepted s.shared.service.isBootstrapping s.shared.compileTheWorld steps)
  pure accepted

/-- The broker of a bootstrap tells a size. -/
def brokerPoll (nested : Nested) (tier : Tier) : Play Nat := do
  let steps ← runNested nested (← takePollScript)
  let size ← brokerSize tier
  noteEvent (.size tier size steps)
  pure size

/-! ### Routines -/

/-- The answer to a call. -/
def call (nested : Nested) : (c : Call) → Play c.Answer
  | .now => do pure (← get).clock
  | .isCancelled => isCancelled
  | .write text => write text
  | .flush => flush
  | .submit t => brokerSubmit nested t
  | .size tier => brokerPoll nested tier
  | .probe => probe nested
  | .excluded handle => excluded nested handle
  | .detach w reason => detach nested w reason
  | .repack w => repack nested w
  | .bootstrapFinished => bootstrapFinished nested
  | .startupCompleted => startupCompleted

/-- The answers to the thread of the session. -/
def answer (nested : Nested) : (a : Action) → Play a.Answer
  | .access a => access Session.thread a
  | .pause p => pause p
  | .call c => call nested c

/-- Runs a routine on the thread of the session. -/
def exec {α : Type} (nested : Nested) (r : Routine α) : Play (Option α) :=
  r.run (answer nested)

end Play

end ExternalCompiler

/-
Running a session:

* `Play.runStep`: the effect and the result of one step;
* `Play.runList`: a list of steps, which gives back the queue lock that it still holds at its end;
* `Session.run`: the answers of a whole session.

A numbered list of steps runs at most once, so that the lists are nested at most as deep as there
are numbers.
-/
import ExternalCompiler.Session.Surroundings
import ExternalCompiler.Worker.Loop

namespace ExternalCompiler

namespace Play

variable (nested : Nested)

/-! ### The queue lock -/

/-- Runs a routine and makes a result of its answer. -/
def perform {α : Type} (r : Routine α) (f : α → Result Entry) : Play (Result Entry) := do
  match ← exec nested r with
  | none => pure .unfinished
  | some a => pure (f a)

/-- Something that takes the queue lock by itself. -/
def whenFree (body : Play (Result Entry)) : Play (Result Entry) := do
  if (← get).isHeld then pure .deadlock else body

/-- Something under the queue lock, which is taken for it if the list of steps does not hold it. -/
def underLock (body : Play (Result Entry)) : Play (Result Entry) := do
  if (← get).holdsGuard then body
  else whenFree do
    let _ ← exec nested Routine.lock
    let result ← body
    let _ ← exec nested Routine.unlock
    pure result

/-- Takes the queue lock for the following steps. -/
def holdLock : Play (Result Entry) :=
  whenFree do
    let _ ← exec nested Routine.lock
    modify fun s => { s with holdsGuard := true }
    pure .nothing

/-- Gives the queue lock back. -/
def giveLockBack : Play (Result Entry) := do
  if (← get).holdsGuard then
    let _ ← exec nested Routine.unlock
    modify fun s => { s with holdsGuard := false }
    pure .nothing
  else pure .notHeld

/-! ### Hooks of workers -/

/-- Expects visits from now on or later. -/
def expectVisits (visits : List Visit) (afterMillis : Nat) : Play Unit :=
  modify fun s => { s with visitor := some ⟨s.clock + afterMillis, visits⟩ }

/-- A visitor who could not come before comes now; a lock that is held is given up for it. -/
def admitLateVisitor (isLocked : Bool) : Play Unit := do
  match (← get).visitor with
  | none => pure ()
  | some v =>
    if isLocked then do
      let _ ← exec nested Routine.unlock
      receive v
      let _ ← exec nested Routine.lock
    else receive v

/-- Something during which another thread comes. -/
def amidVisits {α : Type} (visits : List Visit) (afterMillis : Nat) (body : Play α) : Play α := do
  let outer := (← get).visitor
  expectVisits visits afterMillis
  let a ← body
  modify fun s => { s with visitor := outer }
  pure a

/-- A hook of a worker under the queue lock; after an error the lock is gone. -/
def runHook (hook : Routine (Except ServiceError HookAction)) : Play (Result Entry) := do
  match ← exec nested hook with
  | none => pure .unfinished
  | some outcome => do
    let relocked := (← get).isMarked
    admitLateVisitor nested outcome.toOption.isSome
    pure (.hook outcome relocked)

/-- A hook of a worker, with the lock that the list of steps holds or one for it alone. -/
def hookStep (visits : List Visit) (hook : Routine (Except ServiceError HookAction)) :
    Play (Result Entry) := do
  let isOwn := (← get).holdsGuard
  let body : Play (Result Entry) := amidVisits visits 0 do
    unless isOwn do let _ ← exec nested Routine.lock
    let result ← runHook nested hook
    if (← get).isHeld then
      unless isOwn do let _ ← exec nested Routine.unlock
    else modify fun s => { s with holdsGuard := false }
    pure result
  if isOwn then body else whenFree body

/-- Waits for work. -/
def waitHook (millis : Nat) : Routine (Except ServiceError HookAction) := do
  let outcome ← Routine.waitForWork millis
  pure (.ok (.waited outcome))

/-- A worker found the queue empty. -/
def idleHook (c : Config) (w : Nat) : Routine (Except ServiceError HookAction) := do
  let outcome ← Routine.onEmptyQueue c w
  pure (outcome.map .idled)

/-- A worker stops. -/
def stoppingHook (c : Config) (w : Nat) : Routine (Except ServiceError HookAction) := do
  let outcome ← Routine.stopping c w
  pure (outcome.map fun _ => .stopped)

/-! ### Workers and bootstraps -/

/-- Looks at so many rounds of a worker that it can take up all tasks and find the queue empty in
between. -/
def roundBound (s : Session) (visits : List Visit) (afterMillis : Nat) : Nat :=
  2 * (s.shared.queue.length + visits.length + s.scripts.weight + afterMillis) + 10

/-- A worker on the thread of the session. -/
def workerStep (w compileMillis : Nat) (visits : List Visit) (afterMillis : Nat) :
    Play (Result Entry) :=
  whenFree <| amidVisits visits afterMillis do
    let s ← get
    let rounds := roundBound s visits afterMillis
    let result ← perform nested (Routine.work rounds s.config w compileMillis) .summary
    admitLateVisitor nested false
    pure result

/-- Looks at so many polls of a bootstrap that every answer of its plan can be given. -/
def pollBound (plan : BootstrapPlan) : Nat :=
  plan.sizes.length + plan.onPoll.length + 3

/-- The routine of a plan. -/
def planRoutine (c : Config) (plan : BootstrapPlan) :
    Routine (Except ServiceError (Option BootstrapReport)) :=
  let cancellable := (plan.isCancellable || plan.isCancelled) && !plan.isTokenless
  Routine.bootstrap (pollBound plan) c cancellable plan.methods Broker.outside

/-- The result of a bootstrap. -/
def bootstrapResult (plan : BootstrapPlan) (b : RunningBootstrap)
    (outcome : Except ServiceError (Option BootstrapReport)) : Result Entry :=
  .bootstrap outcome b.sink (plan.isCancellable || plan.isCancelled) b.events.reverse

/-- A bootstrap by a plan. -/
def bootstrapStep (plan : BootstrapPlan) : Play (Result Entry) := do
  let s ← get
  if plan.usesQueue && s.isHeld then pure .deadlock
  else
    set { s with bootstraps := plan.begun :: s.bootstraps }
    let outcome ← exec nested (planRoutine s.config plan)
    let b := (← innermost).getD plan.begun
    modify fun s => { s with bootstraps := s.bootstraps.tail }
    match outcome with
    | none => pure .unfinished
    | some outcome => pure (bootstrapResult plan b outcome)

/-! ### Single steps -/

/-- Makes additions to counters. -/
def recordAll (l : List Addition) : Play (Result Entry) :=
  perform nested (Routine.record l) fun _ => .nothing

/-- An access and what becomes of its answer. -/
def accessStep (a : Access) (f : a.Answer → Result Entry) : Play (Result Entry) := do
  let answer ← access Session.thread a
  pure (f answer)

/-- The result of writing the timers. -/
def printTimers (sink : Sink) : Play (Result Entry) := do
  let (sink, outcome) := (← get).shared.service.counters.printTimers sink
  pure (.printed sink outcome)

/-- A task is taken out of the queue. -/
def popStep : Play (Result Entry) :=
  underLock nested (accessStep .popTask .task)

/-- The effect and the result of a step. -/
def runStep : Step → Play (Result Entry)
  | .startUp => do
    match ← exec nested (Routine.startUp (← get).config) with
    | none => pure .unfinished
    | some won => do pure (.started won (← get).policyCalls)
  | .isInitialized => accessStep .readState fun s => .truth (s == .initialized)
  | .markFailed => accessStep (.storeState .failed) fun _ => .nothing
  | .shutDown => accessStep (.storeState .shutDown) fun _ => .nothing
  | .markRequestHandled => perform nested Routine.markRequestHandled fun _ => .nothing
  | .countMethods n => recordAll nested [(.methodsCompiled, n), (.ticks, n)]
  | .countTicks n => recordAll nested [(.ticks, n)]
  | .recordCompilation time => recordAll nested (timed .compileTime time)
  | .timeCompilation => recordAll nested (timed .compileTime ⟨0, 0⟩)
  | .install origin blob code => recordAll nested (installed origin blob code)
  | .recordInstall origin time => recordAll nested (timed (.installTime origin) time)
  | .setFlag value => accessStep (.storeFlag value) fun _ => .nothing
  | .cancel => do
    modify (·.onBootstrap fun b => { b with isCancelled := true })
    pure .nothing
  | .printTimers sink => printTimers sink
  | .snapshot => do pure (.snapshot (← get).shared.service)
  | .counts => do
    let s ← get
    pure (.counts s.shared.service.counters s.shared.runtime)
  | .describe => do pure (.text (← get).shared.service.text)
  | .changeRuntime changes => do
    modify fun s => { s with runtime := s.runtime.map (·.changeAll changes) }
    pure .nothing
  | .consultGate method => do
    perform nested (Routine.consultGate (← get).config method) .truth
  | .submit task => whenFree (perform nested (Routine.submit task) .truth)
  | .submitWorkload n =>
    whenFree (perform nested (Routine.submitWorkload Broker.queue n) .number)
  | .size tier => whenFree (perform nested (Routine.size tier) .number)
  | .length => underLock nested (accessStep .readLength .number)
  | .isEmpty => whenFree (perform nested Routine.length fun n => .truth (n == 0))
  | .close => whenFree (perform nested Routine.close fun _ => .nothing)
  | .pop => popStep nested
  | .lock => holdLock nested
  | .unlock => giveLockBack nested
  | .guardInfo => underLock nested do pure (.guard (← get).shared.queue)
  | .lockedElsewhere => accessStep .readOwner fun _ => .truth false
  | .worker w => do pure (.worker ((← get).shared.workers w))
  | .markAttached w => accessStep (.storeAttached w true) fun _ => .nothing
  | .attach w => perform nested (Routine.attach w) fun _ => .nothing
  | .wait millis visits => hookStep nested visits (waitHook millis)
  | .onEmpty w visits => do hookStep nested visits (idleHook (← get).config w)
  | .stopping w => do hookStep nested [] (stoppingHook (← get).config w)
  | .runWorker w compileMillis visits afterMillis =>
    workerStep nested w compileMillis visits afterMillis
  | .bootstrap plan => bootstrapStep nested plan

/-! ### Lists of steps -/

/-- One step and its answer. -/
def runEntry (step : Step) : Play Entry := do
  let outer := (← get).calls
  modify fun s => { s with calls := [] }
  let result ← runStep nested step
  let s ← get
  set { s with calls := outer }
  pure ⟨result, s.view, s.calls.reverse⟩

/-- A list of steps, which has its own hold on the queue lock. -/
def runList (steps : List Step) : Play (List Entry) := do
  let outer ← get
  set { outer with holdsGuard := false, visitor := none }
  let entries ← steps.mapM (runEntry nested)
  if (← get).holdsGuard then
    let _ ← exec nested Routine.unlock
  modify fun s => { s with holdsGuard := outer.holdsGuard, visitor := outer.visitor }
  pure entries

/-- The numbered list of steps, and those nested in it down to a depth. -/
def runScript : Nat → ScriptNumber → Play (List Entry)
  | 0, _ => pure []
  | depth + 1, number => do
    let steps := (← get).scripts.table.getD number []
    runList (runScript depth) steps

end Play

namespace Session

/-- The answers of a session to all its steps. -/
def run (s : Session) : List Entry :=
  ((Play.runList (Play.runScript s.scripts.table.length) s.scripts.main).run s).1

end Session

end ExternalCompiler

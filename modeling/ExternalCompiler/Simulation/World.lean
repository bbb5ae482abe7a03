/-
The world of simulated threads:

* `World`: the shared state, the time, the standard output and the moment at which a bootstrap is
  given up;
* `World.act`: the effect of an action, unless the thread has to wait;
* `Thread`, `Thread.proceed`: a thread goes on until it has to wait;
* `World.schedule`: the threads take turns, and time passes only when all of them wait.
-/
import ExternalCompiler.Simulation.Workload

namespace ExternalCompiler

/-! ### The world -/

/-- The world of simulated threads; times are in milliseconds. -/
structure World where
  shared : Shared := {}
  clock : Nat := 0
  output : Sink := {}
  cancelAt : Option Nat := none

namespace World

/-- The simulated external runtime counts a call, which succeeds. -/
def counted (w : World) (k : RuntimeCount) : Except ServiceError Unit × World :=
  (.ok (), { w with shared.runtime := w.shared.runtime.count k })

/-- The answer to a call; nobody asks for a broker besides the queue. -/
def call (w : World) : (c : Call) → c.Answer × World
  | .now => (w.clock, w)
  | .isCancelled => (w.cancelAt.any (· ≤ w.clock), w)
  | .write text => ((w.output.write text).2, { w with output := (w.output.write text).1 })
  | .flush => (w.output.flush, w)
  | .probe => (some simulatedHandle, w)
  | .excluded _ => (some simulatedExclusions, w)
  | .detach _ _ => w.counted .detaches
  | .repack _ => w.counted .repacks
  | .bootstrapFinished => w.counted .notifications
  | c => (c.silence, w)

/-- Gives the queue lock to a thread. -/
def takeLock (w : World) (me : ThreadId) : World :=
  { w with shared.lock.holder := some me }

/-- Whether the number of accepted tasks is another one or the queue is closed. -/
def hasNews (w : World) (seen : UInt64) : Bool :=
  w.shared.queue.submitted != seen || w.shared.queue.isClosed

/-- The end of a pause whose time is over at a moment, unless it goes on. -/
def pause (w : World) (me : ThreadId) (due : Nat) : (p : Pause) → Option (p.Answer × World)
  | .takeLock => if w.shared.lock.holder.isSome then none else some ((), w.takeLock me)
  | .sleep _ => if due ≤ w.clock then some ((), w) else none
  | .awaitWork seen _ =>
    if w.shared.lock.holder.isSome then none
    else if w.hasNews seen then some (.notified, w.takeLock me)
    else if due ≤ w.clock then some (.timedOut, w.takeLock me)
    else none

/-- The effect of an action, unless the thread has to wait. -/
def act (w : World) (me : ThreadId) (due : Nat) : (a : Action) → Option (a.Answer × World)
  | .access a =>
    let (answer, shared) := a.perform me w.shared
    some (answer, { w with shared := shared })
  | .pause p => w.pause me due p
  | .call c => some (w.call c)

end World

/-- The time that an action takes at most. -/
def Action.millis : Action → Nat
  | .pause (.awaitWork _ millis) => millis
  | .pause (.sleep millis) => millis
  | _ => 0

/-! ### Threads -/

/-- A thread: who it is, what it still has to do, and when its pause is over. -/
structure Thread (α : Type) where
  me : ThreadId
  rest : Routine α
  due : Option Nat := none

namespace Thread

variable {α : Type}

/-- What is left of a routine when its thread has to wait. -/
def proceedWith (me : ThreadId) : Routine α → Option Nat → World → Thread α × World
  | .done a, _, w => (⟨me, .done a, none⟩, w)
  | .more, _, w => (⟨me, .more, none⟩, w)
  | .act a next, due, w =>
    let moment := due.getD (w.clock + a.millis)
    match w.act me moment a with
    | none => (⟨me, .act a next, some moment⟩, w)
    | some (answer, w) => proceedWith me (next answer) none w

/-- A thread goes on until it has to wait. -/
def proceed (t : Thread α) (w : World) : Thread α × World :=
  proceedWith t.me t.rest t.due w

/-- What a thread that is done brought. -/
def result? (t : Thread α) : Option α :=
  match t.rest with
  | .done a => some a
  | _ => none

/-- Whether a thread can go on. -/
def isReady (w : World) (t : Thread α) : Bool :=
  match t.rest with
  | .act a _ => (w.act t.me (t.due.getD (w.clock + a.millis)) a).isSome
  | _ => false

/-- The moment at which a waiting thread goes on by itself. -/
def wakesAt? (w : World) (t : Thread α) : Option Nat :=
  match t.rest, t.due with
  | .act _ _, some moment => if w.clock < moment then some moment else none
  | _, _ => none

end Thread

namespace World

variable {α : Type}

/-- Every thread has its turn. -/
def turns (w : World) : List (Thread α) → List (Thread α) × World
  | [] => ([], w)
  | t :: rest =>
    let (t, w) := t.proceed w
    let (rest, w) := turns w rest
    (t :: rest, w)

/-- The next moment at which a thread goes on by itself. -/
def nextMoment? (w : World) (threads : List (Thread α)) : Option Nat :=
  (threads.filterMap (·.wakesAt? w)).min?

/-- The threads take turns until none of them ever goes on, for a number of rounds. -/
def schedule : Nat → World → List (Thread α) → List (Thread α) × World
  | 0, w, threads => (threads, w)
  | n + 1, w, threads =>
    let (threads, w) := turns w threads
    if threads.any (·.isReady w) then schedule n w threads
    else
      match w.nextMoment? threads with
      | none => (threads, w)
      | some moment => schedule n { w with clock := moment } threads

end World

end ExternalCompiler

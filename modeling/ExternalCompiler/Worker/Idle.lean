/-
Idle workers of a hosted compiler give up what they hold in the external runtime:

* `Routine.onEmptyQueue`: a worker that finds nothing to do waits, then is detached if nothing
  came, or has its resources repacked if something did;
* `Routine.stopping`: a worker that stops is detached.

Both are called with the queue lock held, call the external runtime without it and hand it back;
after an error it stays released.
-/
import ExternalCompiler.Config.Basic
import ExternalCompiler.Queue.Operations

namespace ExternalCompiler

/-- What an idle worker did: nothing, or it was detached or repacked. -/
inductive IdleAction
  | none
  | detached
  | repacked
deriving DecidableEq

/-- Why a worker that stops is detached. -/
def stoppingReason : String := "stopping idle compiler thread"

/-- Why a worker that found no work is detached. -/
def idleReason : String := "releasing idle compiler thread"

namespace Routine

/-- Detaches a worker. -/
def detach (w : Nat) (reason : String) : Routine (Except ServiceError Unit) := do
  match ← call (.detach w reason) with
  | .error e => pure (.error e)
  | .ok () => do
    access (.storeAttached w false)
    pure (.ok ())

/-- Repacks the resources of a worker. -/
def repack (w : Nat) : Routine (Except ServiceError Unit) := do
  match ← call (.repack w) with
  | .error e => pure (.error e)
  | .ok () => do
    access (.countRepack w)
    pure (.ok ())

/-- Detaches or repacks a worker, as its wait ended. -/
def afterWait (w : Nat) : WaitOutcome → Routine (Except ServiceError IdleAction)
  | .timedOut => do
    match ← detach w idleReason with
    | .error e => pure (.error e)
    | .ok () => pure (.ok .detached)
  | .notified => do
    match ← repack w with
    | .error e => pure (.error e)
    | .ok () => pure (.ok .repacked)

/-- Waits for work and then detaches or repacks the worker with the lock released. -/
def idleOut (w : Nat) (delay : Nat) : Routine (Except ServiceError IdleAction) := do
  let outcome ← waitForWork delay
  unlock
  match ← afterWait w outcome with
  | .error e => pure (.error e)
  | .ok action => do
    lock
    pure (.ok action)

/-- A worker found the queue empty. Only attached workers of a hosted compiler idle out, only if
idling is on, and only after the startup grace period. -/
def onEmptyQueue (c : Config) (w : Nat) : Routine (Except ServiceError IdleAction) :=
  if c.isHosted then do
    if ← access (.readAttached w) then
      match c.idleDelay with
      | Option.none => pure (.ok .none)
      | some delay => do
        let uptime ← call .now
        if uptime < c.startupGrace then pure (.ok .none) else idleOut w delay
    else pure (.ok .none)
  else pure (.ok .none)

/-- A worker stops. -/
def stopping (c : Config) (w : Nat) : Routine (Except ServiceError Unit) :=
  if c.isHosted then do
    if ← access (.readAttached w) then
      unlock
      match ← detach w stoppingReason with
      | .error e => pure (.error e)
      | .ok () => do
        lock
        pure (.ok ())
    else pure (.ok ())
  else pure (.ok ())

end Routine

end ExternalCompiler

/-
What threads do with the compile queue:

* `Routine.lock`, `Routine.unlock`: the lock and the mark of its owner;
* `Routine.submit`, `Routine.size`, `Routine.length`, `Routine.close`: one visit each;
* `Routine.waitForWork`: gives the lock up until there is news or the time is over;
* `Broker`: whoever takes compile requests; the queue is one.
-/
import ExternalCompiler.Routine

namespace ExternalCompiler

namespace Routine

/-! ### The lock -/

/-- Takes the queue lock, then leaves the mark of its owner. -/
def lock : Routine Unit := do
  pause .takeLock
  access .markOwner

/-- Removes the mark of the owner, then gives the queue lock back. -/
def unlock : Routine Unit := do
  access .clearOwner
  access .releaseLock

/-! ### Visits -/

/-- Submits a task: it is refused while compile-the-world is on and when the queue is closed. -/
def submit (t : CompileTask) : Routine Bool := do
  if ← access .readFlag then pure false
  else
    lock
    if ← access .readClosed then
      unlock
      pure false
    else
      access (.pushTask t)
      unlock
      pure true

/-- The number of tasks that wait at a tier. -/
def size (tier : Tier) : Routine Nat := do
  lock
  let n ← access (.countTasks tier)
  unlock
  pure n

/-- The number of tasks that wait. -/
def length : Routine Nat := do
  lock
  let n ← access .readLength
  unlock
  pure n

/-- Closes the queue. -/
def close : Routine Unit := do
  lock
  access .setClosed
  unlock

/-! ### Waiting -/

/-- Waits for new work, under the lock: a closed queue ends the wait at once and without giving
the lock up, all else is awaited with the lock released. -/
def waitForWork (millis : Nat) : Routine WaitOutcome := do
  let seen ← access .readSubmitted
  access .clearOwner
  if ← access .readClosed then
    access .markOwner
    pure .notified
  else
    access .releaseLock
    let outcome ← pause (.awaitWork seen millis)
    access .markOwner
    pure outcome

end Routine

/-! ### Brokers -/

/-- Takes compile requests and says how many wait at a tier. -/
structure Broker where
  submit : CompileTask → Routine Bool
  size : Tier → Routine Nat

namespace Broker

/-- The compile queue as a broker. -/
def queue : Broker where
  submit := Routine.submit
  size := Routine.size

/-- A broker among the surroundings. -/
def outside : Broker where
  submit t := Routine.call (.submit t)
  size tier := Routine.call (.size tier)

end Broker

end ExternalCompiler

/-
The compile queue and its lock:

* `Queue`: the tasks in the order of their acceptance, the number of acceptances and whether the
  queue is closed;
* `Queue.push`, `Queue.pop`, `Queue.sizeAt`, `Queue.close`: what is done to it under its lock;
* `Lock`: the thread that holds the lock, and the mark by which threads recognize themselves.
-/
import ExternalCompiler.CompileTask

namespace ExternalCompiler

/-! ### The queue -/

/-- The tasks that wait, the oldest first; how many tasks were accepted, modulo `2 ^ 64`; and
whether the queue is closed. -/
structure Queue where
  tasks : List CompileTask := []
  submitted : UInt64 := 0
  isClosed : Bool := false
deriving DecidableEq

namespace Queue

/-- Puts an accepted task at the end. -/
def push (q : Queue) (t : CompileTask) : Queue :=
  { q with tasks := q.tasks ++ [t], submitted := q.submitted + 1 }

/-- Takes the oldest task. -/
def pop (q : Queue) : Option CompileTask × Queue :=
  match q.tasks with
  | [] => (none, q)
  | t :: rest => (some t, { q with tasks := rest })

/-- The number of tasks that wait. -/
def length (q : Queue) : Nat :=
  q.tasks.length

/-- The number of tasks that wait at a tier. -/
def sizeAt (q : Queue) (tier : Tier) : Nat :=
  q.tasks.countP fun t => t.tier == tier

/-- Accepts no more tasks. -/
def close (q : Queue) : Queue :=
  { q with isClosed := true }

/-- The held queue as diagnostics show it. -/
def guardText (q : Queue) : String :=
  "QueueGuard \x7b queued: " ++ toString q.length ++ " \x7d"

end Queue

/-! ### The lock -/

/-- A thread; the number zero stands for no thread. -/
abbrev ThreadId := Nat

/-- The thread that holds the lock, if any, and the mark of the owner. -/
structure Lock where
  holder : Option ThreadId := none
  owner : ThreadId := 0
deriving DecidableEq

end ExternalCompiler

/-
Compiler threads and their connection to the external runtime:

* `Worker`: whether a thread is attached, and how often its resources were repacked;
* `Summary`: what a thread did until it stopped.
-/

namespace ExternalCompiler

/-- A compiler thread. -/
structure Worker where
  id : Nat := 0
  isAttached : Bool := true
  repacks : UInt64 := 0
deriving DecidableEq

/-- The name of a compiler thread. -/
def Worker.name (w : Worker) : String :=
  "jit-compiler-" ++ toString w.id

/-- What a compiler thread did: methods compiled by the external compiler, methods left to the
simple tier, and the ends of its idle waits. -/
structure Summary where
  compiled : Nat := 0
  forcedSimple : Nat := 0
  idleDetaches : Nat := 0
  idleRepacks : Nat := 0
deriving DecidableEq

end ExternalCompiler

/-
Compile tasks:

* `Tier`: the compilation tiers, in their order;
* `EntryPoint`, `Reason`: where compiled code is entered and why it was asked for;
* `CompileTask`: the request to compile one method.
-/
import ExternalCompiler.Method

namespace ExternalCompiler

/-! ### Tiers -/

/-- The compilation tiers, lowest first: the interpreter, three levels of the fast compiler
(without profiling, with counters, with full profiling) and the optimizing compiler. -/
inductive Tier
  | interpreter
  | simple
  | limitedProfile
  | fullProfile
  | fullOptimization
deriving DecidableEq

namespace Tier

/-- The place of a tier in their order. -/
def rank : Tier → Nat
  | interpreter => 0
  | simple => 1
  | limitedProfile => 2
  | fullProfile => 3
  | fullOptimization => 4

/-- The tier of the optimizing compiler, which is the one a bootstrap drains. -/
def top : Tier := fullOptimization

/-- The order of two tiers. -/
def order (a b : Tier) : Ordering :=
  compare a.rank b.rank

/-- All tiers, lowest first. -/
def all : List Tier :=
  [interpreter, simple, limitedProfile, fullProfile, fullOptimization]

end Tier

/-! ### Tasks -/

/-- Where compiled code is entered: by a call, or in the middle of a loop at a bytecode index. -/
inductive EntryPoint
  | invocation
  | osr (index : UInt32)
deriving DecidableEq

/-- Why a compilation was asked for: a counter overflowed, the runtime insists on it, or it is
a seed of the bootstrap. -/
inductive Reason
  | tiered
  | mustBeCompiled
  | bootstrap
deriving DecidableEq

/-- A request to compile one method. -/
structure CompileTask where
  method : Method
  entry : EntryPoint := .invocation
  tier : Tier
  hotCount : UInt32
  reason : Reason
deriving DecidableEq

end ExternalCompiler

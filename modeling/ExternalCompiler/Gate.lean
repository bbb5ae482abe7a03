/-
Which methods the external compiler leaves to the simple tier:

* `forcedSimple`: a compiler that runs among the application's own code is not asked to compile
  the modules that the external runtime excludes, except in a bootstrap;
* `Routine.consultGate`: the same for a method, with the window read first;
* `Lookups`: what an external runtime answers to the gate; `Lookups.consult` asks it about one
  method after the other.

What cannot be looked up never forces the simple tier.
-/
import ExternalCompiler.Config.Basic
import ExternalCompiler.Routine

namespace ExternalCompiler

/-- Whether a method of the module is left to the simple tier. -/
def forcedSimple (isBootstrapping isHosted : Bool) (module : ModuleId) : Routine Bool :=
  if isBootstrapping || isHosted then pure false
  else do
    match ← Routine.call .probe with
    | none => pure false
    | some handle =>
      match ← Routine.call (.excluded handle) with
      | none => pure false
      | some modules => pure (modules.contains module)

namespace Routine

/-- Whether the service leaves a method to the simple tier at this moment. -/
def consultGate (c : Config) (m : Method) : Routine Bool := do
  let isBootstrapping ← access .readBootstrapping
  forcedSimple isBootstrapping c.isHosted m.module

end Routine

/-! ### Asking an external runtime -/

/-- What an external runtime answers to lookups: the live instance and the excluded modules, if
there are any. -/
structure Lookups where
  handle : Option UInt64 := none
  excluded : Option (List ModuleId) := none

namespace Lookups

/-- The answer to a call; all but lookups meet silence. -/
def answer (l : Lookups) : (c : Call) → c.Answer
  | .probe => l.handle
  | .excluded _ => l.excluded
  | c => c.silence

/-- Answers an action and notes the calls, the newest first; nothing else is around. -/
def note (l : Lookups) : (a : Action) → StateM (List Call) a.Answer
  | .access a => pure (a.perform 1 {}).1
  | .pause .takeLock => pure ()
  | .pause (.awaitWork _ _) => pure .timedOut
  | .pause (.sleep _) => pure ()
  | .call c => do
    modify (c :: ·)
    pure (l.answer c)

/-- Which methods of a list are left to the simple tier, and the calls that were made to find
out. -/
def consult (l : Lookups) (isBootstrapping isHosted : Bool) (methods : List Method) :
    List Bool × List Call :=
  let ask (m : Method) : StateM (List Call) Bool := do
    let forced ← (forcedSimple isBootstrapping isHosted m.module).run l.note
    pure (forced.getD false)
  let (forced, calls) := (methods.mapM ask).run []
  (forced, calls.reverse)

end Lookups

end ExternalCompiler

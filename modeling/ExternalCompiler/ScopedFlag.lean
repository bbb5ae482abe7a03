/-
A flag with scoped overrides:

* `ScopedFlag.enter` sets the flag and remembers its previous value;
* `ScopedFlag.leave` ends one override and puts the value back that it replaced;
* `ScopedFlag.leaveAll` ends the overrides that are left, the newest first.
-/

namespace ExternalCompiler

/-- An override of a flag: its number and the value that it replaced. -/
structure FlagOverride where
  number : Nat
  previous : Bool
deriving DecidableEq

/-- A flag, its live overrides (the newest first) and the number of the next one. -/
structure ScopedFlag where
  value : Bool := false
  live : List FlagOverride := []
  next : Nat := 0

namespace ScopedFlag

/-- Stores a value, whatever overrides are live. -/
def set (f : ScopedFlag) (value : Bool) : ScopedFlag :=
  { f with value := value }

/-- Overrides the flag until the override is left. -/
def enter (f : ScopedFlag) (value : Bool) : ScopedFlag :=
  { value := value, live := ⟨f.next, f.value⟩ :: f.live, next := f.next + 1 }

/-- Leaves the override with the given number; nothing happens when it is not live. -/
def leave (f : ScopedFlag) (number : Nat) : ScopedFlag :=
  match f.live.find? (·.number == number) with
  | none => f
  | some o => { f with value := o.previous, live := f.live.filter (·.number != number) }

/-- Leaves every live override, the newest first. -/
def leaveAll (f : ScopedFlag) : ScopedFlag :=
  { f with value := f.live.foldl (fun _ o => o.previous) f.value, live := [] }

end ScopedFlag

end ExternalCompiler

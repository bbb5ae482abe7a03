/-
One compiler service in a process:

* `Slot`: the place of the service of a process, and the services that were made and not dropped;
* `Slot.create`: makes a service if the place is free; dropping one does not free the place.
-/
import ExternalCompiler.Config.Basic
import ExternalCompiler.Error

namespace ExternalCompiler

/-- The place of the service of a process: whether it was taken, and the services that are held,
the newest first. -/
structure Slot where
  isTaken : Bool := false
  held : List Config := []

namespace Slot

/-- Makes a service, unless one was made before. -/
def create (s : Slot) (c : Config) : Slot × Except ServiceError Config :=
  if s.isTaken then (s, .error .alreadyCreated)
  else ({ isTaken := true, held := c :: s.held }, .ok c)

/-- Drops the newest service; the place stays taken. -/
def drop (s : Slot) : Slot :=
  { s with held := s.held.tail }

/-- Frees the place; services that are held stay so. -/
def free (s : Slot) : Slot :=
  { s with isTaken := false }

end Slot

end ExternalCompiler

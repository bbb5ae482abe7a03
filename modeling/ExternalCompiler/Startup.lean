/-
The start of the service:

* `Routine.startUp`: at most one caller turns the external compiler on, and only one that the
  configuration selects;
* `Routine.markRequestHandled`: a compiler thread tells a running bootstrap that it is at work.
-/
import ExternalCompiler.Config.Basic
import ExternalCompiler.Routine

namespace ExternalCompiler.Routine

/-- Turns the external compiler on, unless it is not selected or was turned on before; the policy
hears of it after the service says so itself. -/
def startUp (c : Config) : Routine Bool :=
  if c.selectsExternalCompiler then do
    if ← access .claimStartup then
      access (.storeState .initialized)
      call .startupCompleted
      pure true
    else pure false
  else pure false

/-- Says that a compile request was taken up; outside a bootstrap window nobody listens. -/
def markRequestHandled : Routine Unit := do
  if ← access .readBootstrapping then access .setHandled

end ExternalCompiler.Routine

/-
The errors of the compiler service and the texts that report them:

* `ServiceError`: what can go wrong with the service, its bootstrap and its workers;
* `ServiceError.message`: the text of each.
-/
import ExternalCompiler.Sink

namespace ExternalCompiler

/-- What can go wrong: a second service in one process, a second bootstrap beside a running one,
a cancelled bootstrap, a failed call of the external runtime, a failed diagnostic output. -/
inductive ServiceError
  | alreadyCreated
  | bootstrapInProgress
  | bootstrapCancelled (elapsedMillis : Nat) (pending : Nat)
  | communication (operation : String) (reason : String)
  | output (cause : SinkError)
deriving DecidableEq

/-- The text of an error. -/
def ServiceError.message : ServiceError → String
  | alreadyCreated => "compiler service already created for this process"
  | bootstrapInProgress => "bootstrap already in progress"
  | bootstrapCancelled elapsed pending =>
    "bootstrap cancelled after " ++ toString elapsed ++ "ms (" ++ toString pending
      ++ " tasks still queued)"
  | communication operation reason => "external runtime " ++ operation ++ " failed: " ++ reason
  | output cause => "diagnostic output failed: " ++ cause.message

end ExternalCompiler

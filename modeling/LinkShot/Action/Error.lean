import LinkShot.Action.Trigger
import LinkShot.Capture.Error
import LinkShot.Template.Extraction

/-! How an action fails. None of the failures concerns more than the one action. -/
namespace LinkShot.Action

/-- What the network reports of an address: no server was reached, or the address cannot be sent
to. -/
inductive NetworkFault where
  | unreachable (url : String)
  | unsendable (url : String)
  deriving DecidableEq, Repr

def NetworkFault.message : NetworkFault → String
  | .unreachable url => "error sending request for url (" ++ url ++ ")"
  | .unsendable url => "builder error for url (" ++ url ++ ")"

/-- Failures of a request. -/
inductive DispatchError where
  | invalidUrl (url reason : String)
  | invalidHeader (name reason : String)
  | transport (fault : NetworkFault)
  | client
  | emptyResponse
  | cancelled
  deriving DecidableEq, Repr

def DispatchError.message : DispatchError → String
  | .invalidUrl url reason => "Invalid request URL '" ++ url ++ "': " ++ reason
  | .invalidHeader name reason => "Invalid header '" ++ name ++ "': " ++ reason
  | .transport fault => "Request failed: " ++ fault.message
  | .client => "Failed to build HTTP client: builder error"
  | .emptyResponse => "Provider returned an empty response"
  | .cancelled => "Request cancelled"

inductive Error where
  | capture (e : Capture.Error)
  | dispatch (e : DispatchError)
  | extraction (e : Template.Error)
  | unknownProvider (name : String)
  | wrongTrigger (provider : String) (trigger : Trigger)
  | promptFailed
  | managerStopped
  deriving DecidableEq, Repr

def Error.message : Error → String
  | .capture e => e.message
  | .dispatch e => e.message
  | .extraction e => e.message
  | .unknownProvider name => "No provider named '" ++ name ++ "'"
  | .wrongTrigger provider trigger =>
    "Provider '" ++ provider ++ "' cannot be run from " ++ trigger.text
  | .promptFailed => "Action task failed: Placeholder task failed"
  | .managerStopped => "Action manager not running"

def Error.isCancelled : Error → Bool
  | .dispatch .cancelled => true
  | _ => false

end LinkShot.Action

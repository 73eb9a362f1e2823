import LinkShot.Action.Placeholder

/-!
One action from its trigger to its notification. Clipboard, log and the success notification are
reached only with a result; failures that the user has not chosen are notified.
-/
namespace LinkShot.Action

open Text (Bytes)

variable [Regex.Engine]

def notifyError (message : String) : Routine Unit := Routine.call (.notify ⟨"Error", message⟩)

/-- Sends the request unless the token is cancelled, and waits for the response or the token. -/
def dispatch (provider : Provider) (arguments headers : OrderedMap) (payload : Option Bytes) :
    Routine (Except DispatchError String) := do
  let cancelled ← Routine.call .poll
  if cancelled = true then return .error .cancelled
  let request := Request.prepare provider arguments headers payload
  match ← Routine.call (.send request) with
  | .cancelled => return .error .cancelled
  | .answered (.error e) => return .error e
  | .answered (.ok body) => return if body.isEmpty then .error .emptyResponse else .ok body

/-- Copies the result and logs it. A copy that crashes takes the log entry with it. -/
def deliver (result : String) : Routine Unit := do
  match ← Routine.call (.copy result) with
  | .crash => return ()
  | .copied | .failed =>
    let _ ← Routine.call (.log result)
    return ()

/-- From the response to the notification. -/
def conclude (provider : Provider) (body : String) : Routine (Except Error String) := do
  match Template.extract provider body with
  | .error e =>
    notifyError ("Could not extract a result from " ++ provider.name)
    return .error (.extraction e)
  | .ok result =>
    deliver result
    Routine.call (.notify ⟨"Response from " ++ provider.name, result⟩)
    return .ok result

def sendErrorText (provider : Provider) (payload : Option Bytes) : String :=
  if payload.isSome then "There was an error uploading your screenshot"
  else "Request to " ++ provider.name ++ " failed"

/-- From the end of the request to the notification; cancelling is silent. -/
def settle (provider : Provider) (payload : Option Bytes) :
    Except DispatchError String → Routine (Except Error String)
  | .error .cancelled => return .error (.dispatch .cancelled)
  | .error e => do
    notifyError (sendErrorText provider payload)
    return .error (.dispatch e)
  | .ok body => conclude provider body

/-- From the payload to the notification. -/
def submit (provider : Provider) (payload : Option Bytes) : Routine (Except Error String) := do
  match ← resolveRequest provider with
  | none => return .error .promptFailed
  | some (arguments, headers) =>
    settle provider payload (← dispatch provider arguments headers payload)

/-- An upload provider is run by a capture, any other by the tool trigger. -/
def accepts (provider : Provider) : Trigger → Bool
  | .capture _ => provider.isUpload
  | .tool => !provider.isUpload

/-- The result of an action, or why there is none. -/
def perform (provider : Provider) (trigger : Trigger) : Routine (Except Error String) := do
  if !accepts provider trigger then return .error (.wrongTrigger provider.name trigger)
  match trigger with
  | .tool => submit provider none
  | .capture mode =>
    match ← Routine.call (.capture mode) with
    | .ok image => submit provider (some image)
    | .error e =>
      notifyError "There was an error taking a screenshot"
      return .error (.capture e)

end LinkShot.Action

/-! What can go wrong while a screenshot is taken. -/
namespace LinkShot.Capture

inductive Error where
  | spawn (tool text : String)
  | toolFailed (tool text : String)
  | emptyImage (tool : String)
  | invalidResponse (text : String)
  | interrupted (text : String)
  deriving DecidableEq, Repr

def Error.message : Error → String
  | .spawn tool text => "Failed to run " ++ tool ++ ": " ++ text
  | .toolFailed tool text => tool ++ " failed: " ++ text
  | .emptyImage tool => tool ++ " returned an empty screenshot"
  | .invalidResponse text => "Unexpected capture tool output: " ++ text
  | .interrupted text => "Capture task failed: " ++ text

end LinkShot.Capture

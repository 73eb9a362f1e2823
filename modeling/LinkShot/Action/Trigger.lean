import LinkShot.Capture.Mode

/-! What starts an action. -/
namespace LinkShot.Action

inductive Trigger where
  | capture (mode : Capture.Mode)
  | tool
  deriving DecidableEq, Repr

/-- The trigger as messages name it. -/
def Trigger.text : Trigger → String
  | .capture .full => "Capture(Full)"
  | .capture .region => "Capture(Region)"
  | .capture .window => "Capture(Window)"
  | .tool => "Tool"

end LinkShot.Action

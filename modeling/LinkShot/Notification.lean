/-! Desktop notifications. -/
namespace LinkShot

structure Notification where
  title : String
  message : String
  deriving DecidableEq, Repr

/-- Errors get a warning icon. -/
def Notification.icon (title : String) : String :=
  if title = "Error" then "dialog-error" else "emblem-shared"

end LinkShot

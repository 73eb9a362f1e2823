import LinkShot.Action.Trigger
import LinkShot.Provider

/-! What the menu, the hotkey and the command line ask for. -/
namespace LinkShot

open LinkShot.Action (Trigger)

/-- A provider and what starts it. -/
structure Job where
  provider : Provider
  trigger : Trigger
  deriving DecidableEq, Repr

/-- A job for a provider; only upload providers take the capture mode. -/
def Job.ofProvider (provider : Provider) (mode : Capture.Mode) : Job :=
  ⟨provider, if provider.isUpload then .capture mode else .tool⟩

end LinkShot

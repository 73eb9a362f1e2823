import LinkShot.Daemon.Basic
import LinkShot.Manager.Session

/-! A daemon with the files that it reads and an action manager, each step run to its end. -/
namespace LinkShot.Daemon

structure Session where
  files : Files
  daemon : Daemon
  actions : Manager.Session

namespace Session

variable [Regex.Engine]

/-- Carries out a command. A job that cannot be queued is dropped. -/
def handle (s : Session) : Command → Session
  | .run job => match s.actions.request job with
    | .ok actions => { s with actions := actions.settle }
    | .error _ => s
  | .cancelPending => { s with actions := s.actions.cancelCurrent.2.settle }
  | .reload => { s with daemon := (s.daemon.reload s.files).2 }

/-- Carries out the next command, if one waits. -/
def pump (s : Session) : Option Command × Session :=
  match s.daemon.receive with
  | some (command, daemon) => (some command, { s with daemon }.handle command)
  | none => (none, s)

def runHotkey (s : Session) : Session :=
  match s.daemon.hotkeyJob with
  | some job => s.handle (.run job)
  | none => s

/-- Lets a waiting request be answered. -/
def release (s : Session) : Bool × Session :=
  let (released, actions) := s.actions.release
  (released, { s with actions := actions.settle })

def reload (s : Session) : Bool × Session :=
  let (loaded, daemon) := s.daemon.reload s.files
  (loaded, { s with daemon })

end Session
end LinkShot.Daemon

import LinkShot.Action.Script
import LinkShot.Manager.Basic

/-! A manager with scripted collaborators, run until it rests or a request is left waiting. -/
namespace LinkShot.Manager

open LinkShot.Action (Call Script ScriptedSend DispatchError SendReply)

/-- `events` are the calls that were seen, the last first. -/
structure Session where
  manager : Manager
  script : Script
  events : List Call

namespace Session

variable [Regex.Engine]

def start (script : Script) (stopped : Bool) : Session :=
  ⟨{ Manager.initial with gone := stopped }, script, []⟩

/-- The session with its waiting request replied to, if there is one. -/
def replyToPending (s : Session) (reply : SendReply) : Option Session :=
  match s.manager.work with
  | .call (.send _) resume =>
    some { s with manager := resume reply, script := { s.script with pending := none } }
  | _ => none

/-- One step of the worker; nothing when it rests or waits. A waiting request whose token is
cancelled is given up. -/
def step? (s : Session) : Option Session :=
  match s.script.pending with
  | some _ => if s.manager.token then s.replyToPending .cancelled else none
  | none =>
    match s.manager.work with
    | .rest => none
    | .next m => some { s with manager := m }
    | .call c resume =>
      let played := s.script.play s.manager.token c
      let manager := match played.reply with
        | some reply => resume reply
        | none => s.manager
      some { s with
        manager := { manager with token := played.cancelled }
        script := played.script
        events := if c.isEvent then c :: s.events else s.events }

def settleFrom : Nat → Session → Session
  | 0, s => s
  | fuel + 1, s => match s.step? with
    | some next => settleFrom fuel next
    | none => s

/-- An upper bound of the worker's steps for a job: six phases, seven calls, and two for each
entry. -/
def jobSteps (job : Job) : Nat :=
  16 + 2 * (job.provider.arguments.size + job.provider.headers.size)

def currentSteps (m : Manager) : Nat :=
  match m.phase with
  | .waiting => 0
  | .taken job | .armed job | .performing job _ | .ended job _ | .disarmed job _ => jobSteps job

/-- Lets the worker go on as far as it can. -/
def settle (s : Session) : Session :=
  settleFrom (s.manager.queue.foldl (fun n job => n + jobSteps job) (currentSteps s.manager)) s

/-- Lets a waiting request be answered. -/
def release (s : Session) : Bool × Session :=
  match s.script.pending with
  | none => (false, s)
  | some body =>
    match s.replyToPending (.answered (.ok body)) with
    | some next => (true, next)
    | none => (false, s)

def request (s : Session) (job : Job) : Except Action.Error Session :=
  (s.manager.request job).map fun manager => { s with manager }

def cancelCurrent (s : Session) : Bool × Session :=
  let (reached, manager) := s.manager.cancelCurrent
  (reached, { s with manager })

/-- The events since the last time, in order. -/
def takeEvents (s : Session) : List Call × Session := (s.events.reverse, { s with events := [] })

end Session
end LinkShot.Manager

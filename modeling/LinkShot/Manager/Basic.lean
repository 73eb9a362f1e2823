import LinkShot.Action.Perform
import LinkShot.Job

/-!
The action manager. Clients queue jobs and may cancel the one that is being done; one worker does
the jobs in order and publishes a status before and after each. The worker's program is cut at every
point where another call can come between.
-/
namespace LinkShot

open LinkShot.Action (Call Routine)

namespace Manager

abbrev Outcome := Except Action.Error String

inductive Status where
  | idle
  | running (name : String)
  | finished (result : String)
  | failed (message : String)
  | cancelled
  deriving DecidableEq, Repr

/-- The status that an outcome is published as. -/
def Status.ofOutcome : Outcome → Status
  | .ok result => .finished result
  | .error e => if e.isCancelled then .cancelled else .failed e.message

/-- Where the worker stands. -/
inductive Phase where
  | waiting
  | taken (job : Job)
  | armed (job : Job)
  | performing (job : Job) (routine : Routine Outcome)
  | ended (job : Job) (outcome : Outcome)
  | disarmed (job : Job) (outcome : Outcome)

end Manager

/-- `token` is the flag of the last job's token, and `armed` says whether clients can reach it. Once
the worker is gone no job is taken; what it had begun may still come to its end. -/
structure Manager where
  queue : List Job
  phase : Manager.Phase
  token : Bool
  armed : Bool
  status : Manager.Status
  gone : Bool

namespace Manager

def initial : Manager := ⟨[], .waiting, false, false, .idle, false⟩

/-- What the worker does next: nothing, a step of its own, or a call that it waits for. -/
inductive Work where
  | rest
  | next (m : Manager)
  | call (c : Call) (resume : c.Reply → Manager)

variable [Regex.Engine]

def work (m : Manager) : Work :=
  match m.phase with
  | .waiting =>
    match m.gone, m.queue with
    | false, job :: queue => .next { m with queue, phase := .taken job }
    | _, _ => .rest
  | .taken job => .next { m with token := false, armed := true, phase := .armed job }
  | .armed job =>
    .next { m with
      status := .running job.provider.name
      phase := .performing job (Action.perform job.provider job.trigger) }
  | .performing job (.done outcome) => .next { m with phase := .ended job outcome }
  | .performing job (.ask c next) =>
    .call c fun reply => { m with phase := .performing job (next reply) }
  | .ended job outcome => .next { m with armed := false, phase := .disarmed job outcome }
  | .disarmed _ outcome => .next { m with status := .ofOutcome outcome, phase := .waiting }

/-- The manager with the job queued, while there is a worker. -/
def request (m : Manager) (job : Job) : Except Action.Error Manager :=
  if m.gone then .error .managerStopped else .ok { m with queue := m.queue ++ [job] }

/-- Cancels the token that is within reach; whether there was one, and the manager after. -/
def cancelCurrent (m : Manager) : Bool × Manager :=
  if m.armed then (true, { m with token := true }) else (false, m)

/-- The replies that a call can get: a token is seen as it is, and a pending request is given up
only when it is cancelled. -/
def Allowed (m : Manager) : (c : Call) → c.Reply → Prop
  | .poll, reply => reply = m.token
  | .send _, .cancelled => m.token = true
  | _, _ => True

/-- What happens in a step. The worker's own steps are told by the phase that they leave. -/
inductive Label where
  | work (phase : Phase)
  | call (c : Call) (reply : c.Reply)
  | request (job : Job)
  | refuse (job : Job) (e : Action.Error)
  | cancel (reached : Bool)
  | stop

/-- The interleavings of clients and worker. -/
inductive Step : Manager → Label → Manager → Prop where
  | work {m n : Manager} : m.work = .next n → Step m (.work m.phase) n
  | call {m : Manager} {c : Call} {resume : c.Reply → Manager} {reply : c.Reply} :
      m.work = .call c resume → m.Allowed c reply → Step m (.call c reply) (resume reply)
  | request {m n : Manager} {job : Job} : m.request job = .ok n → Step m (.request job) n
  | refuse {m : Manager} {job : Job} {e : Action.Error} :
      m.request job = .error e → Step m (.refuse job e) m
  | cancel {m : Manager} : Step m (.cancel m.cancelCurrent.1) m.cancelCurrent.2
  | stop {m : Manager} : Step m .stop { m with gone := true }

end Manager
end LinkShot

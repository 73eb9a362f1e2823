import LinkShot.Manager.Basic
import LinkShot.Proofs.Action.Watched

/-! Runs of the manager from its start, and all that a step can do. -/
namespace LinkShot.Manager

open LinkShot.Action (Call Exchange Routine)

variable {m n : Manager} {l : Label} {ls : List Label}

theorem allowed_iff_granted {c : Call} {reply : c.Reply} :
    m.Allowed c reply ↔ Exchange.Granted m.token ⟨c, reply⟩ := by
  cases c with
  | send request => cases reply <;> rfl
  | _ => rfl

variable [Regex.Engine]

/-- What has happened since the start, and where that led. -/
inductive Reached : List Label → Manager → Prop where
  | start : Reached [] .initial
  | step {ls : List Label} {l : Label} {m n : Manager} :
      Reached ls m → Step m l n → Reached (ls ++ [l]) n

/-- The steps, one constructor for each point of the worker's program and each client's call. -/
inductive Moves (m : Manager) : Label → Manager → Prop where
  | take {job : Job} {queue : List Job} :
      m.phase = .waiting → m.gone = false → m.queue = job :: queue →
      Moves m (.work .waiting) { m with queue, phase := .taken job }
  | arm {job : Job} : m.phase = .taken job →
      Moves m (.work (.taken job)) { m with token := false, armed := true, phase := .armed job }
  | begin {job : Job} : m.phase = .armed job →
      Moves m (.work (.armed job))
        { m with
          status := .running job.provider.name
          phase := .performing job (Action.perform job.provider job.trigger) }
  | finish {job : Job} {outcome : Outcome} : m.phase = .performing job (.done outcome) →
      Moves m (.work (.performing job (.done outcome))) { m with phase := .ended job outcome }
  | disarm {job : Job} {outcome : Outcome} : m.phase = .ended job outcome →
      Moves m (.work (.ended job outcome)) { m with armed := false, phase := .disarmed job outcome }
  | publish {job : Job} {outcome : Outcome} : m.phase = .disarmed job outcome →
      Moves m (.work (.disarmed job outcome))
        { m with status := .ofOutcome outcome, phase := .waiting }
  | call {job : Job} {c : Call} {next : c.Reply → Routine Outcome} {reply : c.Reply} :
      m.phase = .performing job (.ask c next) → m.Allowed c reply →
      Moves m (.call c reply) { m with phase := .performing job (next reply) }
  | request {job : Job} : m.gone = false →
      Moves m (.request job) { m with queue := m.queue ++ [job] }
  | refuse {job : Job} : m.gone = true → Moves m (.refuse job .managerStopped) m
  | reach : m.armed = true → Moves m (.cancel true) { m with token := true }
  | miss : m.armed = false → Moves m (.cancel false) m
  | stop : Moves m .stop { m with gone := true }

theorem moves_of_work (hw : m.work = .next n) : Moves m (.work m.phase) n := by
  obtain ⟨queue, phase, token, armed, status, gone⟩ := m
  cases phase with
  | waiting =>
    cases gone <;> cases queue <;> cases hw
    exact .take rfl rfl rfl
  | taken job =>
    cases hw
    exact .arm rfl
  | armed job =>
    cases hw
    exact .begin rfl
  | performing job r =>
    cases r <;> cases hw
    exact .finish rfl
  | ended job outcome =>
    cases hw
    exact .disarm rfl
  | disarmed job outcome =>
    cases hw
    exact .publish rfl

/-- The worker waits for a call only where it performs one. -/
theorem performing_of_call {c : Call} {resume : c.Reply → Manager} (hw : m.work = .call c resume) :
    ∃ job next, m.phase = .performing job (.ask c next) ∧
      resume = fun reply => { m with phase := .performing job (next reply) } := by
  obtain ⟨queue, phase, token, armed, status, gone⟩ := m
  cases phase with
  | performing job r =>
    cases r <;> cases hw
    exact ⟨job, _, rfl, rfl⟩
  | waiting => cases gone <;> cases queue <;> cases hw
  | taken | armed | ended | disarmed => cases hw

theorem moves_of_call {c : Call} {resume : c.Reply → Manager} {reply : c.Reply}
    (hw : m.work = .call c resume) (ha : m.Allowed c reply) :
    Moves m (.call c reply) (resume reply) := by
  obtain ⟨job, next, hp, rfl⟩ := performing_of_call hw
  exact .call hp ha

theorem moves_of_step (hs : Step m l n) : Moves m l n := by
  cases hs with
  | work hw => exact moves_of_work hw
  | call hw ha => exact moves_of_call hw ha
  | request hr =>
    obtain ⟨queue, phase, token, armed, status, gone⟩ := m
    cases gone <;> cases hr
    exact .request rfl
  | refuse hr =>
    obtain ⟨queue, phase, token, armed, status, gone⟩ := m
    cases gone <;> cases hr
    exact .refuse rfl
  | cancel =>
    obtain ⟨queue, phase, token, armed, status, gone⟩ := m
    cases armed with
    | true => exact .reach rfl
    | false => exact .miss rfl
  | stop => exact .stop

def Phase.holdsToken : Phase → Bool
  | .armed _ | .performing _ _ | .ended _ _ => true
  | _ => false

/-- Clients reach the token exactly while the worker holds it out. -/
theorem armed_eq (hr : Reached ls m) : m.armed = m.phase.holdsToken := by
  induction hr with
  | start => rfl
  | step _ hs ih =>
    cases moves_of_step hs with
    | take hw | begin hw | finish hw | publish hw | call hw =>
      rw [hw] at ih
      exact ih
    | arm | disarm => rfl
    | request | refuse | reach | miss | stop => exact ih

/-- What is not yet the last step has already happened. -/
theorem reached_before {before after : List Label} (hr : Reached (before ++ l :: after) m) :
    ∃ m₁ m₂, Reached before m₁ ∧ Step m₁ l m₂ := by
  generalize hls : before ++ l :: after = ls at hr
  induction hr generalizing after with
  | start => simp at hls
  | step hr hs ih =>
    rcases List.eq_nil_or_concat after with rfl | ⟨after, last, rfl⟩
    · obtain ⟨rfl, hl⟩ := List.append_inj' hls rfl
      cases hl
      exact ⟨_, _, hr, hs⟩
    · rw [List.concat_eq_append, ← List.cons_append, ← List.append_assoc] at hls
      exact ih (List.append_inj' hls rfl).1

end LinkShot.Manager

import LinkShot.Proofs.Manager.Order

/-!
The worker by itself. Whatever its calls are replied, crashes included, it goes on until it waits
with nothing queued, and it cannot go on for ever without a new request.
-/
namespace LinkShot.Manager

open LinkShot.Action (Call Routine)

variable {m n : Manager} {ls : List Label}

variable [Regex.Engine]

/-- The worker is gone only when it was stopped. -/
theorem gone_iff (hr : Reached ls m) : m.gone = true ↔ .stop ∈ ls := by
  induction hr with
  | start => simp [Manager.initial]
  | step _ hs ih =>
    rw [List.mem_append, ← ih]
    cases moves_of_step hs <;> simp

/-- The worker goes on: a step of its own, or a reply to the call that it waits for. -/
inductive Driven (m n : Manager) : Prop where
  | work {phase : Phase} : Step m (.work phase) n → Driven m n
  | call {c : Call} {reply : c.Reply} : Step m (.call c reply) n → Driven m n

/-- However its calls are replied to, the worker goes on from everywhere but from where it waits. -/
theorem not_driven_iff :
    (∀ n, ¬ Driven m n) ↔ m.phase = .waiting ∧ (m.gone = true ∨ m.queue = []) := by
  constructor
  · intro hn
    cases hwork : m.work with
    | next n => exact absurd (.work (.work hwork)) (hn n)
    | call c resume =>
      obtain ⟨reply, hg⟩ := Routine.exists_granted m.token c
      exact absurd (.call (.call hwork (allowed_iff_granted.mpr hg))) (hn (resume reply))
    | rest =>
      obtain ⟨queue, phase, token, armed, status, gone⟩ := m
      cases phase with
      | waiting => cases gone <;> cases queue <;> simp_all [work]
      | performing job r => cases r <;> cases hwork
      | taken | armed | ended | disarmed => cases hwork
  · rintro ⟨hw, hrest⟩ n hd
    cases hd with
    | work hs =>
      cases moves_of_step hs with
      | take _ hg hq => simp_all
      | arm hp | begin hp | finish hp | disarm hp | publish hp => simp_all
    | call hs =>
      cases moves_of_step hs with
      | call hp => simp_all

/-- How the worker comes from one phase to the next while it is at a job. -/
inductive Phase.Next : Phase → Phase → Prop where
  | arm {job : Job} : Next (.taken job) (.armed job)
  | begin {job : Job} : Next (.armed job) (.performing job (action job))
  | reply {job : Job} {c : Call} {next : c.Reply → Routine Outcome} (reply : c.Reply) :
      Next (.performing job (.ask c next)) (.performing job (next reply))
  | finish {job : Job} {outcome : Outcome} :
      Next (.performing job (.done outcome)) (.ended job outcome)
  | disarm {job : Job} {outcome : Outcome} : Next (.ended job outcome) (.disarmed job outcome)
  | publish {job : Job} {outcome : Outcome} : Next (.disarmed job outcome) .waiting

/-- A phase from which the worker comes to its end, whatever its calls are replied. -/
abbrev Phase.Ends (phase : Phase) : Prop := Acc (fun after before => Phase.Next before after) phase

theorem waiting_ends : Phase.waiting.Ends := by
  constructor
  intro after hn
  cases hn

theorem disarmed_ends (job : Job) (outcome : Outcome) : (Phase.disarmed job outcome).Ends := by
  constructor
  intro after hn
  cases hn
  exact waiting_ends

theorem ended_ends (job : Job) (outcome : Outcome) : (Phase.ended job outcome).Ends := by
  constructor
  intro after hn
  cases hn
  exact disarmed_ends job outcome

/-- Actions are finite trees of calls: each reply leads to a smaller one. -/
theorem performing_ends (job : Job) (r : Routine Outcome) : (Phase.performing job r).Ends := by
  induction r with
  | done outcome =>
    constructor
    intro after hn
    cases hn
    exact ended_ends job outcome
  | ask c next ih =>
    constructor
    intro after hn
    cases hn with
    | reply reply => exact ih reply

theorem phase_ends (phase : Phase) : phase.Ends := by
  have armed (job : Job) : (Phase.armed job).Ends := by
    constructor
    intro after hn
    cases hn
    exact performing_ends job (action job)
  cases phase with
  | waiting => exact waiting_ends
  | taken job =>
    constructor
    intro after hn
    cases hn
    exact armed job
  | armed job => exact armed job
  | performing job r => exact performing_ends job r
  | ended job outcome => exact ended_ends job outcome
  | disarmed job outcome => exact disarmed_ends job outcome

/-- The worker takes a job off the queue, or goes on with the one that it is at. -/
theorem driven_cases (hd : Driven m n) :
    n.queue.length < m.queue.length ∨ n.queue = m.queue ∧ m.phase.Next n.phase := by
  cases hd with
  | work hs =>
    cases moves_of_step hs with
    | take _ _ hq => exact .inl (by simp [hq])
    | arm hp => exact .inr ⟨rfl, hp ▸ .arm⟩
    | begin hp => exact .inr ⟨rfl, hp ▸ .begin⟩
    | finish hp => exact .inr ⟨rfl, hp ▸ .finish⟩
    | disarm hp => exact .inr ⟨rfl, hp ▸ .disarm⟩
    | publish hp => exact .inr ⟨rfl, hp ▸ .publish⟩
  | call hs =>
    cases moves_of_step hs with
    | call hp => exact .inr ⟨rfl, hp ▸ .reply _⟩

/-- The worker cannot go on for ever without a new request. -/
theorem driven_wellFounded : WellFounded fun after before : Manager => Driven before after := by
  have hlex : WellFounded (Prod.Lex (fun a b : Nat => a < b)
      (fun after before => Phase.Next before after)) :=
    (Prod.lex Nat.lt_wfRel ⟨_, ⟨phase_ends⟩⟩).wf
  refine Subrelation.wf ?_ (InvImage.wf (fun m : Manager => (m.queue.length, m.phase)) hlex)
  intro after before hd
  rcases driven_cases hd with hq | ⟨hq, hp⟩
  · exact .left _ _ hq
  · simp only [InvImage, hq]
    exact .right _ hp

end LinkShot.Manager

import LinkShot.Proofs.Manager.Run

/-!
The manager performs what was requested in the order of the requests, one action after another: the
worker's part of every history is a list of whole actions and perhaps the beginning of one more.
-/
namespace LinkShot.Manager

open LinkShot.Action (Exchange Routine)

variable {m n : Manager} {l : Label} {ls : List Label} {job : Job} {outcome : Outcome}

/-- What the worker's actions show of themselves. -/
inductive Mark where
  | start (job : Job)
  | exchange (e : Exchange)
  | finish (outcome : Outcome)

def Mark.started? : Mark → Option Job
  | .start job => some job
  | _ => none

def Mark.exchange? : Mark → Option Exchange
  | .exchange e => some e
  | _ => none

def Label.mark? : Label → Option Mark
  | .work (.armed job) => some (.start job)
  | .work (.performing _ (.done outcome)) => some (.finish outcome)
  | .call c reply => some (.exchange ⟨c, reply⟩)
  | _ => none

def Label.accepted? : Label → Option Job
  | .request job => some job
  | _ => none

def marks (ls : List Label) : List Mark := ls.filterMap Label.mark?

/-- The jobs of the requests that were accepted, in order. -/
def accepted (ls : List Label) : List Job := ls.filterMap Label.accepted?

def started (ls : List Label) : List Job := (marks ls).filterMap Mark.started?

def exchanges (ls : List Label) : List Exchange := (marks ls).filterMap Mark.exchange?

theorem marks_snoc (ls : List Label) (l : Label) :
    marks (ls ++ [l]) = marks ls ++ l.mark?.toList := by
  cases hl : l.mark? <;> simp [marks, hl]

theorem accepted_snoc (ls : List Label) (l : Label) :
    accepted (ls ++ [l]) = accepted ls ++ l.accepted?.toList := by
  cases hl : l.accepted? <;> simp [accepted, hl]

variable [Regex.Engine]

/-- The action that a job asks for. -/
def action (job : Job) : Routine Outcome := Action.perform job.provider job.trigger

/-- One whole action. -/
structure Performance where
  job : Job
  exchanges : List Exchange
  outcome : Outcome

namespace Performance

def marks (p : Performance) : List Mark :=
  .start p.job :: p.exchanges.map .exchange ++ [.finish p.outcome]

/-- It is a run of the action that its job asks for. -/
def Faithful (p : Performance) : Prop := (action p.job).Returns p.exchanges p.outcome

end Performance

/-- The job that has been taken and not been done, with what it has shown of itself so far. -/
inductive Present : Phase → List Job → List Mark → Prop where
  | waiting : Present .waiting [] []
  | taken (job : Job) : Present (.taken job) [job] []
  | armed (job : Job) : Present (.armed job) [job] []
  | performing {job : Job} {h : List Exchange} {r : Routine Outcome} : (action job).Leads h r →
      Present (.performing job r) [job] (.start job :: h.map .exchange)
  | ended (job : Job) (outcome : Outcome) : Present (.ended job outcome) [] []
  | disarmed (job : Job) (outcome : Outcome) : Present (.disarmed job outcome) [] []

/-- The invariant: whole actions, the present job and the queue are what was accepted. -/
structure History (ls : List Label) (m : Manager) (past : List Performance) (jobs : List Job)
    (now : List Mark) : Prop where
  faithful : ∀ p ∈ past, p.Faithful
  present : Present m.phase jobs now
  marks_eq : marks ls = past.flatMap Performance.marks ++ now
  accepted_eq : accepted ls = past.map Performance.job ++ jobs ++ m.queue

theorem history_start : History [] .initial [] [] [] :=
  ⟨by simp, .waiting, rfl, rfl⟩

/-- A step that ends no action moves a job on, or adds to what it has shown. -/
theorem history_on {past : List Performance} {jobs jobs' : List Job} {now now' : List Mark}
    (hh : History ls m past jobs now) (hp : Present n.phase jobs' now')
    (hm : now ++ l.mark?.toList = now')
    (ha : jobs ++ m.queue ++ l.accepted?.toList = jobs' ++ n.queue) :
    History (ls ++ [l]) n past jobs' now' where
  faithful := hh.faithful
  present := hp
  marks_eq := by rw [marks_snoc, hh.marks_eq, List.append_assoc, hm]
  accepted_eq := by
    rw [accepted_snoc, hh.accepted_eq, List.append_assoc, List.append_assoc, List.append_assoc,
      ← ha, List.append_assoc]

theorem history_finish {past : List Performance} {h : List Exchange}
    (hh : History ls m past [job] (.start job :: h.map .exchange))
    (hr : (action job).Returns h outcome) :
    History (ls ++ [.work (.performing job (.done outcome))])
      { m with phase := .ended job outcome } (past ++ [⟨job, h, outcome⟩]) [] [] where
  faithful := by
    intro p hin
    rcases List.mem_append.mp hin with hin | hin
    · exact hh.faithful p hin
    · rw [List.mem_singleton.mp hin]
      exact hr
  present := .ended job outcome
  marks_eq := by simp [marks_snoc, Label.mark?, hh.marks_eq, Performance.marks]
  accepted_eq := by simp [accepted_snoc, Label.accepted?, hh.accepted_eq]

theorem history_step {past : List Performance} {jobs : List Job} {now : List Mark}
    (hh : History ls m past jobs now) (hs : Step m l n) :
    ∃ past jobs now, History (ls ++ [l]) n past jobs now := by
  have hp := hh.present
  cases moves_of_step hs with
  | take hw hg hq =>
    rw [hw] at hp
    cases hp
    exact ⟨_, _, _, history_on hh (.taken _) rfl (by simp [hq, Label.accepted?])⟩
  | arm hw =>
    rw [hw] at hp
    cases hp
    exact ⟨_, _, _, history_on hh (.armed _) rfl (List.append_nil _)⟩
  | begin hw =>
    rw [hw] at hp
    cases hp
    exact ⟨_, _, _, history_on hh (.performing (.refl _)) rfl (List.append_nil _)⟩
  | finish hw =>
    rw [hw] at hp
    cases hp with
    | performing hr => exact ⟨_, _, _, history_finish hh hr⟩
  | disarm hw =>
    rw [hw] at hp
    cases hp
    exact ⟨_, _, _, history_on hh (.disarmed _ _) rfl (List.append_nil _)⟩
  | publish hw =>
    rw [hw] at hp
    cases hp
    exact ⟨_, _, _, history_on hh .waiting rfl (List.append_nil _)⟩
  | call hw hreply =>
    rw [hw] at hp
    cases hp with
    | performing hr =>
      exact ⟨_, _, _, history_on hh (.performing (Routine.leads_snoc hr _))
        (by simp [Label.mark?]) (List.append_nil _)⟩
  | request hg => exact ⟨_, _, _, history_on hh hp (List.append_nil _) (List.append_assoc _ _ _)⟩
  | refuse | reach | miss | stop =>
    exact ⟨_, _, _, history_on hh hp (List.append_nil _) (List.append_nil _)⟩

/-- Every run has a history. -/
theorem history_reached (hr : Reached ls m) : ∃ past jobs now, History ls m past jobs now := by
  induction hr with
  | start => exact ⟨_, _, _, history_start⟩
  | step _ hs ih =>
    obtain ⟨past, jobs, now, hh⟩ := ih
    exact history_step hh hs

end LinkShot.Manager

import LinkShot.Proofs.Manager.Cancelling
import LinkShot.Proofs.Manager.Driving

/-!
What the published status tells of the worker: each action is published as running when it begins
and with its outcome when it has ended, and nothing else is ever published.
-/
namespace LinkShot.Manager

open LinkShot.Action (Exchange Routine)

variable {m n : Manager} {l : Label} {ls : List Label} {job : Job} {outcome : Outcome}
  {past : List Performance} {jobs : List Job} {now : List Mark}

/-- The status that a job is done under. -/
def Status.ofJob (job : Job) : Status := .running job.provider.name

/-- The status that a step publishes. -/
def Label.published? : Label → Option Status
  | .work (.armed job) => some (.ofJob job)
  | .work (.disarmed _ outcome) => some (.ofOutcome outcome)
  | _ => none

/-- The statuses that have been published, in order. -/
def published (ls : List Label) : List Status := ls.filterMap Label.published?

/-- The two statuses that an action is published with. -/
def Performance.statuses (p : Performance) : List Status := [.ofJob p.job, .ofOutcome p.outcome]

/-- What the beginning and the end of an action are published as. -/
def Mark.status? : Mark → Option Status
  | .start job => some (.ofJob job)
  | .finish outcome => some (.ofOutcome outcome)
  | .exchange _ => none

/-- The status of an action that has ended, until it is published. -/
def Phase.due : Phase → List Status
  | .ended _ outcome | .disarmed _ outcome => [.ofOutcome outcome]
  | _ => []

/-- The job that is being performed. -/
def Phase.inProgress : Phase → List Job
  | .performing job _ => [job]
  | _ => []

theorem published_snoc (ls : List Label) (l : Label) :
    published (ls ++ [l]) = published ls ++ l.published?.toList := by
  cases hl : l.published? <;> simp [published, hl]

theorem ofOutcome_eq_finished_iff {result : String} :
    Status.ofOutcome outcome = .finished result ↔ outcome = .ok result := by
  cases outcome with
  | ok r => simp [Status.ofOutcome]
  | error e =>
    simp only [Status.ofOutcome]
    split <;> simp

theorem ofOutcome_eq_cancelled_iff :
    Status.ofOutcome outcome = .cancelled ↔ outcome = .error (.dispatch .cancelled) := by
  constructor
  · exact eq_cancelled_of_status
  · rintro rfl
    rfl

theorem ofOutcome_eq_failed_iff {message : String} :
    Status.ofOutcome outcome = .failed message ↔
      ∃ e, outcome = .error e ∧ e ≠ .dispatch .cancelled ∧ e.message = message := by
  cases outcome with
  | ok r => simp [Status.ofOutcome]
  | error e =>
    by_cases he : e = .dispatch .cancelled
    · subst he
      simp [Status.ofOutcome, Action.Error.isCancelled]
    · have hstatus : Status.ofOutcome (.error e) = .failed e.message := by
        have hn : e.isCancelled = false := by
          cases hc : e.isCancelled with
          | false => rfl
          | true =>
            refine absurd ?_ he
            have hs : Status.ofOutcome (.error e) = .cancelled := by simp [Status.ofOutcome, hc]
            exact Except.error.inj (eq_cancelled_of_status hs)
        simp [Status.ofOutcome, hn]
      simp [hstatus, he]

theorem ofOutcome_ne_idle : Status.ofOutcome outcome ≠ .idle := by
  cases outcome with
  | ok r => simp [Status.ofOutcome]
  | error e =>
    simp only [Status.ofOutcome]
    split <;> simp

theorem ne_idle_of_published {status : Status} (hin : status ∈ published ls) : status ≠ .idle := by
  obtain ⟨l, _, hl⟩ := List.mem_filterMap.mp hin
  unfold Label.published? at hl
  split at hl
  · cases hl
    simp [Status.ofJob]
  · cases hl
    exact ofOutcome_ne_idle
  · cases hl

section

variable [Regex.Engine]

/-- Only what is published changes the status. -/
theorem status_step (hs : Step m l n) : n.status = l.published?.getD m.status := by
  cases moves_of_step hs <;> rfl

theorem status_eq_last (hr : Reached ls m) : m.status = (published ls).getLast?.getD .idle := by
  induction hr with
  | start => rfl
  | @step ls l m n _ hs ih =>
    rw [published_snoc, status_step hs]
    cases hl : l.published? with
    | none => simpa using ih
    | some status => simp

/-- What has been published and what is due tell the beginnings and the ends of all actions. -/
theorem published_due (hr : Reached ls m) :
    published ls ++ m.phase.due = (marks ls).filterMap Mark.status? := by
  induction hr with
  | start => rfl
  | step _ hs ih =>
    rw [published_snoc, marks_snoc, List.filterMap_append, ← ih]
    cases moves_of_step hs with
    | take hw | arm hw | begin hw | finish hw | disarm hw | publish hw | call hw =>
      simp [hw, Label.published?, Label.mark?, Mark.status?, Phase.due]
    | request | refuse | reach | miss | stop => simp [Label.published?, Label.mark?]

theorem statuses_of_history (hh : History ls m past jobs now) :
    (marks ls).filterMap Mark.status? =
      past.flatMap Performance.statuses ++ m.phase.inProgress.map Status.ofJob := by
  have hone (p : Performance) : p.marks.filterMap Mark.status? = p.statuses := by
    simp [Performance.marks, Performance.statuses, Mark.status?, List.filterMap_map,
      Function.comp_def]
  have hnow : now.filterMap Mark.status? = m.phase.inProgress.map Status.ofJob := by
    have hp := hh.present
    generalize m.phase = phase at hp
    cases hp with
    | performing =>
      simp [Phase.inProgress, Mark.status?, List.filterMap_map, Function.comp_def]
    | _ => rfl
  rw [hh.marks_eq, List.filterMap_append, List.filterMap_flatMap, hnow]
  simp [hone]

theorem started_eq (hh : History ls m past jobs now) :
    started ls = past.map Performance.job ++ m.phase.inProgress := by
  have hnow : now.filterMap Mark.started? = m.phase.inProgress := by
    have hp := hh.present
    generalize m.phase = phase at hp
    cases hp with
    | performing =>
      simp [Phase.inProgress, Mark.started?, List.filterMap_map, Function.comp_def]
    | _ => rfl
  rw [started_of_history hh, hnow]

/-- The first status that is published says that something is running. -/
theorem first_published {status : Status} {later : List Status} (hr : Reached ls m)
    (hp : published ls = status :: later) : ∃ name, status = .running name := by
  obtain ⟨past, jobs, now, hh⟩ := history_reached hr
  have heq := published_due hr
  rw [statuses_of_history hh, hp, List.cons_append] at heq
  cases past with
  | cons p past =>
    obtain ⟨rfl, _⟩ := List.cons.inj heq
    exact ⟨_, rfl⟩
  | nil =>
    cases hjobs : m.phase.inProgress with
    | nil => simp [hjobs] at heq
    | cons job rest =>
      rw [hjobs] at heq
      obtain ⟨rfl, _⟩ := List.cons.inj heq
      exact ⟨_, rfl⟩

theorem status_idle_iff (hr : Reached ls m) :
    m.status = .idle ↔ ∀ name, .running name ∉ published ls := by
  rw [status_eq_last hr]
  constructor
  · intro hidle name hin
    cases hlast : (published ls).getLast? with
    | none =>
      rw [List.getLast?_eq_none_iff.mp hlast] at hin
      cases hin
    | some status =>
      rw [hlast] at hidle
      exact ne_idle_of_published (List.mem_of_getLast? hlast) hidle
  · intro hn
    cases hp : published ls with
    | nil => rfl
    | cons status later =>
      obtain ⟨name, rfl⟩ := first_published hr hp
      exact absurd (hp ▸ List.mem_cons_self) (hn name)

/-- Each action that is begun has been given a token before. -/
theorem armings_of_started (hr : Reached ls m) :
    armings ls = (started ls).length + (match m.phase with | .armed _ => 1 | _ => 0) := by
  induction hr with
  | start => rfl
  | step _ hs ih =>
    rw [armings_snoc, started, marks_snoc, List.filterMap_append, List.length_append, ← started]
    cases moves_of_step hs with
    | take hw | arm hw | begin hw | finish hw | disarm hw | publish hw | call hw =>
      rw [hw] at ih
      simp_all [Label.isArming, Label.mark?, Mark.started?]
    | request | refuse | reach | miss | stop =>
      simpa [Label.isArming, Label.mark?] using ih

/-- While an action is performed, the slot holds the token that was made for it. -/
theorem slot_of_performing {r : Routine Outcome} (hr : Reached ls m)
    (hh : History ls m past jobs now) (hp : m.phase = .performing job r) :
    Holds ls past.length ∧ (custody ls).slot = some past.length := by
  have hholds := holds_of_phase hr (by rw [hp]; rfl)
  have hcount := armings_of_started hr
  rw [started_eq hh, hp] at hcount
  have hindex : disarmings ls = past.length := by
    have hone := hholds.1
    simp [Phase.inProgress] at hcount
    omega
  rw [hindex] at hholds
  exact ⟨hholds, ((kept_reached hr).slot _).mpr hholds⟩

theorem slot_of_waiting (hr : Reached ls m) (hw : m.phase = .waiting) :
    (custody ls).slot = none := by
  have ha : m.armed = false := by rw [armed_eq hr, hw]; rfl
  rw [Option.eq_none_iff_forall_ne_some]
  intro i hi
  exact not_holds hr ha i (((kept_reached hr).slot i).mp hi)

theorem status_of_performing {r : Routine Outcome} (hr : Reached ls m)
    (hp : m.phase = .performing job r) : m.status = .ofJob job := by
  obtain ⟨past, jobs, now, hh⟩ := history_reached hr
  have heq := published_due hr
  rw [statuses_of_history hh, hp] at heq
  rw [status_eq_last hr]
  simp only [Phase.due, List.append_nil] at heq
  simp [heq, Phase.inProgress]

theorem status_of_waiting (hr : Reached ls m) (hh : History ls m past jobs now)
    (hw : m.phase = .waiting) :
    m.status = (past.getLast?.map fun p => Status.ofOutcome p.outcome).getD .idle := by
  have heq := published_due hr
  rw [statuses_of_history hh, hw] at heq
  rw [status_eq_last hr]
  simp only [Phase.due, Phase.inProgress, List.append_nil, List.map_nil] at heq
  rw [heq]
  rcases List.eq_nil_or_concat past with rfl | ⟨past, p, rfl⟩
  · rfl
  · simp [Performance.statuses]

/-- Clients, worker and collaborators may take their steps in any order. `past` are the actions that
have ended, and `now` is what the one in progress has shown. They are published in turn, each first
as running and then with its outcome; an outcome that is not yet published is due. The status is the
last that was published, and `idle` exactly until one says that something is running; an outcome is
published as what it is. While an action is performed, the slot holds the token that was made for
it, which its calls see, and the status says that it is running; where the worker waits for a job,
the slot is empty and the status is the last outcome. The worker is gone only when it was stopped:
whatever its calls are replied, also crashes, it comes to an end only where it waits for a job and
there is none. -/
theorem status_tells_progress (hr : Reached ls m) :
    (∃ (past : List Performance) (now : List Mark), (∀ p ∈ past, p.Faithful) ∧ Beginning m now ∧
      marks ls = past.flatMap Performance.marks ++ now ∧
      started ls = past.map Performance.job ++ m.phase.inProgress ∧
      published ls ++ m.phase.due =
        past.flatMap Performance.statuses ++ m.phase.inProgress.map Status.ofJob ∧
      (∀ job r, m.phase = .performing job r →
        m.status = .running job.provider.name ∧
        (custody ls).slot = some past.length ∧ (started ls)[past.length]? = some job ∧
        ∀ c reply n, Step m (.call c reply) n →
          Exchange.Granted (flag ls past.length) ⟨c, reply⟩) ∧
      (m.phase = .waiting → (custody ls).slot = none ∧
        m.status = (past.getLast?.map fun p => Status.ofOutcome p.outcome).getD .idle)) ∧
    m.status = (published ls).getLast?.getD .idle ∧
    (m.status = .idle ↔ ∀ name, .running name ∉ published ls) ∧
    (∀ (outcome : Outcome) (text : String),
      (Status.ofOutcome outcome = .finished text ↔ outcome = .ok text) ∧
      (Status.ofOutcome outcome = .cancelled ↔ outcome = .error (.dispatch .cancelled)) ∧
      (Status.ofOutcome outcome = .failed text ↔
        ∃ e, outcome = .error e ∧ e ≠ .dispatch .cancelled ∧ e.message = text)) ∧
    (m.gone = true ↔ .stop ∈ ls) ∧
    ((∀ n, ¬ Driven m n) ↔ m.phase = .waiting ∧ (m.gone = true ∨ m.queue = [])) ∧
    Acc (fun after before => Driven before after) m := by
  obtain ⟨past, jobs, now, hh⟩ := history_reached hr
  have hstarted := started_eq hh
  have hpublished := (published_due hr).trans (statuses_of_history hh)
  refine ⟨⟨past, now, hh.faithful, beginning_of_history hh, hh.marks_eq, hstarted, hpublished, ?_,
      ?_⟩,
    status_eq_last hr, status_idle_iff hr,
    fun outcome text => ⟨ofOutcome_eq_finished_iff, ofOutcome_eq_cancelled_iff,
      ofOutcome_eq_failed_iff⟩,
    gone_iff hr, not_driven_iff, driven_wellFounded.apply m⟩
  · intro job r hp
    obtain ⟨hholds, hslot⟩ := slot_of_performing hr hh hp
    refine ⟨status_of_performing hr hp, hslot, ?_, ?_⟩
    · simp [hstarted, hp, Phase.inProgress]
    · intro c reply n hs
      cases moves_of_step hs with
      | call _ ha =>
        rw [(kept_reached hr).token _ hholds]
        exact allowed_iff_granted.mp ha
  · intro hw
    exact ⟨slot_of_waiting hr hw, status_of_waiting hr hh hw⟩

end

/-- The dialog of the first of two actions crashes, and the second goes on under its own token. -/
theorem status_tells_progress_after_crash :
    ∃ ls m job r, Reached ls m ∧
      m.phase = .performing job r ∧ (custody ls).slot = some 1 ∧ m.status = .running "Paste" ∧
      published ls = [.running "Paste", .failed "Action task failed: Placeholder task failed",
        .running "Paste"] := by
  have run : ∃ ls m job r, Reached ls m ∧
      m.phase = .performing job r ∧ job = ⟨pasteTool, .tool⟩ ∧ (started ls).length = 2 ∧
      published ls = [.running "Paste", .failed "Action task failed: Placeholder task failed",
        .running "Paste"] := by
    have first := Reached.step .start
      (show Step .initial (.request ⟨pasteTool, .tool⟩) _ from .request rfl)
    have second := first.step (show Step _ (.request ⟨pasteTool, .tool⟩) _ from .request rfl)
    have asked := (((second.step (.work rfl)).step (.work rfl)).step (.work rfl)).step
      (show Step _ (.call .clipboard (.text none)) _ from .call rfl trivial)
    have crashed := asked.step (show Step _ (.call (.prompt _) .crash) _ from .call rfl trivial)
    have published := ((crashed.step (.work rfl)).step (.work rfl)).step (.work rfl)
    exact ⟨_, _, _, _, ((published.step (.work rfl)).step (.work rfl)).step (.work rfl),
      rfl, rfl, rfl, rfl⟩
  obtain ⟨ls, m, job, r, hr, hp, rfl, hcount, hpublished⟩ := run
  obtain ⟨past, _, _, _, _, hstarted, _, hperforming, _⟩ := (status_tells_progress hr).1
  obtain ⟨hstatus, hslot, _⟩ := hperforming _ _ hp
  have hone : past.length = 1 := by
    rw [hstarted, hp] at hcount
    simpa [Phase.inProgress] using hcount
  exact ⟨ls, m, _, r, hr, hp, hone ▸ hslot, hstatus, hpublished⟩

end LinkShot.Manager

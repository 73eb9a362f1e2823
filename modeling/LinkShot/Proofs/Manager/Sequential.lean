import LinkShot.Proofs.Action.Collaborators
import LinkShot.Proofs.Manager.Order
import LinkShot.Regex.Search

/-!
Without cancelling, the manager does to its collaborators what a loop would do that performs the
accepted jobs one after another.
-/
namespace LinkShot.Manager

open LinkShot.Action (Collaborators Exchange Routine)

variable {σ : Type} {k : Collaborators σ} {s t u : σ} {m n : Manager} {l : Label} {ls : List Label}
  {past : List Performance} {jobs : List Job} {now : List Mark}

theorem exchanges_snoc (ls : List Label) (l : Label) :
    exchanges (ls ++ [l]) = exchanges ls ++ (l.mark?.bind Mark.exchange?).toList := by
  rw [exchanges, marks_snoc, List.filterMap_append, ← exchanges]
  cases hl : l.mark? with
  | none => rfl
  | some mark => cases he : mark.exchange? <;> simp [he]

section

variable [Regex.Engine]

/-- One action, from a state of the collaborators. -/
def performOne (k : Collaborators σ) (job : Job) (s : σ) : Performance × σ :=
  let (outcome, (t, exchanges)) := ((action job).runWith k.record).run (s, [])
  (⟨job, exchanges, outcome⟩, t)

/-- The actions of jobs one after another, from a state of the collaborators. -/
def inTurn (k : Collaborators σ) : List Job → σ → List Performance × σ
  | [], s => ([], s)
  | job :: rest, s =>
    let (p, t) := performOne k job s
    let (later, u) := inTurn k rest t
    (p :: later, u)

theorem inTurn_cons (job : Job) (rest : List Job) :
    inTurn k (job :: rest) s =
      ((performOne k job s).1 :: (inTurn k rest (performOne k job s).2).1,
        (inTurn k rest (performOne k job s).2).2) := rfl

theorem inTurn_append (first rest : List Job) :
    inTurn k (first ++ rest) s =
      ((inTurn k first s).1 ++ (inTurn k rest (inTurn k first s).2).1,
        (inTurn k rest (inTurn k first s).2).2) := by
  induction first generalizing s with
  | nil => rfl
  | cons job first ih => simp [inTurn_cons, ih]

/-- The exchanges of one action that is carried out calmly are what the collaborators make of it. -/
theorem performOne_eq {p : Performance} (hf : p.Faithful) (hp : k.Plays s p.exchanges t)
    (hc : ∀ e ∈ p.exchanges, e.Calm) : performOne k p.job s = (p, t) := by
  have hrun := Collaborators.runWith_of_returns hf hp hc
  unfold performOne
  rw [hrun]

theorem inTurn_past (hf : ∀ p ∈ past, p.Faithful)
    (hp : k.Plays s (past.flatMap Performance.exchanges) t)
    (hc : ∀ e ∈ past.flatMap Performance.exchanges, e.Calm) :
    inTurn k (past.map Performance.job) s = (past, t) := by
  induction past generalizing s with
  | nil =>
    cases hp
    rfl
  | cons p past ih =>
    rw [List.flatMap_cons] at hp hc
    obtain ⟨u, hfirst, hrest⟩ := Collaborators.plays_append.mp hp
    have hone := performOne_eq (hf p List.mem_cons_self) hfirst
      (fun e he => hc e (List.mem_append_left _ he))
    have hlater := ih (fun q hq => hf q (List.mem_cons_of_mem _ hq)) hrest
      (fun e he => hc e (List.mem_append_right _ he))
    rw [List.map_cons, inTurn_cons, hone, hlater]

/-- What the present action has shown is the beginning of what the jobs left will show. -/
theorem now_begins {r : Routine Outcome} {h : List Exchange} {job : Job}
    (hr : (action job).Leads h r) (hp : k.Plays s h t) (hc : ∀ e ∈ h, e.Calm) (rest : List Job) :
    Mark.start job :: h.map .exchange <+:
      (inTurn k (job :: rest) s).1.flatMap Performance.marks := by
  have hgrow := Collaborators.record_grows (k := k) r t ([] ++ h)
  rw [← Collaborators.runWith_of_leads hr hp hc []] at hgrow
  have hx : h <+: (performOne k job s).1.exchanges := hgrow
  rw [inTurn_cons, List.flatMap_cons]
  refine List.IsPrefix.trans ?_ (List.prefix_append _ _)
  exact List.cons_prefix_cons.mpr ⟨rfl, (hx.map _).trans (List.prefix_append _ _)⟩

/-- As long as no token has been reached, the token is not set and nobody has seen it set. -/
theorem calm_reached (hr : Reached ls m) (hn : .cancel true ∉ ls) :
    m.token = false ∧ ∀ e ∈ exchanges ls, e.Calm := by
  induction hr with
  | start => exact ⟨rfl, by simp [exchanges, marks]⟩
  | @step ls l m n _ hs ih =>
    rw [List.mem_append, not_or] at hn
    obtain ⟨ht, hc⟩ := ih hn.1
    rw [exchanges_snoc]
    cases moves_of_step hs with
    | @call job c next reply hw ha =>
      refine ⟨ht, ?_⟩
      intro e he
      rcases List.mem_append.mp he with he | he
      · exact hc e he
      · have heq : e = ⟨c, reply⟩ := by simpa [Label.mark?, Mark.exchange?] using he
        subst heq
        cases c with
        | poll => exact ha.trans ht
        | send request =>
          cases reply with
          | answered response => trivial
          | cancelled => simp [Allowed, ht] at ha
        | _ => trivial
    | reach => simp at hn
    | arm => exact ⟨rfl, by simpa [Label.mark?] using hc⟩
    | take | begin | finish | disarm | publish | request | refuse | miss | stop =>
      exact ⟨ht, by simpa [Label.mark?, Mark.exchange?] using hc⟩

theorem exchanges_of_history (hh : History ls m past jobs now) :
    exchanges ls = past.flatMap Performance.exchanges ++ now.filterMap Mark.exchange? := by
  have hone (p : Performance) : p.marks.filterMap Mark.exchange? = p.exchanges := by
    simp [Performance.marks, List.filterMap_cons, Mark.exchange?, List.filterMap_map,
      Function.comp_def]
  rw [exchanges, hh.marks_eq, List.filterMap_append, List.filterMap_flatMap]
  simp [hone]

theorem started_of_history (hh : History ls m past jobs now) :
    started ls = past.map Performance.job ++ now.filterMap Mark.started? := by
  have hone (p : Performance) : p.marks.filterMap Mark.started? = [p.job] := by
    simp [Performance.marks, List.filterMap_cons, Mark.started?, List.filterMap_map,
      Function.comp_def]
  rw [started, hh.marks_eq, List.filterMap_append, List.filterMap_flatMap]
  simp [hone, List.map_eq_flatMap]

/-- What an unfinished action has shown: nothing, or its start and the exchanges since. -/
def Beginning (m : Manager) (now : List Mark) : Prop :=
  now = [] ∨ ∃ job h r, now = .start job :: h.map .exchange ∧ (action job).Leads h r ∧
    m.phase = .performing job r

theorem beginning_of_history (hh : History ls m past jobs now) : Beginning m now := by
  have hp := hh.present
  generalize hphase : m.phase = phase at hp
  cases hp with
  | performing hr => exact .inr ⟨_, _, _, rfl, hr, hphase⟩
  | _ => exact .inl rfl

theorem started_begins (hh : History ls m past jobs now) : started ls <+: accepted ls := by
  rw [started_of_history hh, hh.accepted_eq, List.append_assoc]
  refine (List.prefix_append_right_inj _).mpr ?_
  have hp := hh.present
  generalize m.phase = phase at hp
  cases hp with
  | @performing job h =>
    refine ⟨m.queue, ?_⟩
    simp [Mark.started?, List.filterMap_map, Function.comp_def]
  | _ => exact List.nil_prefix

theorem idle_of_history (hh : History ls m past jobs now) (hw : m.phase = .waiting)
    (hq : m.queue = []) : now = [] ∧ past.map Performance.job = accepted ls := by
  have hp := hh.present
  rw [hw] at hp
  cases hp
  simpa [hq] using hh.accepted_eq.symm

/-- Along a calm run everything is as the collaborators make it of the accepted jobs in turn. -/
theorem marks_in_turn (hh : History ls m past jobs now) (hc : ∀ e ∈ exchanges ls, e.Calm)
    (hp : k.Plays s (exchanges ls) t) :
    marks ls <+: (inTurn k (accepted ls) s).1.flatMap Performance.marks ∧
      (m.phase = .waiting → m.queue = [] →
        marks ls = (inTurn k (accepted ls) s).1.flatMap Performance.marks ∧
        t = (inTurn k (accepted ls) s).2) := by
  rw [exchanges_of_history hh] at hc hp
  obtain ⟨u, hpast, hnow⟩ := Collaborators.plays_append.mp hp
  have hturn := inTurn_past hh.faithful hpast (fun e he => hc e (List.mem_append_left _ he))
  constructor
  · rw [hh.marks_eq, hh.accepted_eq, List.append_assoc, inTurn_append, hturn, List.flatMap_append]
    refine (List.prefix_append_right_inj _).mpr ?_
    have hpresent := hh.present
    generalize m.phase = phase at hpresent
    cases hpresent with
    | @performing job h r hr =>
      have hx : (Mark.start job :: h.map Mark.exchange).filterMap Mark.exchange? = h := by
        simp [List.filterMap_cons, Mark.exchange?, List.filterMap_map, Function.comp_def]
      rw [hx] at hc hnow
      exact now_begins hr hnow (fun e he => hc e (List.mem_append_right _ he)) m.queue
    | _ => exact List.nil_prefix
  · intro hw hq
    obtain ⟨rfl, hjobs⟩ := idle_of_history hh hw hq
    cases hnow
    rw [← hjobs, hturn, hh.marks_eq]
    simp

/-- Every history of clients and worker, cut off anywhere: what was started is a beginning of what
was accepted; whole actions stand one behind another, followed at most by the beginning of one more;
a worker that waits with nothing queued has performed every accepted job once; with no token
reached, the actions are those of a loop over the accepted jobs; and without a worker nothing is
accepted. -/
theorem performs_in_order (hr : Reached ls m) :
    started ls <+: accepted ls ∧
    (∃ (past : List Performance) (now : List Mark), (∀ p ∈ past, p.Faithful) ∧ Beginning m now ∧
      marks ls = past.flatMap Performance.marks ++ now ∧
      (m.phase = .waiting → m.queue = [] →
        now = [] ∧ past.map Performance.job = accepted ls)) ∧
    (∀ (σ : Type) (k : Collaborators σ) (s t : σ), .cancel true ∉ ls → k.Plays s (exchanges ls) t →
      marks ls <+: (inTurn k (accepted ls) s).1.flatMap Performance.marks ∧
      (m.phase = .waiting → m.queue = [] →
        marks ls = (inTurn k (accepted ls) s).1.flatMap Performance.marks ∧
        t = (inTurn k (accepted ls) s).2)) ∧
    (m.gone = true → ∀ job, m.request job = .error .managerStopped) ∧
    (∀ job e n, Step m (.refuse job e) n → m.gone = true ∧ e = .managerStopped ∧ n = m) := by
  obtain ⟨past, jobs, now, hh⟩ := history_reached hr
  refine ⟨started_begins hh, ⟨past, now, hh.faithful, beginning_of_history hh, hh.marks_eq,
    idle_of_history hh⟩, ?_, ?_, ?_⟩
  · intro σ k s t hn hp
    exact marks_in_turn hh (calm_reached hr hn).2 hp
  · intro hg job
    simp [request, hg]
  · intro job e n hs
    cases moves_of_step hs with
    | refuse hg => exact ⟨hg, rfl, rfl⟩

end

/-- A tool that asks for a text. -/
def pasteTool : Provider where
  name := "Paste"
  method := .get
  address := "https://paste.test"
  fileField := none
  dataOnly := false
  multiline := true
  arguments := ⟨[("text", "$input$")]⟩
  headers := .empty
  patterns := []
  template := none
  source := none

/-- A job whose question crashes after its token was cancelled, and one that was requested while the
first was running and cannot be run from a screenshot: both are performed, in order. -/
theorem performs_in_order_after_crash :
    ∃ ls m, Reached ls m ∧ m.phase = .waiting ∧ m.queue = [] ∧
      ∃ past : List Performance, past.map Performance.job = accepted ls ∧
        accepted ls = [⟨pasteTool, .tool⟩, ⟨pasteTool, .capture .full⟩] := by
  have run : ∃ ls m, Reached ls m ∧ m.phase = .waiting ∧ m.queue = [] ∧
      accepted ls = [⟨pasteTool, .tool⟩, ⟨pasteTool, .capture .full⟩] := by
    have queued := Reached.step .start
      (show Step .initial (.request ⟨pasteTool, .tool⟩) _ from .request rfl)
    have armed := (queued.step (.work rfl)).step (.work rfl)
    have second := armed.step
      (show Step _ (.request ⟨pasteTool, .capture .full⟩) _ from .request rfl)
    have asked := (second.step (.work rfl)).step
      (show Step _ (.call .clipboard (.text none)) _ from .call rfl trivial)
    have crashed := (asked.step .cancel).step
      (show Step _ (.call (.prompt _) .crash) _ from .call rfl trivial)
    have published := ((crashed.step (.work rfl)).step (.work rfl)).step (.work rfl)
    have begun := ((published.step (.work rfl)).step (.work rfl)).step (.work rfl)
    exact ⟨_, _, ((begun.step (.work rfl)).step (.work rfl)).step (.work rfl), rfl, rfl, rfl⟩
  obtain ⟨ls, m, hr, hw, hq, ha⟩ := run
  obtain ⟨past, now, _, _, _, hidle⟩ := (performs_in_order hr).2.1
  exact ⟨ls, m, hr, hw, hq, past, (hidle hw hq).2, ha⟩

end LinkShot.Manager

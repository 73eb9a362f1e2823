import LinkShot.Proofs.Manager.Custody

/-!
Cancelling hits the action that it is aimed at. Every action of the manager is a watched run of its
own token, and a cancel call changes the token of the action that is being done or nothing at all.
-/
namespace LinkShot.Manager

open LinkShot.Action (Exchange Incident Routine)

variable {m n : Manager} {l : Label} {ls before since : List Label} {job : Job} {i : Nat}
  {r s : Routine Outcome} {outcome : Outcome}

/-- What a step is to the action that holds its token out. -/
def Label.incident? : Label → Option Incident
  | .call c reply => some (.answer ⟨c, reply⟩)
  | .cancel true => some .cancel
  | _ => none

def incidents (ls : List Label) : List Incident := ls.filterMap Label.incident?

theorem incidents_snoc (ls : List Label) (l : Label) :
    incidents (ls ++ [l]) = incidents ls ++ l.incident?.toList := by
  cases hl : l.incident? <;> simp [incidents, hl]

/-- Since the token was put into reach means: while it was held out. -/
theorem during_of_attended (hh : Holds (before ++ .work (.taken job) :: since) i)
    (hfree : ∀ l ∈ since, l.isArming = false ∧ l.isDisarming = false) (hin : l ∈ since) :
    During i l (before ++ .work (.taken job) :: since) := by
  obtain ⟨earlier, later, rfl⟩ := List.append_of_mem hin
  refine ⟨before ++ .work (.taken job) :: earlier, later, by simp, ?_⟩
  have hlate (kind : Label → Bool) (hk : ∀ x ∈ earlier ++ l :: later, kind x = false) :
      (earlier ++ l :: later).countP kind = earlier.countP kind := by
    rw [List.countP_append, Nat.add_eq_left, List.countP_eq_zero]
    intro x hx
    simp [hk x (List.mem_append_right _ hx)]
  have ha := hlate Label.isArming fun x hx => (hfree x hx).1
  have hd := hlate Label.isDisarming fun x hx => (hfree x hx).2
  simpa only [Holds, armings, disarmings, List.countP_append, List.countP_cons, ha, hd] using hh

theorem cancel_mem_of_incident (hin : .cancel ∈ incidents ls) : .cancel true ∈ ls := by
  obtain ⟨l, hl, hx⟩ := List.mem_filterMap.mp hin
  cases l with
  | cancel reached =>
    cases reached with
    | true => exact hl
    | false => cases hx
  | _ => cases hx

theorem call_mem_of_incident {e : Exchange} (hin : .answer e ∈ incidents ls) :
    .call e.call e.reply ∈ ls := by
  obtain ⟨l, hl, hx⟩ := List.mem_filterMap.mp hin
  cases l with
  | cancel reached => cases reached <;> cases hx
  | call c reply =>
    cases hx
    exact hl
  | _ => cases hx

theorem eq_cancelled_of_status (hs : Status.ofOutcome outcome = .cancelled) :
    outcome = .error (.dispatch .cancelled) := by
  cases outcome with
  | ok result => cases hs
  | error e =>
    simp only [Status.ofOutcome] at hs
    split at hs
    · rename_i he
      cases e with
      | dispatch e => cases e <;> simp_all [Action.Error.isCancelled]
      | _ => simp [Action.Error.isCancelled] at he
    · cases hs

section

variable [Regex.Engine]

/-- The action that holds its token out, as far as it has come. -/
def Phase.present? : Phase → Option (Job × Routine Outcome)
  | .armed job => some (job, action job)
  | .performing job r => some (job, r)
  | .ended job outcome => some (job, .done outcome)
  | _ => none

/-- What has happened since the token was put into reach is a watched run of the action. -/
inductive Attended (m : Manager) (job : Job) (r : Routine Outcome) : List Label → Prop where
  | intro {before since : List Label} :
      (∀ l ∈ since, l.isArming = false ∧ l.isDisarming = false) →
      (action job).Watched false (incidents since) r m.token →
      Attended m job r (before ++ .work (.taken job) :: since)

theorem attended_snoc (hd : Attended m job r ls) (ha : l.isArming = false)
    (hn : l.isDisarming = false) (hw : r.Watched m.token l.incident?.toList s n.token) :
    Attended n job s (ls ++ [l]) := by
  obtain ⟨hfree, hrun⟩ := hd
  rw [List.append_assoc, List.cons_append]
  refine .intro ?_ ?_
  · intro l' hin
    rcases List.mem_append.mp hin with hin | hin
    · exact hfree l' hin
    · rw [List.mem_singleton.mp hin]
      exact ⟨ha, hn⟩
  · rw [incidents_snoc]
    exact Routine.watched_trans hrun hw

/-- An action that the manager performs is a watched run, from a token that is not cancelled. -/
theorem attended_reached (hr : Reached ls m) (hp : m.phase.present? = some (job, r)) :
    Attended m job r ls := by
  induction hr generalizing job r with
  | start => cases hp
  | @step ls l m n _ hs ih =>
    cases moves_of_step hs with
    | take | disarm | publish => cases hp
    | arm hw =>
      cases hp
      exact .intro (by simp) (.refl _ _)
    | begin hw =>
      cases hp
      exact attended_snoc (ih (by rw [hw]; rfl)) rfl rfl (.refl _ _)
    | finish hw =>
      cases hp
      exact attended_snoc (ih (by rw [hw]; rfl)) rfl rfl (.refl _ _)
    | call hw hreply =>
      cases hp
      exact attended_snoc (ih (by rw [hw]; rfl)) rfl rfl
        (.answer (allowed_iff_granted.mp hreply) (.refl _ _))
    | reach => exact attended_snoc (ih hp) rfl rfl (.cancel (.refl _ _))
    | request | refuse | miss | stop => exact attended_snoc (ih hp) rfl rfl (.refl _ _)

/-- An action of the manager ends cancelled because a call has reached it, or by its transport. -/
theorem why_cancelled_reached (hr : Reached ls m)
    (hp : m.phase = .performing job (.done outcome)) (hs : Status.ofOutcome outcome = .cancelled) :
    ∃ i, Holds ls i ∧ (During i (.cancel true) ls ∨
      ∃ request, During i (.call (.send request) (.answered (.error .cancelled))) ls) := by
  obtain rfl := eq_cancelled_of_status hs
  have hh := holds_of_phase hr (by rw [hp]; rfl)
  refine ⟨_, hh, ?_⟩
  obtain ⟨hfree, hw⟩ := attended_reached hr (show m.phase.present? = some (job, _) by rw [hp]; rfl)
  rcases Action.why_cancelled hw with hin | ⟨request, hin⟩
  · exact .inl (during_of_attended hh hfree (cancel_mem_of_incident hin))
  · exact .inr ⟨request, during_of_attended hh hfree (call_mem_of_incident hin)⟩

theorem slot_isSome_iff (hr : Reached ls m) : (custody ls).slot.isSome = true ↔ m.armed = true := by
  rw [Option.isSome_iff_exists]
  constructor
  · rintro ⟨i, hi⟩
    exact ((holds_iff hr).mp (((kept_reached hr).slot i).mp hi)).1
  · intro ha
    exact ⟨_, ((kept_reached hr).slot _).mpr ((holds_iff hr).mpr ⟨ha, rfl⟩)⟩

/-- A cancel call leaves every token alone but the one that is held out. -/
theorem flag_of_cancel {b : Bool} (hr : Reached ls m) (hs : Step m (.cancel b) n)
    (hn : ¬ Holds ls i) : flag (ls ++ [.cancel b]) i = flag ls i := by
  rw [Bool.eq_iff_iff, (kept_reached (hr.step hs)).flags, (kept_reached hr).flags]
  exact cancelled_during_snoc fun _ _ => hn

/-- Clients, worker and collaborators may take their steps in any order. A cancel call says whether
a token is held out; it changes nothing if none is, and otherwise only that token. The token of the
`i`-th action is cancelled exactly when a call came while it was held out; an action sees its own
token; and it ends cancelled only by such a call, or when the transport says so. -/
theorem cancel_hits_present (hr : Reached ls m) :
    (∀ b n, Step m (.cancel b) n →
      (b = true ↔ (custody ls).slot.isSome = true) ∧
      (b = false → n = m ∧ custody (ls ++ [.cancel b]) = custody ls) ∧
      n = { m with token := n.token } ∧
      ∀ i, ¬ Holds ls i → flag (ls ++ [.cancel b]) i = flag ls i) ∧
    (∀ i, (custody ls).slot = some i ↔ Holds ls i) ∧
    (∀ i, flag ls i = true ↔ ∃ b, During i (.cancel b) ls) ∧
    (∀ before b after, ls = before ++ .cancel b :: after → (b = true ↔ ∃ i, Holds before i)) ∧
    (∀ c reply n, Step m (.call c reply) n →
      ∃ i, Holds ls i ∧ Exchange.Granted (flag ls i) ⟨c, reply⟩) ∧
    (∀ before job outcome after, ls = before ++ .work (.performing job (.done outcome)) :: after →
      Status.ofOutcome outcome = .cancelled →
      ∃ i, Holds before i ∧ (During i (.cancel true) before ∨
        ∃ request, During i (.call (.send request) (.answered (.error .cancelled))) before)) := by
  have hk := kept_reached hr
  refine ⟨?_, hk.slot, hk.flags, ?_, ?_, ?_⟩
  · intro b n hs
    refine ⟨?_, ?_, ?_, fun i => flag_of_cancel hr hs⟩
    · rw [slot_isSome_iff hr]
      cases moves_of_step hs with
      | reach ha => simp [ha]
      | miss ha => simp [ha]
    · rintro rfl
      cases moves_of_step hs with
      | miss ha => exact ⟨rfl, (custody_snoc _ _).trans (next_of_miss hr hk ha)⟩
    · cases moves_of_step hs <;> rfl
  · rintro before b after rfl
    obtain ⟨m₁, m₂, hr₁, hs⟩ := reached_before hr
    simp only [holds_iff hr₁, exists_and_left, exists_eq', and_true]
    cases moves_of_step hs with
    | reach ha => simp [ha]
    | miss ha => simp [ha]
  · intro c reply n hs
    cases moves_of_step hs with
    | call hw ha =>
      have hh := holds_of_phase hr (by rw [hw]; rfl)
      refine ⟨_, hh, ?_⟩
      rw [hk.token _ hh]
      exact allowed_iff_granted.mp ha
  · rintro before job outcome after rfl hout
    obtain ⟨m₁, m₂, hr₁, hs⟩ := reached_before hr
    cases moves_of_step hs with
    | finish hw => exact why_cancelled_reached hr₁ hw hout

end

/-- Calls before, during and after the first of two actions: one of them reaches that action, and
none the second, whose token is held out at the end. -/
theorem cancel_hits_first :
    ∃ ls m, Reached ls m ∧ Holds ls 1 ∧ .cancel false ∈ ls ∧
      (∃ b, During 0 (.cancel b) ls) ∧ ¬ ∃ b, During 1 (.cancel b) ls := by
  have run : ∃ ls m, Reached ls m ∧ Holds ls 1 ∧ .cancel false ∈ ls ∧
      flag ls 0 = true ∧ flag ls 1 = false := by
    have first := Reached.step .start
      (show Step .initial (.request ⟨pasteTool, .tool⟩) _ from .request rfl)
    have second := first.step (show Step _ (.request ⟨pasteTool, .tool⟩) _ from .request rfl)
    have early := (second.step (.work rfl)).step .cancel
    have asked := ((early.step (.work rfl)).step (.work rfl)).step
      (show Step _ (.call .clipboard (.text none)) _ from .call rfl trivial)
    have crashed := (asked.step .cancel).step
      (show Step _ (.call (.prompt _) .crash) _ from .call rfl trivial)
    have late := ((crashed.step (.work rfl)).step (.work rfl)).step .cancel
    exact ⟨_, _, ((late.step (.work rfl)).step (.work rfl)).step (.work rfl), ⟨rfl, rfl⟩,
      by simp [Manager.cancelCurrent, Manager.initial], rfl, rfl⟩
  obtain ⟨ls, m, hr, hh, hcalls, hfirst, hsecond⟩ := run
  have hflags := (cancel_hits_present hr).2.2.1
  refine ⟨ls, m, hr, hh, hcalls, (hflags 0).mp hfirst, fun hd => ?_⟩
  rw [(hflags 1).mpr hd] at hsecond
  cases hsecond

end LinkShot.Manager

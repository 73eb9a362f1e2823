import LinkShot.Manager.Session
import LinkShot.Proofs.Manager.Order

/-!
A session does what clients, worker and collaborators may do: it is a run of the manager, and by
itself it accepts no job.
-/
namespace LinkShot.Manager

open LinkShot.Action (Call Script SendReply)

variable {m n : Manager} {l : Label} {ls : List Label} {s t : Session} {job : Job}
  {cancelled : Bool}

variable [Regex.Engine]

/-- The run `ls` has gone on to a manager, and no job was accepted meanwhile. -/
def Quietly (ls : List Label) (m : Manager) : Prop :=
  ∃ since, Reached (ls ++ since) m ∧ accepted since = []

theorem quietly_refl (hr : Reached ls m) : Quietly ls m :=
  ⟨[], by rwa [List.append_nil], rfl⟩

theorem quietly_step (hq : Quietly ls m) (hs : Step m l n) (hl : l.accepted? = none) :
    Quietly ls n := by
  obtain ⟨since, hr, hnone⟩ := hq
  refine ⟨since ++ [l], ?_, ?_⟩
  · rw [← List.append_assoc]
    exact hr.step hs
  · simp [accepted_snoc, hnone, hl]

/-- A token within reach can be cancelled at any time. -/
theorem quietly_token (hq : Quietly ls m) (ha : m.armed = true)
    (hc : m.token = true → cancelled = true) : Quietly ls { m with token := cancelled } := by
  by_cases he : m.token = cancelled
  · subst he
    exact hq
  · have hset : cancelled = true := by
      cases cancelled with
      | true => rfl
      | false => exact hc (by simpa using he)
    have hs : m.cancelCurrent.2 = { m with token := true } := by simp [cancelCurrent, ha]
    subst hset
    rw [← hs]
    exact quietly_step hq .cancel rfl

theorem quietly_reply {reply : SendReply} (hq : Quietly ls s.manager)
    (ha : reply = .cancelled → s.manager.token = true) (ht : s.replyToPending reply = some t) :
    Quietly ls t.manager := by
  unfold Session.replyToPending at ht
  split at ht
  · rename_i request resume hw
    cases ht
    refine quietly_step hq (.call hw ?_) rfl
    cases reply with
    | answered => trivial
    | cancelled => exact ha rfl
  · cases ht

/-- A scripted call: the token as the script leaves it, and then the reply, if there is one. -/
theorem quietly_play {script : Script} {c : Call} {resume : c.Reply → Manager}
    (hq : Quietly ls m) (hw : m.work = .call c resume) :
    let played := script.play m.token c
    let after := match played.reply with
      | some reply => resume reply
      | none => m
    Quietly ls { after with token := played.cancelled } := by
  intro played after
  obtain ⟨job, next, hp, rfl⟩ := performing_of_call hw
  have ha : m.armed = true := by
    obtain ⟨since, hr, _⟩ := hq
    rw [armed_eq hr, hp]
    rfl
  have hkeep : m.token = true → played.cancelled = true := by
    intro ht
    simp only [played, ht, Action.play_cancelled]
  have hq' := quietly_token hq ha hkeep
  cases hreply : played.reply with
  | none => simpa only [after, hreply] using hq'
  | some reply =>
    have hw' : { m with token := played.cancelled }.work = .call c fun reply =>
        { m with token := played.cancelled, phase := .performing job (next reply) } := by
      simp only [work, hp]
    simpa only [after, hreply] using
      quietly_step hq' (.call hw' (allowed_iff_granted.mpr (Action.granted_of_play hreply))) rfl

theorem quietly_step? (hq : Quietly ls s.manager) (ht : s.step? = some t) :
    Quietly ls t.manager := by
  unfold Session.step? at ht
  split at ht
  · split at ht
    · exact quietly_reply hq (fun _ => by assumption) ht
    · cases ht
  · split at ht
    · cases ht
    · rename_i hw
      cases ht
      have hnone : (Label.work s.manager.phase).accepted? = none := rfl
      exact quietly_step hq (.work hw) hnone
    · rename_i hw
      cases ht
      exact quietly_play hq hw

theorem quietly_settle (hq : Quietly ls s.manager) : Quietly ls s.settle.manager := by
  unfold Session.settle
  generalize s.manager.queue.foldl _ _ = fuel
  induction fuel generalizing s with
  | zero => exact hq
  | succ fuel ih =>
    unfold Session.settleFrom
    cases hs : s.step? with
    | none => exact hq
    | some t => exact ih (quietly_step? hq hs)

/-- What the users of a session can make of it. -/
inductive Session.Reachable : Session → Prop where
  | start (script : Script) (stopped : Bool) : Reachable (.start script stopped)
  | settle {s : Session} : Reachable s → Reachable s.settle
  | release {s : Session} : Reachable s → Reachable s.release.2
  | request {s t : Session} {job : Job} : Reachable s → s.request job = .ok t → Reachable t
  | cancelCurrent {s : Session} : Reachable s → Reachable s.cancelCurrent.2
  | takeEvents {s : Session} : Reachable s → Reachable s.takeEvents.2

/-- All that holds of the runs of the manager holds of every session. -/
theorem reached_of_session (hs : s.Reachable) : ∃ ls, Reached ls s.manager := by
  induction hs with
  | start script stopped =>
    cases stopped with
    | false => exact ⟨[], .start⟩
    | true => exact ⟨_, Reached.start.step .stop⟩
  | settle _ ih =>
    obtain ⟨ls, hr⟩ := ih
    obtain ⟨since, hr', _⟩ := quietly_settle (quietly_refl hr)
    exact ⟨_, hr'⟩
  | @release s _ ih =>
    obtain ⟨ls, hr⟩ := ih
    unfold Session.release
    split
    · exact ⟨ls, hr⟩
    · split
      · rename_i t ht
        obtain ⟨since, hr', _⟩ := quietly_reply (quietly_refl hr) (by simp) ht
        exact ⟨_, hr'⟩
      · exact ⟨ls, hr⟩
  | @request s t job _ ht ih =>
    obtain ⟨ls, hr⟩ := ih
    unfold Session.request at ht
    cases hm : s.manager.request job with
    | error e => simp [hm, Except.map] at ht
    | ok m =>
      rw [hm] at ht
      cases ht
      exact ⟨_, hr.step (.request hm)⟩
  | cancelCurrent _ ih =>
    obtain ⟨ls, hr⟩ := ih
    exact ⟨_, hr.step .cancel⟩
  | takeEvents _ ih => exact ih

end LinkShot.Manager

import LinkShot.Proofs.Action.Run

/-!
Runs of routines whose token is watched: it may be cancelled at any moment, also while a call is
waited for, and what the calls reply of it is what it is.
-/
namespace LinkShot.Action

/-- What happens in a watched run. -/
inductive Incident where
  | answer (e : Exchange)
  | cancel

def Incident.exchange? : Incident → Option Exchange
  | .answer e => some e
  | .cancel => none

def exchanged (ms : List Incident) : List Exchange := ms.filterMap Incident.exchange?

/-- A token is seen as it is, and a pending request is given up only when it is cancelled. -/
def Exchange.Granted (token : Bool) : Exchange → Prop
  | ⟨.poll, reply⟩ => reply = token
  | ⟨.send _, .cancelled⟩ => token = true
  | _ => True

theorem exchanged_append (ms₁ ms₂ : List Incident) :
    exchanged (ms₁ ++ ms₂) = exchanged ms₁ ++ exchanged ms₂ :=
  List.filterMap_append

@[simp] theorem exchanged_answer (e : Exchange) (ms : List Incident) :
    exchanged (.answer e :: ms) = e :: exchanged ms := rfl

@[simp] theorem exchanged_cancel (ms : List Incident) :
    exchanged (.cancel :: ms) = exchanged ms := rfl

theorem mem_exchanged {e : Exchange} {ms : List Incident} : e ∈ exchanged ms ↔ .answer e ∈ ms := by
  constructor
  · intro he
    obtain ⟨m, hm, hx⟩ := List.mem_filterMap.mp he
    cases m with
    | answer e' =>
      cases hx
      exact hm
    | cancel => cases hx
  · intro he
    exact List.mem_filterMap.mpr ⟨_, he, rfl⟩

namespace Routine

variable {α : Type} {r s u : Routine α} {c : Call} {token token' token'' : Bool}
  {ms ms₁ ms₂ : List Incident} {a : α}

/-- The routine goes on, and the token with it. -/
inductive Watched : Routine α → Bool → List Incident → Routine α → Bool → Prop where
  | refl (r : Routine α) (token : Bool) : Watched r token [] r token
  | answer {c : Call} {next : c.Reply → Routine α} {reply : c.Reply} {ms : List Incident}
      {s : Routine α} {token token' : Bool} :
      Exchange.Granted token ⟨c, reply⟩ → Watched (next reply) token ms s token' →
      Watched (.ask c next) token (.answer ⟨c, reply⟩ :: ms) s token'
  | cancel {r s : Routine α} {ms : List Incident} {token token' : Bool} :
      Watched r true ms s token' → Watched r token (.cancel :: ms) s token'

theorem watched_trans (h₁ : r.Watched token ms₁ s token') (h₂ : s.Watched token' ms₂ u token'') :
    r.Watched token (ms₁ ++ ms₂) u token'' := by
  induction h₁ with
  | refl => exact h₂
  | answer hg _ ih => exact .answer hg (ih h₂)
  | cancel _ ih => exact .cancel (ih h₂)

theorem leads_of_watched (hw : r.Watched token ms s token') : r.Leads (exchanged ms) s := by
  induction hw with
  | refl => exact .refl _
  | answer _ _ ih => exact .answer ih
  | cancel _ ih => exact ih

/-- As long as a token does not change, everything that is seen of it says what it is. -/
theorem granted_of_watched (hw : r.Watched token ms s token') (ht : token = true ∨ .cancel ∉ ms) :
    ∀ e ∈ exchanged ms, e.Granted token := by
  induction hw with
  | refl => simp [exchanged]
  | answer hg _ ih =>
    intro e he
    rcases List.mem_cons.mp he with rfl | he
    · exact hg
    · exact ih (ht.imp_right fun hn hin => hn (List.mem_cons_of_mem _ hin)) e he
  | cancel _ ih =>
    have htoken := ht.resolve_right fun hn => hn List.mem_cons_self
    subst htoken
    exact ih (.inl rfl)

theorem exists_granted (token : Bool) (c : Call) : ∃ reply, Exchange.Granted token ⟨c, reply⟩ := by
  cases c with
  | poll => exact ⟨token, rfl⟩
  | send request => exact ⟨.answered (.ok ""), trivial⟩
  | _ =>
    obtain ⟨reply⟩ := exists_reply _
    exact ⟨reply, trivial⟩

/-- Whatever has become of the token, every run can be brought to its end. -/
theorem exists_watched_returns (r : Routine α) (token : Bool) :
    ∃ ms a, r.Watched token ms (.done a) token := by
  induction r with
  | done a => exact ⟨[], a, .refl _ _⟩
  | ask c next ih =>
    obtain ⟨reply, hg⟩ := exists_granted token c
    obtain ⟨ms, a, hw⟩ := ih reply
    exact ⟨.answer ⟨c, reply⟩ :: ms, a, .answer hg hw⟩

/-- A routine that waits has been replied to, or it still waits. -/
theorem watched_ask {next : c.Reply → Routine α}
    (hw : (Routine.ask c next).Watched token ms s token') :
    (exchanged ms = [] ∧ s = .ask c next) ∨
      ∃ reply token₁ rest, exchanged ms = ⟨c, reply⟩ :: exchanged rest ∧
        (next reply).Watched token₁ rest s token' := by
  generalize hr : Routine.ask c next = r at hw
  induction hw with
  | refl => exact .inl ⟨rfl, rfl⟩
  | answer _ hw =>
    cases hr
    exact .inr ⟨_, _, _, rfl, hw⟩
  | cancel _ ih => exact ih hr

theorem watched_done (hw : (Routine.done a).Watched token ms s token') :
    exchanged ms = [] ∧ s = .done a := by
  generalize hr : Routine.done a = r at hw
  induction hw with
  | refl => exact ⟨rfl, rfl⟩
  | answer => cases hr
  | cancel _ ih => exact ih hr

end Routine

theorem play_cancelled (script : Script) (c : Call) : (script.play true c).cancelled = true := by
  cases c with
  | send request =>
    simp only [Script.play]
    split
    · rfl
    · split <;> rfl
  | _ => rfl

/-- A script replies as a collaborator may reply once the token is as the script leaves it. -/
theorem granted_of_play {script : Script} {cancelled : Bool} {c : Call} {reply : c.Reply}
    (hp : (script.play cancelled c).reply = some reply) :
    Exchange.Granted (script.play cancelled c).cancelled ⟨c, reply⟩ := by
  cases c with
  | poll => exact (Option.some.inj hp).symm
  | send request =>
    cases reply with
    | answered => trivial
    | cancelled =>
      by_cases hs : script.canceller = some .send
      · simp [Script.play, Exchange.Granted, hs]
      · -- any other script answers, or gives no reply yet
        simp only [Script.play, hs, if_false] at hp
        split at hp <;> cases hp
  | _ => trivial

namespace Routine

variable {α : Type} {r s : Routine α} {token token' : Bool} {ms : List Incident}

/-- A collaborator that is called may cancel the token before it replies. -/
theorem watched_of_later (hc : token = true → token' = true) {token'' : Bool}
    (hw : r.Watched token' ms s token'') :
    ∃ ms', exchanged ms' = exchanged ms ∧ r.Watched token ms' s token'' := by
  by_cases he : token = token'
  · subst he
    exact ⟨ms, rfl, hw⟩
  · have hset : token' = true := by
      cases token with
      | true => exact hc rfl
      | false => simpa using he
    subst hset
    exact ⟨.cancel :: ms, rfl, .cancel hw⟩

/-- What a script does to a routine is one of its watched runs: it ends with the script's answer, or
waits for a request that is never answered. -/
theorem watched_of_script (r : Routine α) (script : Script) (cancelled : Bool) :
    ∃ ms s token, r.Watched cancelled ms s token ∧
      (r.run script cancelled).1 = (made (exchanged ms) s).filter Call.isEvent ∧
      ∀ a, (r.run script cancelled).2 = some a ↔ s = .done a := by
  induction r generalizing script cancelled with
  | done a => exact ⟨[], .done a, cancelled, .refl _ _, rfl, by simp [run]⟩
  | ask c next ih =>
    have hkeep : cancelled = true → (script.play cancelled c).cancelled = true := by
      rintro rfl
      exact play_cancelled script c
    cases hp : (script.play cancelled c).reply with
    | none =>
      refine ⟨[], .ask c next, cancelled, .refl _ _, ?_, by simp [run, hp]⟩
      simp [run, hp, made, pending, calls, exchanged, List.filter_cons]
    | some reply =>
      obtain ⟨ms, s, token, hw, he, ha⟩ :=
        ih reply (script.play cancelled c).script (script.play cancelled c).cancelled
      obtain ⟨ms', hx, hw'⟩ := watched_of_later hkeep (.answer (granted_of_play hp) hw)
      refine ⟨ms', s, token, hw', ?_, by simpa [run, hp] using ha⟩
      simp only [run, hp, he, hx]
      simp [made, calls, List.filter_cons]

end Routine
end LinkShot.Action

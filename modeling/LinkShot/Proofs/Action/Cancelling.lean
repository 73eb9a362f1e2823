import LinkShot.Proofs.Action.Notices
import LinkShot.Proofs.Action.Watched

/-!
Cancelling an action. A token that is cancelled before the request is sent keeps it from being sent;
one that is cancelled while the request is pending ends the action when nothing is answered; and an
action that ends cancelled has done nothing to the clipboard or the log and tells the user nothing.
-/
namespace LinkShot.Action

open Routine (made)

variable {provider : Provider} {trigger : Trigger} {payload : Option Text.Bytes}
  {h : List Exchange} {r s : Routine (Except Error String)} {token token' : Bool}
  {ms before after : List Incident} {outcome : Except Error String} {request : Request.Prepared}

def Call.isSend : Call → Bool
  | .send _ => true
  | _ => false

def sends (cs : List Call) : List Call := cs.filter Call.isSend

/-- The calls whose effect stays when an action has ended. -/
def Call.isLasting : Call → Bool
  | .copy _ | .log _ | .notify _ => true
  | _ => false

/-- Why an action whose token was cancelled in time may end with another error. -/
inductive FailsFirst (h : List Exchange) : Except Error String → Prop where
  | capture (mode : Capture.Mode) (e : Capture.Error) :
      (⟨.capture mode, .error e⟩ : Exchange) ∈ h → FailsFirst h (.error (.capture e))
  | prompt : Broken h → FailsFirst h (.error .promptFailed)

namespace Routine

variable {α β : Type} {t : Routine α} {f : α → Routine (Except Error String)}

/-- Giving up a pending request ends the action at once. -/
def GivesUp : Routine (Except Error String) → Prop
  | .done _ => True
  | .ask (.send _) next =>
    next .cancelled = .done (.error (.dispatch .cancelled)) ∧ ∀ reply, (next reply).GivesUp
  | .ask _ next => ∀ reply, (next reply).GivesUp

theorem givesUp_next {c : Call} {next : c.Reply → Routine (Except Error String)}
    (hg : (Routine.ask c next).GivesUp) (reply : c.Reply) : (next reply).GivesUp := by
  cases c with
  | send request => exact hg.2 reply
  | _ => exact hg reply

theorem givesUp_of_leads (hg : r.GivesUp) (hr : r.Leads h s) : s.GivesUp := by
  induction hr with
  | refl => exact hg
  | answer _ ih => exact ih (givesUp_next hg _)

/-- A beginning that sends nothing gives nothing up. -/
theorem givesUp_bind (ht : t.Only (!·.isSend)) (hf : ∀ a, (f a).GivesUp) : (t >>= f).GivesUp := by
  induction t with
  | done a => exact hf a
  | ask c next ih =>
    cases c with
    | send request => exact absurd ht.1 (by simp [Call.isSend])
    | _ => exact fun reply => ih reply (ht.2 reply)

theorem only_weaken {kind wider : Call → Bool} (hk : ∀ c, kind c = true → wider c = true)
    (ht : t.Only kind) : t.Only wider := by
  induction t with
  | done a => trivial
  | ask c next ih => exact ⟨hk c ht.1, fun reply => ih reply (ht.2 reply)⟩

end Routine

open Routine (givesUp_bind)

theorem deliver_only {result : String} : (deliver result).Only (!·.isSend) := by
  refine Routine.only_bind (Routine.only_call rfl) fun copying => ?_
  cases copying with
  | crash => trivial
  | copied | failed => exact Routine.only_bind (Routine.only_call rfl) fun _ => trivial

theorem notifyError_givesUp (message : String) (outcome : Except Error String) :
    (notifyError message >>= fun _ => pure outcome).GivesUp :=
  givesUp_bind (Routine.only_call rfl) fun _ => trivial

theorem sends_append (cs ds : List Call) : sends (cs ++ ds) = sends cs ++ sends ds :=
  List.filter_append ..

theorem sends_deeds (cs : List Call) : sends (deeds cs) = sends cs := by
  rw [sends, deeds, List.filter_filter]
  refine List.filter_congr fun c _ => ?_
  cases c <;> rfl

theorem sends_of_questions {cs : List Call} (hq : ∀ c ∈ cs, c.isQuestion = true) :
    sends cs = [] := by
  rw [sends, List.filter_eq_nil_iff]
  intro c hc
  have hk := hq c hc
  cases c <;> simp_all [Call.isQuestion, Call.isSend]

/-- What is seen of a token after it was cancelled says so. -/
theorem polled_cancelled (hn : ∀ reply, .answer ⟨.poll, reply⟩ ∉ before)
    (hw : s.Watched true after r token') (reply : Bool)
    (hin : (⟨.poll, reply⟩ : Exchange) ∈ exchanged (before ++ after)) : reply = true := by
  rw [exchanged_append, List.mem_append] at hin
  rcases hin with hin | hin
  · exact absurd (mem_exchanged.mp hin) (hn reply)
  · exact Routine.granted_of_watched hw (.inl rfl) _ hin

theorem leads_of_watched_append {t : Routine (Except Error String)} {flag flag' : Bool}
    (hb : r.Watched token before s token') (hw : s.Watched flag after t flag') :
    r.Leads (exchanged (before ++ after)) t := by
  rw [exchanged_append]
  exact Routine.leads_trans (Routine.leads_of_watched hb) (Routine.leads_of_watched hw)

/-- Unless it is answered, a pending request is still pending or was given up, and that was all. -/
theorem given_up_of_watched {next : SendReply → Routine (Except Error String)}
    (hg : (Routine.ask (.send request) next).GivesUp)
    (hw : (Routine.ask (.send request) next).Watched token ms s token')
    (hn : ∀ response, .answer ⟨.send request, .answered response⟩ ∉ ms) :
    (exchanged ms = [] ∧ s = .ask (.send request) next) ∨
      (exchanged ms = [⟨.send request, .cancelled⟩] ∧
        s = .done (.error (.dispatch .cancelled))) := by
  rcases Routine.watched_ask hw with hwait | ⟨reply, token₁, rest, hx, hrest⟩
  · exact .inl hwait
  · cases reply with
    | answered response => exact absurd (mem_exchanged.mp (hx ▸ List.mem_cons_self)) (hn response)
    | cancelled =>
      rw [hg.1] at hrest
      obtain ⟨hnil, hs⟩ := Routine.watched_done hrest
      exact .inr ⟨by rw [hx, hnil], hs⟩

section

variable [Regex.Engine]

theorem settle_givesUp (provider : Provider) (payload : Option Text.Bytes)
    (found : Except DispatchError String) : (settle provider payload found).GivesUp := by
  rcases found with e | body
  · cases e with
    | cancelled => trivial
    | _ => exact notifyError_givesUp _ _
  · change (conclude provider body).GivesUp
    unfold conclude
    split
    · exact notifyError_givesUp _ _
    · refine givesUp_bind deliver_only fun _ => ?_
      exact givesUp_bind (Routine.only_call rfl) fun _ => trivial

theorem submit_givesUp : (submit provider payload).GivesUp := by
  refine givesUp_bind (Routine.only_weaken ?_ resolveRequest_only) fun found => ?_
  · intro c hc
    cases c <;> simp_all [Call.isAsking, Call.isSend]
  rcases found with _ | ⟨arguments, headers⟩
  · trivial
  · intro cancelled
    cases cancelled with
    | true => trivial
    | false =>
      refine ⟨rfl, fun reply => ?_⟩
      rcases reply with (e | body) | _
      · exact settle_givesUp provider payload (.error e)
      · exact settle_givesUp provider payload (verdict (.answered (.ok body)))
      · exact settle_givesUp provider payload (.error .cancelled)

theorem perform_givesUp : (perform provider trigger).GivesUp := by
  unfold perform
  split
  · trivial
  · cases trigger with
    | tool => exact submit_givesUp
    | capture mode =>
      intro image
      cases image with
      | error e => exact notifyError_givesUp _ _
      | ok image => exact submit_givesUp

/-- An action sends one request at most. -/
theorem sends_of_course (hc : Course provider trigger h outcome) :
    (sends (calls h)).length ≤ 1 := by
  obtain ⟨questions, late, hd, hq, request, result, hl⟩ := course_deeds hc
  have hshot : sends (screenshot provider trigger) = [] := by
    cases trigger with
    | tool => rfl
    | capture mode =>
      simp only [screenshot]
      split <;> rfl
  have hlate : (sends late).length ≤ (sends [.send request, .copy result, .log result]).length :=
    (hl.sublist.filter _).length_le
  rw [← sends_deeds, hd, sends_append, sends_append, hshot, sends_of_questions hq]
  exact hlate

/-- At every moment of a run. -/
theorem sends_eq_of_made (hr : (perform provider trigger).Leads h r)
    (hm : .send request ∈ made h r) : sends (made h r) = [.send request] := by
  obtain ⟨rest, outcome, he⟩ := r.exists_returns
  have hle := sends_of_course (course_of_leads hr he)
  have hpart : (sends (made h r)).length ≤ (sends (calls (h ++ rest))).length :=
    ((made_later he).sublist.filter _).length_le
  have hin : .send request ∈ sends (made h r) := List.mem_filter.mpr ⟨hm, rfl⟩
  obtain ⟨c, hone⟩ := List.length_eq_one_iff.mp
    (Nat.le_antisymm (Nat.le_trans hpart hle) (List.length_pos_of_mem hin))
  rw [hone] at hin ⊢
  rw [List.mem_singleton.mp hin]

/-- An action that finds its token cancelled when it looks at it sends nothing. -/
theorem not_sent_of_polled (hc : Course provider trigger h outcome)
    (hp : ∀ reply, (⟨.poll, reply⟩ : Exchange) ∈ h → reply = true) :
    .send request ∉ calls h := by
  rcases course_sends hc with hn | ⟨opened, payload, arguments, headers, reply, rest, rfl, _⟩
  · intro hin
    simpa [Call.isLate] using hn _ hin
  · simp at hp

theorem cancelled_of_polled (ha : accepts provider trigger = true)
    (hc : Course provider trigger h outcome)
    (hp : ∀ reply, (⟨.poll, reply⟩ : Exchange) ∈ h → reply = true) :
    outcome = .error (.dispatch .cancelled) ∨ FailsFirst h outcome := by
  have hbroken := promptFailed_iff hc
  cases hc with
  | wrongTrigger hn => simp [ha] at hn
  | @captureFailed mode e => exact .inr (.capture mode e List.mem_cons_self)
  | submitted _ _ hs =>
    cases hs with
    | promptFailed => exact .inr (.prompt (hbroken.mp rfl))
    | unsent => exact .inl rfl
    | givenUp | refused | unreadable | finished => simp at hp

/-- An action ends cancelled for no other reason than its token or its transport. -/
theorem why_cancelled
    (hw : (perform provider trigger).Watched false ms (.done (.error (.dispatch .cancelled)))
      token) :
    .cancel ∈ ms ∨ ∃ request, .answer ⟨.send request, .answered (.error .cancelled)⟩ ∈ ms := by
  by_cases hcancel : .cancel ∈ ms
  · exact .inl hcancel
  have hg := Routine.granted_of_watched hw (.inr hcancel)
  have hc := perform_returns_iff.mp (Routine.leads_of_watched hw)
  generalize hms : exchanged ms = h at hg hc
  generalize hout : Except.error (Error.dispatch .cancelled) = outcome at hc
  cases hc with
  | wrongTrigger | captureFailed => cases hout
  | @submitted _ _ payload _ _ _ hs =>
    cases hs with
    | promptFailed | unreadable | finished => cases hout
    | refused _ _ hn =>
      cases hout
      exact absurd rfl hn
    | unsent => exact absurd (hg ⟨.poll, true⟩ (by simp)) (by simp [Exchange.Granted])
    | @givenUp _ arguments headers reply _ hv =>
      have hin : sending provider arguments headers payload reply ∈ exchanged ms := by simp [hms]
      rcases reply with (e | body) | _
      · cases hv
        exact .inr ⟨_, mem_exchanged.mp hin⟩
      · simp only [verdict] at hv
        split at hv <;> cases hv
      · rw [hms] at hin
        exact absurd (hg _ hin) (by simp [Exchange.Granted, sending])

/-- An action that was cancelled leaves nothing behind. -/
theorem nothing_lasting
    (hr : (perform provider trigger).Returns h (.error (.dispatch .cancelled))) :
    ∀ c ∈ calls h, c.isLasting = false := by
  have ht := told_of_course (perform_returns_iff.mp hr)
  have hundelivered {text : String} (hm : .copy text ∈ calls h ∨ .log text ∈ calls h) : False := by
    have hmade : made h (.done (Except.error (Error.dispatch .cancelled)) :
        Routine (Except Error String)) = calls h := by
      simp [made, Routine.pending]
    have hresult := (result_of_delivery hr (.refl _) (by rwa [hmade])).1
    cases hresult
  intro c hc
  cases c with
  | copy text => exact (hundelivered (.inl hc)).elim
  | log text => exact (hundelivered (.inr hc)).elim
  | notify n =>
    cases ht with
    | failure hs => simp [Error.isSilent, Error.isCancelled] at hs
    | nothing _ hn =>
      obtain ⟨⟨c, reply⟩, hx, rfl⟩ := List.mem_map.mp hc
      simpa [Exchange.notice?] using List.filterMap_eq_nil_iff.mp hn _ hx
  | _ => rfl

/-- Whatever the collaborators reply, and wherever a run is looked at. A token that is cancelled
before it is looked at keeps the request from being sent, and the action ends cancelled unless it
fails first. A token that is cancelled while the request is pending ends an action that gets no
answer. An action that ends cancelled has copied, logged and told nothing. -/
theorem cancelled_promptly (ha : accepts provider trigger = true) :
    (∀ before s token after r token',
      (perform provider trigger).Watched false before s token →
      (∀ reply, .answer ⟨.poll, reply⟩ ∉ before) → s.Watched true after r token' →
      (∀ request, .send request ∉ made (exchanged (before ++ after)) r) ∧
      (∀ outcome, r = .done outcome → outcome = .error (.dispatch .cancelled) ∨
        FailsFirst (exchanged (before ++ after)) outcome) ∧
      ∃ rest outcome, r.Watched token' rest (.done outcome) token') ∧
    (∀ before request next token,
      (perform provider trigger).Watched false before (.ask (.send request) next) token →
      (Routine.ask (.send request) next).Watched true [.answer ⟨.send request, .cancelled⟩]
        (.done (.error (.dispatch .cancelled))) true ∧
      ∀ after r token', (Routine.ask (.send request) next).Watched true after r token' →
        (∀ response, .answer ⟨.send request, .answered response⟩ ∉ after) →
        (r = .ask (.send request) next ∨ r = .done (.error (.dispatch .cancelled))) ∧
        sends (made (exchanged (before ++ after)) r) = [.send request]) ∧
    (∀ h, (perform provider trigger).Returns h (.error (.dispatch .cancelled)) →
      ∀ c ∈ calls h, c.isLasting = false) := by
  refine ⟨?_, ?_, fun h hr => nothing_lasting hr⟩
  · intro before s token after r token' hb hn hw
    obtain ⟨rest, outcome, hend⟩ := Routine.exists_watched_returns r token'
    refine ⟨?_, ?_, rest, outcome, hend⟩
    · intro request hm
      -- a request that waits for its answer is among the calls of the run that is brought to its
      -- end
      have hwhole := Routine.watched_trans hw hend
      have hpolled := polled_cancelled hn hwhole
      have hc := perform_returns_iff.mp (leads_of_watched_append hb hwhole)
      rw [← List.append_assoc, exchanged_append] at hpolled hc
      exact not_sent_of_polled hc hpolled ((made_later (Routine.leads_of_watched hend)).subset hm)
    · rintro outcome rfl
      have hc := perform_returns_iff.mp (leads_of_watched_append hb hw)
      exact cancelled_of_polled ha hc (polled_cancelled hn hw)
  · intro before request next token hb
    have hlead := Routine.leads_of_watched hb
    have hg := Routine.givesUp_of_leads perform_givesUp hlead
    refine ⟨?_, ?_⟩
    · refine .answer rfl ?_
      rw [hg.1]
      exact .refl _ _
    · intro after r token' hw hn
      have hrun := leads_of_watched_append hb hw
      rcases given_up_of_watched hg hw hn with ⟨hx, rfl⟩ | ⟨hx, rfl⟩
      · exact ⟨.inl rfl, sends_eq_of_made hrun (by simp [made, Routine.pending])⟩
      · exact ⟨.inr rfl, sends_eq_of_made hrun (by simp [made, exchanged_append, hx, calls])⟩

end

/-- An upload that is cancelled while its question is open: the answer still comes, but nothing is
sent, and the action ends as one that was cancelled. -/
theorem cancelled_promptly_while_asking :
    accepts titledUpload (.capture .region) = true ∧
    ∃ before s after r,
      (perform titledUpload (.capture .region)).Watched false before s false ∧
      s.Watched true after r true ∧
      (∀ request, .send request ∉ made (exchanged (before ++ after)) r) ∧
      r = .done (.error (.dispatch .cancelled)) := by
  let question : Question := ⟨promptLabel "title" "Shots", "", false⟩
  have asking : ∃ s, (perform titledUpload (.capture .region)).Watched false
        [.answer ⟨.capture .region, .ok [137, 80]⟩, .answer ⟨.clipboard, .text none⟩] s false ∧
      s.Watched true [.answer ⟨.prompt question, .answer (some "hi")⟩, .answer ⟨.poll, true⟩]
        (.done (.error (.dispatch .cancelled))) true :=
    ⟨_, .answer trivial (.answer trivial (.refl _ _)), .answer trivial (.answer rfl (.refl _ _))⟩
  obtain ⟨s, hb, hw⟩ := asking
  have ha : accepts titledUpload (.capture .region) = true := rfl
  have hall := (cancelled_promptly ha).1 _ s _ _ _ _ hb (by simp) hw
  exact ⟨ha, _, s, _, _, hb, hw, hall.1, rfl⟩

end LinkShot.Action

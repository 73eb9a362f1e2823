import LinkShot.Proofs.Action.Breakdown
import LinkShot.Proofs.Action.Order

/-!
What the user hears of an action. A result, and every failure that the user has not chosen, ends the
action with its only notification; but when the task that asks for the placeholders crashes, the
action ends unheard.
-/
namespace LinkShot.Action

variable {provider : Provider} {trigger : Trigger} {payload : Option Text.Bytes}
  {h before : List Exchange} {outcome : Except Error String} {n : Notification}

def Exchange.notice? : Exchange → Option Notification
  | ⟨.notify n, _⟩ => some n
  | _ => none

def notices (h : List Exchange) : List Notification := h.filterMap Exchange.notice?

def events (h : List Exchange) : List Call := (calls h).filter Call.isEvent

/-- The only notification, and the last event of all. -/
structure Heard (n : Notification) (h : List Exchange) : Prop where
  only : notices h = [n]
  last : (events h).getLast? = some (.notify n)

/-- Nothing was tried, or the user has cancelled. -/
def Error.isSilent : Error → Bool
  | .wrongTrigger .. => true
  | e => e.isCancelled

/-- What the user is told of an outcome. -/
inductive Told (provider : Provider) (h : List Exchange) : Except Error String → Prop where
  | result {result : String} :
      Heard ⟨"Response from " ++ provider.name, result⟩ h → Told provider h (.ok result)
  | failure {e : Error} {message : String} :
      e.isSilent = false → e ≠ .promptFailed → Heard ⟨"Error", message⟩ h →
      Told provider h (.error e)
  | nothing {e : Error} : e.isSilent = true ∨ e = .promptFailed → notices h = [] →
      Told provider h (.error e)

theorem notices_append (h₁ h₂ : List Exchange) : notices (h₁ ++ h₂) = notices h₁ ++ notices h₂ :=
  List.filterMap_append

theorem notices_of_asked {asked : List Exchange} {found : Option (OrderedMap × OrderedMap)}
    (hask : (resolveRequest provider).Returns asked found) : notices asked = [] := by
  rw [notices, List.filterMap_eq_nil_iff]
  rintro ⟨c, reply⟩ hin
  have hk := asking_of_asked hask c (List.mem_map_of_mem hin)
  cases c with
  | notify => simp [Call.isAsking] at hk
  | _ => rfl

theorem notices_of_taken {taken : List Exchange} (ht : Taken trigger taken payload) :
    notices taken = [] := by
  cases ht <;> rfl

theorem notices_of_delivered {result : String} {delivered : List Exchange}
    (hd : Delivered result delivered) : notices delivered = [] := by
  cases hd <;> rfl

theorem heard_last (before : List Exchange) (hb : notices before = []) (title message : String) :
    Heard ⟨title, message⟩ (before ++ [noticed title message]) where
  only := by
    rw [notices_append, hb]
    rfl
  last := by simp [events, calls, noticed, Call.isEvent]

theorem heard_append (hb : notices before = []) (hh : Heard n h) : Heard n (before ++ h) where
  only := by rw [notices_append, hb, hh.only, List.nil_append]
  last := by
    have hl := hh.last
    rw [events] at hl ⊢
    rw [calls_append, List.filter_append, List.getLast?_append, hl]
    rfl

theorem told_append (hb : notices before = []) (ht : Told provider h outcome) :
    Told provider (before ++ h) outcome := by
  cases ht with
  | result hh => exact .result (heard_append hb hh)
  | failure hs hp hh => exact .failure hs hp (heard_append hb hh)
  | nothing hs hn => exact .nothing hs (by rw [notices_append, hb, hn, List.nil_append])

section

variable [Regex.Engine]

theorem told_of_submission (hs : Submission provider payload h outcome) :
    Told provider h outcome := by
  cases hs with
  | promptFailed hask => exact .nothing (.inr rfl) (notices_of_asked hask)
  | unsent hask => exact told_append (notices_of_asked hask) (.nothing (.inl rfl) rfl)
  | givenUp hask => exact told_append (notices_of_asked hask) (.nothing (.inl rfl) rfl)
  | @refused _ arguments headers reply e hask hv hc =>
    have hloud : (Error.dispatch e).isSilent = false := by
      cases e with
      | cancelled => exact absurd rfl hc
      | _ => rfl
    have hh := heard_last [⟨.poll, false⟩, sending provider arguments headers payload reply] rfl
      "Error" (sendErrorText provider payload)
    exact told_append (notices_of_asked hask) (.failure hloud (by simp) hh)
  | @unreadable _ arguments headers reply _ _ hask hv he =>
    have hh := heard_last [⟨.poll, false⟩, sending provider arguments headers payload reply] rfl
      "Error" ("Could not extract a result from " ++ provider.name)
    exact told_append (notices_of_asked hask) (.failure rfl (by simp) hh)
  | finished hask hv he hd =>
    refine .result (heard_last _ ?_ _ _)
    rw [notices_append, notices_append, notices_of_asked hask, notices_of_delivered hd]
    rfl

theorem told_of_course (hc : Course provider trigger h outcome) : Told provider h outcome := by
  cases hc with
  | wrongTrigger => exact .nothing (.inl rfl) rfl
  | captureFailed => exact .failure rfl (by simp) (heard_last [_] rfl _ _)
  | submitted _ ht hs => exact told_append (notices_of_taken ht) (told_of_submission hs)

/-- Whatever the collaborators reply, as long as neither the dialog nor the clipboard that is read
for it crashes, a result is heard once and last, and so is every failure that is not silent. After
such a crash, and after a silent failure, nothing is heard. -/
theorem heard_once (hr : (perform provider trigger).Returns h outcome) :
    (∀ result, outcome = .ok result → Heard ⟨"Response from " ++ provider.name, result⟩ h) ∧
    (∀ e, outcome = .error e → e.isSilent = false → ¬ Broken h →
      ∃ message, Heard ⟨"Error", message⟩ h) ∧
    (∀ e, outcome = .error e → e.isSilent = true ∨ Broken h → notices h = []) := by
  have hc := perform_returns_iff.mp hr
  have hbroken := promptFailed_iff hc
  have ht := told_of_course hc
  refine ⟨?_, ?_, ?_⟩
  · rintro result rfl
    cases ht with
    | result hh => exact hh
  · rintro e rfl hs hb
    cases ht with
    | failure _ _ hh => exact ⟨_, hh⟩
    | nothing hn =>
      rcases hn with hn | rfl
      · simp [hs] at hn
      · exact absurd (hbroken.mp rfl) hb
  · rintro e rfl hq
    cases ht with
    | nothing _ hn => exact hn
    | failure hs hp =>
      rcases hq with hq | hb
      · simp [hs] at hq
      · exact absurd (Except.error.inj (hbroken.mpr hb)) hp

end

/-- A clipboard that crashes while the link is copied does not keep the result from the user. -/
theorem heard_once_uncopied :
    ∃ h, (perform titledUpload (.capture .full)).Returns h (.ok "link") ∧
      (⟨.copy "link", .crash⟩ : Exchange) ∈ h ∧ Heard ⟨"Response from Shots", "link"⟩ h := by
  let question : Question := ⟨promptLabel "title" "Shots", "", false⟩
  let request := Request.prepare titledUpload ⟨[("title", "hi")]⟩ .empty (some [137, 80])
  have run : (perform titledUpload (.capture .full)).Returns
      [⟨.capture .full, .ok [137, 80]⟩, ⟨.clipboard, .text none⟩,
        ⟨.prompt question, .answer (some "hi")⟩, ⟨.poll, false⟩,
        ⟨.send request, .answered (.ok "link")⟩, ⟨.copy "link", .crash⟩,
        noticed "Response from Shots" "link"] (.ok "link") :=
    .answer (.answer (.answer (.answer (.answer (.answer (.answer (.refl _)))))))
  exact ⟨_, run, by simp, (heard_once run).1 "link" rfl⟩

/-- It is not so that every failure is heard that is not silent: a dialog that crashes ends the
action, and the user who pressed a key hears nothing more. -/
theorem crashed_dialog_unheard :
    ¬ ∀ (provider : Provider) (trigger : Trigger) (h : List Exchange) (e : Error),
      (perform provider trigger).Returns h (.error e) → e.isSilent = false →
      ∃ message, Heard ⟨"Error", message⟩ h := by
  intro hall
  let question : Question := ⟨promptLabel "title" "Shots", "", false⟩
  have run : (perform titledUpload (.capture .full)).Returns
      [⟨.capture .full, .ok [137, 80]⟩, ⟨.clipboard, .text none⟩, ⟨.prompt question, .crash⟩]
      (.error .promptFailed) :=
    .answer (.answer (.answer (.refl _)))
  obtain ⟨message, hh⟩ := hall _ _ _ _ run rfl
  cases hh.only

end LinkShot.Action

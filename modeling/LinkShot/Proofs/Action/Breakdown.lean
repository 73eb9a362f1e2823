import LinkShot.Proofs.Action.Course

/-!
Where an action breaks off: its placeholders come to nothing exactly when the dialog crashes, or the
clipboard while it is read for one.
-/
namespace LinkShot.Action

variable {provider : Provider} {trigger : Trigger} {payload : Option Text.Bytes}
  {h : List Exchange} {outcome : Except Error String}

/-- The clipboard or the dialog crashed before there was an answer. -/
def Exchange.isCrash : Exchange → Bool
  | ⟨.clipboard, .crash⟩ | ⟨.prompt _, .crash⟩ => true
  | _ => false

def Broken (h : List Exchange) : Prop := ∃ x ∈ h, x.isCrash = true

theorem not_broken_nil : ¬ Broken [] := by
  simp [Broken]

theorem broken_append (h₁ h₂ : List Exchange) : Broken (h₁ ++ h₂) ↔ Broken h₁ ∨ Broken h₂ := by
  simp [Broken, or_and_right, exists_or]

theorem broken_cons (x : Exchange) (h : List Exchange) :
    Broken (x :: h) ↔ x.isCrash = true ∨ Broken h := by
  simp [Broken]

namespace Routine

variable {α β : Type} {r : Routine (Option α)} {c : Call}

/-- Gives nothing exactly when something crashes. -/
def BreaksOff (r : Routine (Option α)) : Prop :=
  ∀ h found, r.Returns h found → (found = none ↔ Broken h)

theorem breaksOff_some (a : α) : (pure (some a) : Routine (Option α)).BreaksOff := by
  intro h found hr
  obtain ⟨rfl, rfl⟩ := returns_pure_iff.mp hr
  simp [not_broken_nil]

theorem breaksOff_bind {f : Option α → Routine (Option β)} (hr : r.BreaksOff)
    (hn : f none = pure none) (hf : ∀ a, (f (some a)).BreaksOff) : (r >>= f).BreaksOff := by
  intro h found hrun
  obtain ⟨first, h₁, h₂, rfl, hfirst, hrest⟩ := returns_bind_iff.mp hrun
  have hb := hr h₁ first hfirst
  rw [broken_append, ← hb]
  cases first with
  | none =>
    rw [hn] at hrest
    obtain ⟨rfl, rfl⟩ := returns_pure_iff.mp hrest
    simp
  | some a => simpa using hf a h₂ found hrest

/-- A call that crashes ends the routine; any other reply lets it go on. -/
theorem breaksOff_call_bind {f : c.Reply → Routine (Option α)}
    (hcrash : ∀ reply, Exchange.isCrash ⟨c, reply⟩ = true → f reply = pure none)
    (hgo : ∀ reply, Exchange.isCrash ⟨c, reply⟩ = false → (f reply).BreaksOff) :
    (Routine.call c >>= f).BreaksOff := by
  intro h found hrun
  obtain ⟨reply, rest, rfl, hrest⟩ := returns_call_bind_iff.mp hrun
  rw [broken_cons]
  cases hc : Exchange.isCrash ⟨c, reply⟩ with
  | true =>
    rw [hcrash reply hc] at hrest
    obtain ⟨rfl, rfl⟩ := returns_pure_iff.mp hrest
    simp
  | false => simpa using hgo reply hc rest found hrest

end Routine

open Routine (breaksOff_some breaksOff_bind breaksOff_call_bind)

theorem resolve_breaksOff (value key name : String) (multiline : Bool) :
    (resolve value key name multiline).BreaksOff := by
  unfold resolve
  split
  · refine breaksOff_call_bind ?_ ?_
    · rintro (offered | _) hc
      · simp [Exchange.isCrash] at hc
      · rfl
    · rintro (offered | _) hc
      · refine breaksOff_call_bind ?_ ?_
        · rintro (text | _) ha
          · simp [Exchange.isCrash] at ha
          · rfl
        · rintro (text | _) ha
          · exact breaksOff_some _
          · simp [Exchange.isCrash] at ha
      · simp [Exchange.isCrash] at hc
  · split
    · refine breaksOff_call_bind ?_ fun word _ => breaksOff_some _
      intro word hc
      simp [Exchange.isCrash] at hc
    · exact breaksOff_some _

theorem resolveEntries_breaksOff (name : String) (multiline : Bool)
    (entries : List (String × String)) : (resolveEntries name multiline entries).BreaksOff := by
  induction entries with
  | nil => exact breaksOff_some _
  | cons entry rest ih =>
    refine breaksOff_bind (resolve_breaksOff _ _ _ _) rfl fun resolved => ?_
    exact breaksOff_bind ih rfl fun found => breaksOff_some _

theorem resolveAll_breaksOff (map : OrderedMap) (name : String) (multiline : Bool) :
    (resolveAll map name multiline).BreaksOff :=
  breaksOff_bind (resolveEntries_breaksOff _ _ _) rfl fun _ => breaksOff_some _

theorem resolveRequest_breaksOff (provider : Provider) : (resolveRequest provider).BreaksOff := by
  refine breaksOff_bind (resolveAll_breaksOff _ _ _) rfl fun arguments => ?_
  exact breaksOff_bind (resolveAll_breaksOff _ _ _) rfl fun headers => breaksOff_some _

theorem not_broken_taken {taken : List Exchange} (ht : Taken trigger taken payload) :
    ¬ Broken taken := by
  cases ht <;> simp [Broken, Exchange.isCrash]

theorem not_broken_delivered {result : String} {delivered : List Exchange}
    (hd : Delivered result delivered) : ¬ Broken delivered := by
  cases hd <;> simp [Broken, Exchange.isCrash]

variable [Regex.Engine]

theorem promptFailed_iff_of_submission (hs : Submission provider payload h outcome) :
    outcome = .error .promptFailed ↔ Broken h := by
  have whole {asked : List Exchange} {found : OrderedMap × OrderedMap}
      (hask : (resolveRequest provider).Returns asked (some found)) : ¬ Broken asked := by
    rw [← resolveRequest_breaksOff provider asked _ hask]
    simp
  cases hs with
  | promptFailed hask => simpa using (resolveRequest_breaksOff provider h none hask).mp rfl
  | unsent hask | givenUp hask | refused hask | unreadable hask =>
    simp [broken_append, broken_cons, not_broken_nil, whole hask, Exchange.isCrash, sending,
      noticed]
  | finished hask hv he hd =>
    simp [broken_append, broken_cons, not_broken_nil, whole hask, not_broken_delivered hd,
      Exchange.isCrash, sending, noticed]

/-- The task that asks for the placeholders fails only by a crash, and every crash fails it. -/
theorem promptFailed_iff (hc : Course provider trigger h outcome) :
    outcome = .error .promptFailed ↔ Broken h := by
  cases hc with
  | wrongTrigger => simp [not_broken_nil]
  | captureFailed => simp [broken_cons, not_broken_nil, Exchange.isCrash, noticed]
  | submitted _ ht hs =>
    rw [broken_append, promptFailed_iff_of_submission hs]
    simp [not_broken_taken ht]

end LinkShot.Action

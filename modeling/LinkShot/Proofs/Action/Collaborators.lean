import LinkShot.Proofs.Action.Run

/-!
Collaborators with a state of their own: what they reply depends on all that they did before. The
token is not theirs; it is looked at between the calls.
-/
namespace LinkShot.Action

structure Collaborators (σ : Type) where
  capture : Capture.Mode → StateM σ (Except Capture.Error Text.Bytes)
  clipboard : StateM σ ClipboardReply
  prompt : Question → StateM σ PromptReply
  random : StateM σ RandomWord
  transport : Request.Prepared → StateM σ (Except DispatchError String)
  copy : String → StateM σ CopyReply
  log : String → StateM σ LogReply
  notify : Notification → StateM σ Unit

/-- Nothing shows that the token was cancelled. -/
def Exchange.Calm : Exchange → Prop
  | ⟨.poll, cancelled⟩ => cancelled = false
  | ⟨.send _, .cancelled⟩ => False
  | _ => True

namespace Collaborators

variable {σ α : Type} {k : Collaborators σ} {s t u : σ} {h h₁ h₂ : List Exchange}
  {r q : Routine α} {a : α}

/-- Replies with a token that nobody cancels. -/
def reply (k : Collaborators σ) : (c : Call) → StateM σ c.Reply
  | .capture mode => k.capture mode
  | .clipboard => k.clipboard
  | .prompt question => k.prompt question
  | .random => k.random
  | .poll => pure false
  | .send request => SendReply.answered <$> k.transport request
  | .copy text => k.copy text
  | .log text => k.log text
  | .notify notification => k.notify notification

/-- The exchange is theirs, also if the token is cancelled: a transport that is given up has been
called. -/
def Serves (k : Collaborators σ) : Exchange → σ → σ → Prop
  | ⟨.poll, _⟩, s, t => t = s
  | ⟨.send request, .cancelled⟩, s, t => t = ((k.transport request).run s).2
  | ⟨c, reply⟩, s, t => (k.reply c).run s = (reply, t)

/-- They serve these exchanges one after another. -/
inductive Plays (k : Collaborators σ) : σ → List Exchange → σ → Prop where
  | nil (s : σ) : Plays k s [] s
  | cons {s t u : σ} {e : Exchange} {h : List Exchange} :
      k.Serves e s t → Plays k t h u → Plays k s (e :: h) u

/-- Replies and keeps a record of the exchanges. -/
def record (k : Collaborators σ) (c : Call) : StateM (σ × List Exchange) c.Reply :=
  fun (s, h) =>
    let (reply, t) := (k.reply c).run s
    (reply, (t, h ++ [⟨c, reply⟩]))

theorem plays_append : k.Plays s (h₁ ++ h₂) u ↔ ∃ t, k.Plays s h₁ t ∧ k.Plays t h₂ u := by
  constructor
  · intro hp
    induction h₁ generalizing s with
    | nil => exact ⟨s, .nil s, hp⟩
    | cons e h₁ ih =>
      cases hp with
      | cons hs hp =>
        obtain ⟨t, h₁, h₂⟩ := ih hp
        exact ⟨t, .cons hs h₁, h₂⟩
  · rintro ⟨t, hp₁, hp₂⟩
    induction hp₁ with
    | nil => exact hp₂
    | cons hs _ ih => exact .cons hs (ih hp₂)

theorem reply_of_serves {e : Exchange} (hs : k.Serves e s t) (hc : e.Calm) :
    (k.reply e.call).run s = (e.reply, t) := by
  obtain ⟨c, reply⟩ := e
  cases c with
  | poll =>
    cases hc
    cases hs
    rfl
  | send request =>
    cases reply with
    | answered response => exact hs
    | cancelled => exact hc.elim
  | _ => exact hs

/-- A calm run goes as the collaborators' own run of the routine. -/
theorem runWith_of_leads (hr : r.Leads h q) (hp : k.Plays s h t) (hc : ∀ e ∈ h, e.Calm)
    (before : List Exchange) :
    (r.runWith k.record).run (s, before) = (q.runWith k.record).run (t, before ++ h) := by
  induction hr generalizing s before with
  | refl =>
    cases hp
    simp
  | @answer c next reply h q _ ih =>
    cases hp with
    | cons hs hp =>
      have hreply := reply_of_serves hs (hc _ List.mem_cons_self)
      have hrest := ih hp (fun e he => hc e (List.mem_cons_of_mem _ he)) (before ++ [⟨c, reply⟩])
      rw [List.append_assoc] at hrest
      change ((next ((k.reply c).run s).1).runWith k.record).run
        (((k.reply c).run s).2, before ++ [⟨c, ((k.reply c).run s).1⟩]) = _
      rw [hreply]
      exact hrest

theorem runWith_of_returns (hr : r.Returns h a) (hp : k.Plays s h t) (hc : ∀ e ∈ h, e.Calm) :
    (r.runWith k.record).run (s, []) = (a, (t, h)) :=
  runWith_of_leads hr hp hc []

/-- A record only grows. -/
theorem record_grows (r : Routine α) (s : σ) (before : List Exchange) :
    before <+: ((r.runWith k.record).run (s, before)).2.2 := by
  induction r generalizing s before with
  | done a => exact List.prefix_refl _
  | ask c next ih =>
    exact (List.prefix_append _ _).trans (ih _ _ _)

end Collaborators
end LinkShot.Action

import LinkShot.Action.Script

/-!
Runs of routines. A run is a list of exchanges, calls with the replies that they got; collaborators
may reply as they like, so the runs are all the behaviours that collaborators can have.
-/
namespace LinkShot.Action

structure Exchange where
  call : Call
  reply : call.Reply

def calls (h : List Exchange) : List Call := h.map Exchange.call

namespace Routine

variable {α β : Type} {r s t : Routine α} {f : α → Routine β} {h h₁ h₂ : List Exchange}
  {a : α} {b : β} {c : Call}

/-- The routine goes on as another one after these exchanges. -/
inductive Leads : Routine α → List Exchange → Routine α → Prop where
  | refl (r : Routine α) : Leads r [] r
  | answer {c : Call} {next : c.Reply → Routine α} {reply : c.Reply} {h : List Exchange}
      {r : Routine α} : Leads (next reply) h r → Leads (.ask c next) (⟨c, reply⟩ :: h) r

/-- A run that has come to its end. -/
def Returns (r : Routine α) (h : List Exchange) (a : α) : Prop := r.Leads h (.done a)

/-- The call that the routine waits for. -/
def pending : Routine α → List Call
  | .done _ => []
  | .ask c _ => [c]

/-- The calls that have been made when `r` is left: the last may be unanswered. -/
def made (h : List Exchange) (r : Routine α) : List Call := calls h ++ r.pending

/-- All the calls that the routine can make, whatever is replied, are of a kind. -/
def Only (kind : Call → Bool) : Routine α → Prop
  | .done _ => True
  | .ask c next => kind c = true ∧ ∀ reply, (next reply).Only kind

theorem leads_trans (hr : r.Leads h₁ s) (hs : s.Leads h₂ t) : r.Leads (h₁ ++ h₂) t := by
  induction hr with
  | refl => exact hs
  | answer _ ih => exact .answer (ih hs)

theorem leads_snoc {next : c.Reply → Routine α} (hr : r.Leads h (.ask c next)) (reply : c.Reply) :
    r.Leads (h ++ [⟨c, reply⟩]) (next reply) :=
  leads_trans hr (.answer (.refl _))

@[simp] theorem leads_done_iff : (Routine.done a).Leads h s ↔ h = [] ∧ s = .done a := by
  constructor
  · intro hr
    cases hr
    exact ⟨rfl, rfl⟩
  · rintro ⟨rfl, rfl⟩
    exact .refl _

theorem leads_ask_iff {next : c.Reply → Routine α} :
    (Routine.ask c next).Leads h s ↔ (h = [] ∧ s = .ask c next) ∨
      ∃ reply rest, h = ⟨c, reply⟩ :: rest ∧ (next reply).Leads rest s := by
  constructor
  · intro hr
    cases hr with
    | refl => exact .inl ⟨rfl, rfl⟩
    | answer hr => exact .inr ⟨_, _, rfl, hr⟩
  · rintro (⟨rfl, rfl⟩ | ⟨reply, rest, rfl, hr⟩)
    · exact .refl _
    · exact .answer hr

@[simp] theorem returns_pure_iff {a' : α} :
    (pure a : Routine α).Returns h a' ↔ h = [] ∧ a' = a := by
  simp [Returns, pure, eq_comm]

theorem returns_ask_iff {next : c.Reply → Routine α} :
    (Routine.ask c next).Returns h a ↔
      ∃ reply rest, h = ⟨c, reply⟩ :: rest ∧ (next reply).Returns rest a := by
  simp [Returns, leads_ask_iff]

theorem returns_bind_iff :
    (r >>= f).Returns h b ↔ ∃ a h₁ h₂, h = h₁ ++ h₂ ∧ r.Returns h₁ a ∧ (f a).Returns h₂ b := by
  constructor
  · intro hr
    induction r generalizing h with
    | done a => exact ⟨a, [], h, rfl, .refl _, hr⟩
    | ask c next ih =>
      obtain ⟨reply, rest, rfl, hnext⟩ := returns_ask_iff.mp hr
      obtain ⟨a, h₁, h₂, rfl, ha, hb⟩ := ih reply hnext
      exact ⟨a, ⟨c, reply⟩ :: h₁, h₂, rfl, .answer ha, hb⟩
  · rintro ⟨a, h₁, h₂, rfl, ha, hb⟩
    induction r generalizing h₁ with
    | done a' =>
      obtain ⟨rfl, he⟩ := leads_done_iff.mp ha
      cases he
      exact hb
    | ask c next ih =>
      obtain ⟨reply, rest, rfl, hnext⟩ := returns_ask_iff.mp ha
      exact .answer (ih reply rest hnext)

theorem only_bind {kind : Call → Bool} (hr : r.Only kind) (hf : ∀ a, (f a).Only kind) :
    (r >>= f).Only kind := by
  induction r with
  | done a => exact hf a
  | ask c next ih => exact ⟨hr.1, fun reply => ih reply (hr.2 reply)⟩

theorem only_call {kind : Call → Bool} (hc : kind c = true) : (Routine.call c).Only kind :=
  ⟨hc, fun _ => trivial⟩

theorem calls_of_only {kind : Call → Bool} (hk : r.Only kind) (hr : r.Leads h s) :
    ∀ c ∈ calls h, kind c = true := by
  induction hr with
  | refl => simp [calls]
  | answer _ ih =>
    intro c hc
    rcases List.mem_cons.mp hc with rfl | hc
    · exact hk.1
    · exact ih (hk.2 _) c hc

theorem returns_call_bind_iff {f : c.Reply → Routine β} :
    (Routine.call c >>= f).Returns h b ↔
      ∃ reply rest, h = ⟨c, reply⟩ :: rest ∧ (f reply).Returns rest b :=
  returns_ask_iff

theorem exists_reply : ∀ c : Call, Nonempty c.Reply
  | .capture _ => ⟨.ok []⟩
  | .clipboard => ⟨.crash⟩
  | .prompt _ => ⟨.crash⟩
  | .random => ⟨.ofPicks fun _ => 0⟩
  | .poll => ⟨true⟩
  | .send _ => ⟨.cancelled⟩
  | .copy _ => ⟨.crash⟩
  | .log _ => ⟨.logged⟩
  | .notify _ => ⟨()⟩

/-- Routines are finite: whatever is replied, every run can be brought to its end. -/
theorem exists_returns (r : Routine α) : ∃ h a, r.Returns h a := by
  induction r with
  | done a => exact ⟨[], a, .refl _⟩
  | ask c next ih =>
    obtain ⟨reply⟩ := exists_reply c
    obtain ⟨h, a, hr⟩ := ih reply
    exact ⟨⟨c, reply⟩ :: h, a, .answer hr⟩

/-- What has been made of a run is the beginning of what will have been made of it. -/
theorem made_grows (hs : s.Leads h₂ t) : made h₁ s <+: made (h₁ ++ h₂) t := by
  cases hs with
  | refl => simp
  | @answer c next reply rest _ _ =>
    refine ⟨calls rest ++ t.pending, ?_⟩
    simp [made, pending, calls]

/-- A call that is not among the first ones is made after all of them are answered. -/
theorem prefix_of_made (hs : s.Leads h₂ t) (hc : c ∈ made h₁ s) {first rest : List Exchange}
    (he : h₁ ++ h₂ = first ++ rest) (hn : c ∉ calls first) : first <+: h₁ := by
  rcases List.append_eq_append_iff.mp he with ⟨late, hfirst, hh⟩ | ⟨late, hh, _⟩
  · cases hs with
    | refl =>
      have hl : late = [] := by simp_all
      simp [hfirst, hl]
    | answer hs =>
      cases late with
      | nil => simp [hfirst]
      | cons e late =>
        obtain ⟨rfl, _⟩ := List.cons.inj hh
        refine absurd ?_ hn
        simpa [made, pending, calls, hfirst, or_assoc] using Or.inl hc
  · exact ⟨late, hh.symm⟩

end Routine
end LinkShot.Action

import LinkShot.Proofs.Action.Cancelling
import LinkShot.Proofs.CancelToken
import LinkShot.Proofs.Manager.Sequential

/-!
Whom a cancel call reaches. Each action has a token of its own, which the worker holds out to the
clients from before the action begins until after it has ended; a call cancels the token that is
held out, and no other token ever changes.
-/
namespace LinkShot.Manager


variable {m n : Manager} {l : Label} {ls before since : List Label} {job : Job} {i : Nat}
  {outcome : Outcome}

/-- The tokens of all actions, and the one that is held out. -/
structure Custody where
  pool : TokenPool
  slot : Option Nat

namespace Custody

def initial : Custody := ⟨⟨[], [], []⟩, none⟩

/-- What a step does to the tokens. -/
def next (c : Custody) : Label → Custody
  | .work (.taken _) => ⟨(c.pool.apply .make).2, some c.pool.tokens.length⟩
  | .work (.ended _ _) => { c with slot := none }
  | .cancel _ => match c.slot with
    | some token => { c with pool := (c.pool.apply (.cancel token)).2 }
    | none => c
  | _ => c

end Custody

def custody (ls : List Label) : Custody := ls.foldl Custody.next .initial

/-- The flag of the action that is the `i`-th to be done. -/
def flag (ls : List Label) (i : Nat) : Bool := (custody ls).pool.isCancelled i

def Label.isArming : Label → Bool
  | .work (.taken _) => true
  | _ => false

def Label.isDisarming : Label → Bool
  | .work (.ended _ _) => true
  | _ => false

def armings (ls : List Label) : Nat := ls.countP Label.isArming

def disarmings (ls : List Label) : Nat := ls.countP Label.isDisarming

/-- The token of the `i`-th action is held out: it has been put into reach and not been taken
back. -/
def Holds (ls : List Label) (i : Nat) : Prop := armings ls = i + 1 ∧ disarmings ls = i

/-- It happened while the token of the `i`-th action was held out. -/
def During (i : Nat) (l : Label) (ls : List Label) : Prop :=
  ∃ before after, ls = before ++ l :: after ∧ Holds before i

theorem custody_snoc (ls : List Label) (l : Label) :
    custody (ls ++ [l]) = (custody ls).next l := by
  simp [custody]

theorem armings_snoc (ls : List Label) (l : Label) :
    armings (ls ++ [l]) = armings ls + if l.isArming then 1 else 0 := by
  simp [armings, List.countP_append, List.countP_singleton]

theorem disarmings_snoc (ls : List Label) (l : Label) :
    disarmings (ls ++ [l]) = disarmings ls + if l.isDisarming then 1 else 0 := by
  simp [disarmings, List.countP_append, List.countP_singleton]

theorem during_snoc {l' : Label} :
    During i l (ls ++ [l']) ↔ During i l ls ∨ (l' = l ∧ Holds ls i) := by
  constructor
  · rintro ⟨before, after, hls, hh⟩
    rcases List.eq_nil_or_concat after with rfl | ⟨after, last, rfl⟩
    · obtain ⟨rfl, hl⟩ := List.append_inj' hls rfl
      cases hl
      exact .inr ⟨rfl, hh⟩
    · rw [List.concat_eq_append, ← List.cons_append, ← List.append_assoc] at hls
      exact .inl ⟨before, after, (List.append_inj' hls rfl).1, hh⟩
  · rintro (⟨before, after, rfl, hh⟩ | ⟨rfl, hh⟩)
    · exact ⟨before, after ++ [l'], by simp, hh⟩
    · exact ⟨ls, [], rfl, hh⟩

theorem holds_unique {j : Nat} (hi : Holds ls i) (hj : Holds ls j) : i = j := hi.2.symm.trans hj.2

theorem during_lt (hd : During i l ls) : i < armings ls := by
  obtain ⟨before, after, rfl, hh⟩ := hd
  have hcount := hh.1
  simp only [armings, List.countP_append] at hcount ⊢
  omega

/-- A step that is no cancel call cancels no token. -/
theorem cancelled_during_snoc (hl : ∀ b, l = .cancel b → ¬ Holds ls i) :
    (∃ b, During i (.cancel b) (ls ++ [l])) ↔ ∃ b, During i (.cancel b) ls := by
  constructor
  · rintro ⟨b, hd⟩
    rcases during_snoc.mp hd with hd | ⟨rfl, hh⟩
    · exact ⟨b, hd⟩
    · exact absurd hh (hl b rfl)
  · rintro ⟨b, hd⟩
    exact ⟨b, during_snoc.mpr (.inl hd)⟩

/-- The tokens of a history: as many as actions were begun, each of a family of its own; the slot
holds the one that is held out, whose flag is the manager's; and the flags tell who was
cancelled. -/
structure Kept (ls : List Label) (m : Manager) : Prop where
  live : ∀ i, i < armings ls → (custody ls).pool.family? i = some i
  tokens : (custody ls).pool.tokens.length = armings ls
  families : (custody ls).pool.families.length = armings ls
  slot : ∀ i, (custody ls).slot = some i ↔ Holds ls i
  token : ∀ i, Holds ls i → flag ls i = m.token
  flags : ∀ i, flag ls i = true ↔ ∃ b, During i (.cancel b) ls

theorem kept_start : Kept [] .initial where
  live i hi := absurd hi (Nat.not_lt_zero i)
  tokens := rfl
  families := rfl
  slot i := by simp [custody, Custody.initial, Holds, armings]
  token i hh := by simp [Holds, armings] at hh
  flags i := by
    constructor
    · intro hf
      cases hf
    · rintro ⟨b, hd⟩
      exact absurd (during_lt hd) (Nat.not_lt_zero i)

/-- Where the tokens stay as they are, only the slot and the manager's flag are left to be seen
to. -/
theorem kept_of_pool (hk : Kept ls m) (hp : (custody (ls ++ [l])).pool = (custody ls).pool)
    (ha : l.isArming = false) (hl : ∀ i b, l = .cancel b → ¬ Holds ls i)
    (hslot : ∀ i, (custody (ls ++ [l])).slot = some i ↔ Holds (ls ++ [l]) i)
    (htoken : ∀ i, Holds (ls ++ [l]) i → flag ls i = n.token) : Kept (ls ++ [l]) n := by
  have harmings : armings (ls ++ [l]) = armings ls := by simp [armings_snoc, ha]
  have hflag (i : Nat) : flag (ls ++ [l]) i = flag ls i := by rw [flag, flag, hp]
  constructor
  · rw [hp, harmings]
    exact hk.live
  · rw [hp, harmings]
    exact hk.tokens
  · rw [hp, harmings]
    exact hk.families
  · exact hslot
  · intro i hh
    rw [hflag, htoken i hh]
  · intro i
    rw [hflag, cancelled_during_snoc (hl i)]
    exact hk.flags i

/-- A step that leaves the tokens and the slot alone. -/
theorem kept_same (hk : Kept ls m) (hc : (custody ls).next l = custody ls)
    (ha : l.isArming = false) (hd : l.isDisarming = false)
    (hl : ∀ i b, l = .cancel b → ¬ Holds ls i) (ht : n.token = m.token) : Kept (ls ++ [l]) n := by
  have hcustody : custody (ls ++ [l]) = custody ls := by rw [custody_snoc, hc]
  have hholds (i : Nat) : Holds (ls ++ [l]) i ↔ Holds ls i := by
    simp [Holds, armings_snoc, disarmings_snoc, ha, hd]
  refine kept_of_pool hk (by rw [hcustody]) ha hl ?_ ?_
  · intro i
    rw [hcustody, hholds]
    exact hk.slot i
  · intro i hh
    rw [ht]
    exact hk.token i ((hholds i).mp hh)

theorem kept_arm (hk : Kept ls m) (heq : armings ls = disarmings ls) (ht : n.token = false) :
    Kept (ls ++ [.work (.taken job)]) n := by
  have hcustody : custody (ls ++ [.work (.taken job)]) =
      ⟨((custody ls).pool.apply .make).2, some (armings ls)⟩ := by
    rw [custody_snoc, ← hk.tokens]
    rfl
  have harmings : armings (ls ++ [.work (.taken job)]) = armings ls + 1 := armings_snoc _ _
  have hholds (i : Nat) : Holds (ls ++ [.work (.taken job)]) i ↔ armings ls = i := by
    simp [Holds, harmings, disarmings_snoc, Label.isDisarming, heq]
  have hflag (i : Nat) : flag (ls ++ [.work (.taken job)]) i = flag ls i := by
    rw [flag, flag, hcustody, TokenPool.isCancelled_make]
  constructor
  · intro i hi
    rw [hcustody]
    rw [harmings] at hi
    by_cases hlt : i < armings ls
    · have hold := hk.live i hlt
      simp only [TokenPool.family?, TokenPool.apply] at hold ⊢
      rwa [List.getElem?_append_left (by rw [hk.tokens]; exact hlt)]
    · have hnew : i = (custody ls).pool.tokens.length := by
        rw [hk.tokens]
        omega
      simp [TokenPool.family?, TokenPool.apply, hnew, hk.families, hk.tokens]
  · rw [hcustody, harmings]
    simp [TokenPool.apply, hk.tokens]
  · rw [hcustody, harmings]
    simp [TokenPool.apply, hk.families]
  · intro i
    rw [hcustody, hholds]
    simp
  · intro i hh
    obtain rfl := (hholds i).mp hh
    rw [hflag, ht, ← Bool.not_eq_true, hk.flags]
    rintro ⟨b, hd⟩
    exact absurd (during_lt hd) (Nat.lt_irrefl _)
  · intro i
    rw [hflag, cancelled_during_snoc (by simp)]
    exact hk.flags i

theorem kept_disarm (hk : Kept ls m) (heq : armings ls = disarmings ls + 1) :
    Kept (ls ++ [.work (.ended job outcome)]) n := by
  have hcustody : custody (ls ++ [.work (.ended job outcome)]) = ⟨(custody ls).pool, none⟩ :=
    custody_snoc _ _
  have hholds (i : Nat) : ¬ Holds (ls ++ [.work (.ended job outcome)]) i := by
    rintro ⟨ha, hd⟩
    have harmings : armings (ls ++ [.work (.ended job outcome)]) = armings ls := armings_snoc _ _
    rw [harmings] at ha
    simp only [disarmings_snoc, Label.isDisarming, if_true] at hd
    omega
  refine kept_of_pool hk (by rw [hcustody]) rfl (by simp) ?_ ?_
  · intro i
    simp [hcustody, hholds]
  · intro i hh
    exact absurd hh (hholds i)

theorem kept_reach {b : Bool} (hk : Kept ls m) (hh : Holds ls i) (ht : n.token = true) :
    Kept (ls ++ [.cancel b]) n := by
  have hi : i < armings ls := by
    rw [hh.1]
    exact Nat.lt_succ_self i
  have hfamily : i < (custody ls).pool.families.length := by rwa [hk.families]
  have hcustody : custody (ls ++ [.cancel b]) =
      ⟨((custody ls).pool.apply (.cancel i)).2, some i⟩ := by
    rw [custody_snoc, ← (hk.slot i).mpr hh]
    simp only [Custody.next, (hk.slot i).mpr hh]
  have hpool : ((custody ls).pool.apply (.cancel i)).2 = (custody ls).pool.cancelFamily i := by
    simp only [TokenPool.apply, hk.live i hi]
  have hholds (j : Nat) : Holds (ls ++ [.cancel b]) j ↔ Holds ls j := by
    simp [Holds, armings_snoc, disarmings_snoc, Label.isArming, Label.isDisarming]
  have harmings : armings (ls ++ [.cancel b]) = armings ls := armings_snoc _ _
  have hflag (j : Nat) : flag (ls ++ [.cancel b]) j = true ↔ j = i ∨ flag ls j = true := by
    rw [flag, hcustody]
    exact TokenPool.isCancelled_cancel (hk.live i hi) hfamily
  constructor
  · rw [hcustody, harmings, hpool]
    exact hk.live
  · rw [hcustody, harmings, hpool]
    exact hk.tokens
  · rw [hcustody, harmings, hpool]
    simpa [TokenPool.cancelFamily] using hk.families
  · intro j
    rw [hcustody, hholds, ← hk.slot j, (hk.slot i).mpr hh]
  · intro j hj
    rw [ht, hflag]
    exact .inl (holds_unique ((hholds j).mp hj) hh)
  · intro j
    rw [hflag, hk.flags]
    constructor
    · rintro (rfl | ⟨b', hd⟩)
      · exact ⟨b, during_snoc.mpr (.inr ⟨rfl, hh⟩)⟩
      · exact ⟨b', during_snoc.mpr (.inl hd)⟩
    · rintro ⟨b', hd⟩
      rcases during_snoc.mp hd with hd | ⟨_, hj⟩
      · exact .inr ⟨b', hd⟩
      · exact .inl (holds_unique hj hh)

variable [Regex.Engine]

/-- Tokens are put into reach and taken back in turn. -/
theorem armings_eq (hr : Reached ls m) :
    armings ls = disarmings ls + if m.phase.holdsToken then 1 else 0 := by
  induction hr with
  | start => rfl
  | step _ hs ih =>
    rw [armings_snoc, disarmings_snoc]
    cases moves_of_step hs with
    | take hw | arm hw | begin hw | finish hw | disarm hw | publish hw | call hw =>
      rw [hw] at ih
      simp_all [Phase.holdsToken, Label.isArming, Label.isDisarming]
    | request | refuse | reach | miss | stop => simpa [Label.isArming, Label.isDisarming] using ih

theorem holds_iff (hr : Reached ls m) : Holds ls i ↔ m.armed = true ∧ disarmings ls = i := by
  have hcount := armings_eq hr
  rw [Holds, armed_eq hr]
  cases hp : m.phase.holdsToken <;> simp [hp] at hcount ⊢ <;> omega

/-- As long as the worker is at an action, the token of that action is held out. -/
theorem holds_of_phase (hr : Reached ls m) (hp : m.phase.holdsToken = true) :
    Holds ls (disarmings ls) :=
  (holds_iff hr).mpr ⟨(armed_eq hr).trans hp, rfl⟩

theorem not_holds (hr : Reached ls m) (ha : m.armed = false) (i : Nat) : ¬ Holds ls i := by
  rw [holds_iff hr, ha]
  simp

/-- A call that comes while no token is held out finds the slot empty. -/
theorem next_of_miss {b : Bool} (hr : Reached ls m) (hk : Kept ls m) (ha : m.armed = false) :
    (custody ls).next (.cancel b) = custody ls := by
  have hempty : (custody ls).slot = none := by
    rw [Option.eq_none_iff_forall_ne_some]
    intro i hi
    exact not_holds hr ha i ((hk.slot i).mp hi)
  simp only [Custody.next, hempty]

theorem kept_step (hr : Reached ls m) (hk : Kept ls m) (hs : Step m l n) : Kept (ls ++ [l]) n := by
  have hcount := armings_eq hr
  cases moves_of_step hs with
  | take | begin | finish | publish | call | request | refuse | stop =>
    exact kept_same hk rfl rfl rfl (by simp) rfl
  | arm hw =>
    rw [hw] at hcount
    exact kept_arm hk (by simpa [Phase.holdsToken] using hcount) rfl
  | disarm hw =>
    rw [hw] at hcount
    exact kept_disarm hk (by simpa [Phase.holdsToken] using hcount)
  | reach ha => exact kept_reach hk ((holds_iff hr).mpr ⟨ha, rfl⟩) rfl
  | miss ha =>
    exact kept_same hk (next_of_miss hr hk ha) rfl rfl (fun i _ _ => not_holds hr ha i) rfl

theorem kept_reached (hr : Reached ls m) : Kept ls m := by
  induction hr with
  | start => exact kept_start
  | step hr hs ih => exact kept_step hr ih hs

end LinkShot.Manager

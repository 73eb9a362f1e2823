import LinkShot.Proofs.CancelToken
import Mathlib.Logic.Relation

/-!
Runs of a pool of tokens: operations and single steps of waiters in any order. Each token that was
ever made has a family, also after it is dropped; tokens are related by clones exactly when they
have the same one, and the flag of a family tells whether any of its tokens was cancelled.
-/
namespace LinkShot.TokenPool

inductive Label where
  | call (op : Op) (answer : Answer)
  | move (waiter : Nat)
  deriving DecidableEq

variable {p q r : TokenPool} {l : Label} {ls ls' : List Label} {origin : List Nat} {t u f i : Nat}
  {w : Waiter}

/-- No token has been made yet. -/
def empty : TokenPool := ⟨[], [], []⟩

def moved (p : TokenPool) (i : Nat) (w : Waiter) : TokenPool :=
  { p with waiters := p.waiters.set i (p.advance w) }

inductive Step (p : TokenPool) : Label → TokenPool → Prop where
  | call (op : Op) : Step p (.call op (p.apply op).1) (p.apply op).2
  | move {i : Nat} {w : Waiter} : p.waiters[i]? = some w → Step p (.move i) (p.moved i w)

/-- Steps from a first pool, with what happened in them. -/
inductive Runs (first : TokenPool) : List Label → TokenPool → Prop where
  | start : Runs first [] first
  | step {ls : List Label} {p q : TokenPool} {l : Label} :
      Runs first ls p → Step p l q → Runs first (ls ++ [l]) q

/-- The second token was made from the first. -/
def Cloned (ls : List Label) (t u : Nat) : Prop := .call (.clone t) (.index u) ∈ ls

/-- Clones lead from one token to the other, each from a token to its clone or back. -/
def Related (ls : List Label) : Nat → Nat → Prop := Relation.EqvGen (Cloned ls)

/-- A call came to cancel the token while it was live. -/
def Called (ls : List Label) (t : Nat) : Prop := .call (.cancel t) .nothing ∈ ls

/-- A waiter was started with the token. -/
def Started (ls : List Label) (t i : Nat) : Prop := .call (.wait t) (.index i) ∈ ls

/-- A related token was told to cancel. -/
def Cancelled (ls : List Label) (t : Nat) : Prop := ∃ u, Called ls u ∧ Related ls t u

theorem runs_trans (hp : Runs p ls q) (hq : Runs q ls' r) : Runs p (ls ++ ls') r := by
  induction hq with
  | start => simpa using hp
  | step _ hs ih =>
    rw [← List.append_assoc]
    exact ih.step hs

theorem related_mono (h : Related ls t u) : Related (ls ++ ls') t u := by
  induction h with
  | rel t u hc => exact .rel t u (List.mem_append_left _ hc)
  | refl t => exact .refl t
  | symm t u _ ih => exact .symm t u ih
  | trans t u v _ _ ih₁ ih₂ => exact .trans t u v ih₁ ih₂

/-- A waiter that sleeps has seen a version at which the flag was not set. -/
def Minded (p : TokenPool) (w : Waiter) : Prop :=
  match w.phase with
  | .looking => True
  | .sleeping seen => seen ≤ (p.familyAt w.family).version ∧
      ((p.familyAt w.family).version = seen → p.isCancelled w.family = false)
  | .woken => p.isCancelled w.family = true
  | .abandoned => False

/-- The history of a pool, told by the family that each token was made for. -/
structure Kept (ls : List Label) (p : TokenPool) (origin : List Nat) : Prop where
  made : origin.length = p.tokens.length
  known : ∀ f ∈ origin, f < p.families.length
  live : ∀ t f, p.family? t = some f → origin[t]? = some f
  cloned : ∀ t u, Cloned ls t u → ∃ f, origin[t]? = some f ∧ origin[u]? = some f
  kin : ∀ t u f, origin[t]? = some f → origin[u]? = some f → Related ls t u
  called : ∀ u, Called ls u → u < origin.length
  flags : ∀ f, p.isCancelled f = true ↔ ∃ u, Called ls u ∧ origin[u]? = some f
  waits : ∀ t i, Started ls t i → ∃ w, p.waiters[i]? = some w ∧ origin[t]? = some w.family
  minded : ∀ w ∈ p.waiters, p.Minded w

theorem kept_start : Kept [] empty [] where
  made := rfl
  known := by simp
  live := by simp [family?, empty]
  cloned := by simp [Cloned]
  kin := by simp
  called := by simp [Called]
  flags := by simp [isCancelled, familyAt, empty, freshFamily]
  waits := by simp [Started]
  minded := by simp [empty]

/-- Related tokens have the same family. -/
theorem origin_of_related (hk : Kept ls p origin) (h : Related ls t u) :
    origin[t]? = origin[u]? := by
  induction h with
  | rel t u hc =>
    obtain ⟨f, ht, hu⟩ := hk.cloned t u hc
    rw [ht, hu]
  | refl => rfl
  | symm _ _ _ ih => exact ih.symm
  | trans _ _ _ _ _ ih₁ ih₂ => exact ih₁.trans ih₂

theorem isCancelled_iff (hk : Kept ls p origin) (ht : origin[t]? = some f) :
    p.isCancelled f = true ↔ Cancelled ls t := by
  rw [hk.flags]
  constructor
  · rintro ⟨u, hu, hf⟩
    exact ⟨u, hu, hk.kin t u f ht hf⟩
  · rintro ⟨u, hu, hr⟩
    exact ⟨u, hu, (origin_of_related hk hr).symm.trans ht⟩

theorem minded_of_families (hf : q.families = p.families) (hm : p.Minded w) : q.Minded w := by
  simpa only [Minded, isCancelled, familyAt, hf] using hm

/-- A step that neither makes a token nor sets a flag nor starts a waiter. -/
theorem kept_quiet (hk : Kept ls p origin) (hc : ∀ t u, l ≠ .call (.clone t) (.index u))
    (hd : ∀ u, l ≠ .call (.cancel u) .nothing) (hn : ∀ t i, l ≠ .call (.wait t) (.index i))
    (hf : q.families = p.families) (ht : q.tokens.length = p.tokens.length)
    (hlive : ∀ t f, q.family? t = some f → p.family? t = some f)
    (hw : ∀ (i : Nat) (w : Waiter), p.waiters[i]? = some w →
      ∃ w', q.waiters[i]? = some w' ∧ w'.family = w.family)
    (hm : ∀ w ∈ q.waiters, p.Minded w) : Kept (ls ++ [l]) q origin := by
  have hcloned (t u : Nat) : Cloned (ls ++ [l]) t u ↔ Cloned ls t u := by
    simp [Cloned, (hc t u).symm]
  have hcalled (u : Nat) : Called (ls ++ [l]) u ↔ Called ls u := by simp [Called, (hd u).symm]
  have hstarted (t i : Nat) : Started (ls ++ [l]) t i ↔ Started ls t i := by
    simp [Started, (hn t i).symm]
  constructor
  · exact hk.made.trans ht.symm
  · rw [hf]
    exact hk.known
  · exact fun t f h => hk.live t f (hlive t f h)
  · exact fun t u h => hk.cloned t u ((hcloned t u).mp h)
  · exact fun t u f ht hu => related_mono (hk.kin t u f ht hu)
  · exact fun u h => hk.called u ((hcalled u).mp h)
  · intro f
    have hsame : q.isCancelled f = p.isCancelled f := by simp [isCancelled, familyAt, hf]
    simp only [hsame, hk.flags, hcalled]
  · intro t i h
    obtain ⟨w, hold, ht⟩ := hk.waits t i ((hstarted t i).mp h)
    obtain ⟨w', hnew, hfamily⟩ := hw i w hold
    exact ⟨w', hnew, by rw [ht, hfamily]⟩
  · exact fun w h => minded_of_families hf (hm w h)

/-- A new token, for a family of its own or for that of the token that it is made from. -/
theorem kept_push (hk : Kept ls p origin) (hd : ∀ u, l ≠ .call (.cancel u) .nothing)
    (hn : ∀ t i, l ≠ .call (.wait t) (.index i))
    (hc : ∀ t u, l = .call (.clone t) (.index u) → u = origin.length ∧ origin[t]? = some f)
    (hkin : ∀ t, origin[t]? = some f → Related (ls ++ [l]) t origin.length)
    (ht : q.tokens = p.tokens ++ [some f]) (hw : q.waiters = p.waiters)
    (hf : f < q.families.length) (hle : p.families.length ≤ q.families.length)
    (hsame : ∀ g, q.familyAt g = p.familyAt g) : Kept (ls ++ [l]) q (origin ++ [f]) := by
  have hcalled (u : Nat) : Called (ls ++ [l]) u ↔ Called ls u := by simp [Called, (hd u).symm]
  have hold {t g : Nat} (h : origin[t]? = some g) : (origin ++ [f])[t]? = some g := by grind
  have hget {t g : Nat} : (origin ++ [f])[t]? = some g ↔
      origin[t]? = some g ∨ t = origin.length ∧ g = f := by grind
  constructor
  · simp [ht, hk.made]
  · intro g hg
    rcases List.mem_append.mp hg with hg | hg
    · exact Nat.lt_of_lt_of_le (hk.known g hg) hle
    · rwa [List.mem_singleton.mp hg]
  · intro t g h
    rw [hget]
    simp only [family?, ht, Option.join_eq_some_iff] at h
    have hlive := hk.live t g
    simp only [family?, Option.join_eq_some_iff] at hlive
    have hmade := hk.made
    grind
  · intro t u h
    rcases List.mem_append.mp h with h | h
    · obtain ⟨g, hg⟩ := hk.cloned t u h
      exact ⟨g, hold hg.1, hold hg.2⟩
    · obtain ⟨rfl, hg⟩ := hc t u (List.mem_singleton.mp h).symm
      exact ⟨f, hold hg, hget.mpr (.inr ⟨rfl, rfl⟩)⟩
  · intro t u g ht hu
    rcases hget.mp ht with ht | ⟨rfl, rfl⟩ <;> rcases hget.mp hu with hu | ⟨rfl, hg⟩
    · exact related_mono (hk.kin t u g ht hu)
    · exact hkin t (hg ▸ ht)
    · exact .symm _ _ (hkin u hu)
    · exact .refl _
  · intro u h
    have := hk.called u ((hcalled u).mp h)
    rw [List.length_append]
    omega
  · intro g
    have hflag : q.isCancelled g = p.isCancelled g := by simp [isCancelled, hsame]
    rw [hflag, hk.flags]
    constructor
    · rintro ⟨u, hu, hg⟩
      exact ⟨u, (hcalled u).mpr hu, hold hg⟩
    · rintro ⟨u, hu, hg⟩
      have hlt := hk.called u ((hcalled u).mp hu)
      rcases hget.mp hg with hg | ⟨rfl, -⟩
      · exact ⟨u, (hcalled u).mp hu, hg⟩
      · exact absurd hlt (Nat.lt_irrefl _)
  · intro t i h
    have h : Started ls t i := by simpa [Started, (hn t i).symm] using h
    obtain ⟨w, hin, hfamily⟩ := hk.waits t i h
    exact ⟨w, hw ▸ hin, hold hfamily⟩
  · intro w hin
    simpa only [Minded, isCancelled, hsame] using hk.minded w (hw ▸ hin)

theorem holders_of_live (h : p.family? t = some f) : p.holders f ≠ 0 := by
  rw [family?, Option.join_eq_some_iff] at h
  have hcount := List.count_pos_iff.mpr (List.mem_of_getElem? h)
  rw [holders]
  omega

/-- A waiter holds on to its family itself. -/
theorem holders_of_waiter (hw : w ∈ p.waiters) (hn : w.phase ≠ .woken) :
    p.holders w.family ≠ 0 := by
  have hcount : 0 < p.waiters.countP fun w' => w'.family == w.family && w'.phase != .woken :=
    List.countP_pos_iff.mpr ⟨w, hw, by simp [hn]⟩
  rw [holders]
  omega

theorem family_advance : (p.advance w).family = w.family := by
  cases hphase : w.phase <;> simp only [advance, hphase]
  split <;> (try split) <;> rfl

theorem minded_advance (hm : p.Minded w) (hw : w ∈ p.waiters) : p.Minded (p.advance w) := by
  cases hphase : w.phase with
  | looking =>
    cases hc : (p.familyAt w.family).cancelled <;> simp [advance, hphase, hc, Minded, isCancelled]
  | sleeping seen =>
    have hholders := holders_of_waiter hw (by simp [hphase])
    by_cases hv : (p.familyAt w.family).version = seen
    · simpa [advance, hphase, hv, hholders] using hm
    · simp [advance, hphase, hv, Minded]
  | woken | abandoned => simpa [advance, hphase] using hm

theorem kept_move (hk : Kept ls p origin) (hw : p.waiters[i]? = some w) :
    Kept (ls ++ [.move i]) (p.moved i w) origin := by
  refine kept_quiet hk (by simp) (by simp) (by simp) rfl rfl (fun _ _ h => h) ?_ ?_
  · intro j v hv
    by_cases hj : i = j
    · subst hj
      obtain rfl : w = v := by simpa [hw] using hv
      exact ⟨p.advance w, by simp [moved, List.getElem?_set_self', hw], family_advance⟩
    · exact ⟨v, by simp [moved, List.getElem?_set_ne hj, hv], rfl⟩
  · intro v hv
    have hin := List.mem_of_getElem? hw
    rcases List.mem_or_eq_of_mem_set hv with hv | rfl
    · exact hk.minded v hv
    · exact minded_advance (hk.minded w hin) hin

theorem kept_make (hk : Kept ls p origin) :
    Kept (ls ++ [.call .make (p.apply .make).1]) (p.apply .make).2
      (origin ++ [p.families.length]) := by
  refine kept_push hk (by simp) (by simp) (by simp) ?_ rfl rfl ?_ ?_ familyAt_make
  · intro t ht
    exact absurd (hk.known _ (List.mem_of_getElem? ht)) (Nat.lt_irrefl _)
  · simp [apply]
  · simp [apply]

theorem kept_clone (hk : Kept ls p origin) (h : p.family? t = some f) :
    Kept (ls ++ [.call (.clone t) (.index p.tokens.length)])
      { p with tokens := p.tokens ++ [some f] } (origin ++ [f]) := by
  have horigin := hk.live t f h
  rw [← hk.made]
  refine kept_push hk (by simp) (by simp) ?_ ?_ rfl rfl ?_ (Nat.le_refl _) fun _ => rfl
  · rintro t' u hl
    cases hl
    exact ⟨rfl, horigin⟩
  · intro u hu
    have hrel : Related (ls ++ [.call (.clone t) (.index origin.length)]) u t :=
      related_mono (hk.kin u t f hu horigin)
    exact .trans _ _ _ hrel (.rel _ _ (by simp [Cloned]))
  · exact hk.known f (List.mem_of_getElem? horigin)

theorem kept_drop (hk : Kept ls p origin) :
    Kept (ls ++ [.call (.drop t) .nothing]) { p with tokens := p.tokens.set t none } origin := by
  refine kept_quiet hk (by simp) (by simp) (by simp) rfl (by simp) ?_ (fun i w h => ⟨w, h, rfl⟩)
    hk.minded
  intro u g hg
  simp only [family?, Option.join_eq_some_iff] at hg ⊢
  grind

/-- A set flag wakes whoever has it, and misleads nobody who has seen an older version. -/
theorem minded_cancelFamily (hf : f < p.families.length) (hm : p.Minded w) :
    (p.cancelFamily f).Minded w := by
  by_cases hw : w.family = f
  · subst hw
    have hat : (p.cancelFamily w.family).familyAt w.family =
        ⟨true, (p.familyAt w.family).version + 1⟩ := by simp [familyAt, cancelFamily, hf]
    cases hphase : w.phase with
    | looking => simp [Minded, hphase]
    | sleeping seen =>
      simp only [Minded, hphase, hat] at hm ⊢
      omega
    | woken => simp [Minded, hphase, isCancelled, hat]
    | abandoned => simp [Minded, hphase] at hm
  · have hat : (p.cancelFamily f).familyAt w.family = p.familyAt w.family := by
      simp [familyAt, cancelFamily, Ne.symm hw]
    simpa only [Minded, isCancelled, hat] using hm

theorem kept_cancel (hk : Kept ls p origin) (h : p.family? t = some f) :
    Kept (ls ++ [.call (.cancel t) .nothing]) (p.cancelFamily f) origin := by
  have horigin := hk.live t f h
  have hf := hk.known f (List.mem_of_getElem? horigin)
  have hcalled (u : Nat) : Called (ls ++ [.call (.cancel t) .nothing]) u ↔ Called ls u ∨ u = t := by
    simp [Called]
  constructor
  · exact hk.made
  · simpa [cancelFamily] using hk.known
  · exact hk.live
  · intro u v hc
    exact hk.cloned u v (by simpa [Cloned] using hc)
  · exact fun u v g hu hv => related_mono (hk.kin u v g hu hv)
  · intro u hu
    rcases (hcalled u).mp hu with hu | rfl
    · exact hk.called u hu
    · exact (List.getElem?_eq_some_iff.mp horigin).1
  · intro g
    rw [isCancelled_cancelFamily hf, hk.flags]
    simp only [hcalled]
    grind
  · intro u i hs
    exact hk.waits u i (by simpa [Started] using hs)
  · exact fun w hw => minded_cancelFamily hf (hk.minded w hw)

theorem kept_wait (hk : Kept ls p origin) (h : p.family? t = some f) :
    Kept (ls ++ [.call (.wait t) (.index p.waiters.length)])
      { p with waiters := p.waiters ++ [⟨f, .looking⟩] } origin := by
  have hcalled (u : Nat) :
      Called (ls ++ [.call (.wait t) (.index p.waiters.length)]) u ↔ Called ls u := by simp [Called]
  constructor
  · exact hk.made
  · exact hk.known
  · exact hk.live
  · intro u v hc
    exact hk.cloned u v (by simpa [Cloned] using hc)
  · exact fun u v g hu hv => related_mono (hk.kin u v g hu hv)
  · exact fun u hu => hk.called u ((hcalled u).mp hu)
  · intro g
    simp only [hcalled]
    exact hk.flags g
  · intro u i hs
    rcases List.mem_append.mp hs with hs | hs
    · obtain ⟨w, hw, hu⟩ := hk.waits u i hs
      exact ⟨w, by grind, hu⟩
    · cases List.mem_singleton.mp hs
      exact ⟨⟨f, .looking⟩, by simp, hk.live t f h⟩
  · intro w hw
    rcases List.mem_append.mp hw with hw | hw
    · exact hk.minded w hw
    · rw [List.mem_singleton.mp hw]
      trivial

/-- An operation that changes nothing: a poll, or one on a token that is gone. -/
theorem kept_unchanged {op : Op} {answer : Answer} (hk : Kept ls p origin)
    (ha : answer = .gone ∨ ∃ b, answer = .ready b) : Kept (ls ++ [.call op answer]) p origin := by
  refine kept_quiet hk ?_ ?_ ?_ rfl rfl (fun _ _ h => h) (fun i w h => ⟨w, h, rfl⟩) hk.minded
  all_goals rcases ha with rfl | ⟨b, rfl⟩ <;> simp

theorem kept_apply (hk : Kept ls p origin) (op : Op) :
    ∃ origin', Kept (ls ++ [.call op (p.apply op).1]) (p.apply op).2 origin' := by
  cases op with
  | make => exact ⟨_, kept_make hk⟩
  | clone t =>
    cases h : p.family? t with
    | none => exact ⟨_, by simpa [apply, h] using kept_unchanged hk (.inl rfl)⟩
    | some f => exact ⟨_, by simpa [apply, h] using kept_clone hk h⟩
  | drop t =>
    cases h : p.family? t with
    | none => exact ⟨_, by simpa [apply, h] using kept_unchanged hk (.inl rfl)⟩
    | some f => exact ⟨_, by simpa [apply, h] using kept_drop hk⟩
  | cancel t =>
    cases h : p.family? t with
    | none => exact ⟨_, by simpa [apply, h] using kept_unchanged hk (.inl rfl)⟩
    | some f => exact ⟨_, by simpa [apply, h] using kept_cancel hk h⟩
  | poll t =>
    cases h : p.family? t with
    | none => exact ⟨_, by simpa [apply, h] using kept_unchanged hk (.inl rfl)⟩
    | some f => exact ⟨_, by simpa [apply, h] using kept_unchanged hk (.inr ⟨_, rfl⟩)⟩
  | wait t =>
    cases h : p.family? t with
    | none => exact ⟨_, by simpa [apply, h] using kept_unchanged hk (.inl rfl)⟩
    | some f => exact ⟨_, by simpa [apply, h] using kept_wait hk h⟩

theorem kept_step (hk : Kept ls p origin) (hs : Step p l q) :
    ∃ origin', Kept (ls ++ [l]) q origin' := by
  cases hs with
  | call op => exact kept_apply hk op
  | move hw => exact ⟨origin, kept_move hk hw⟩

theorem kept_runs (hr : Runs empty ls p) : ∃ origin, Kept ls p origin := by
  induction hr with
  | start => exact ⟨[], kept_start⟩
  | step _ hs ih =>
    obtain ⟨origin, hk⟩ := ih
    exact kept_step hk hs

end LinkShot.TokenPool

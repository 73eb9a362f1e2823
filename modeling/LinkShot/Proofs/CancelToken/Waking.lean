import LinkShot.Proofs.CancelToken.Run

/-!
No wake-up is lost. A waiter that sleeps has seen an older version than the one that a cancel call
leaves, wherever between its look at the flag and its sleep the call came; so two of its own steps
wake it.
-/
namespace LinkShot.TokenPool

variable {p q : TokenPool} {l : Label} {ls ls' : List Label} {origin : List Nat} {t f i : Nat}
  {w : Waiter}

/-- How many steps a waiter is from being woken once its family is cancelled. -/
def stepsLeft : WaiterPhase → Nat
  | .woken => 0
  | .looking => 1
  | .sleeping _ | .abandoned => 2

theorem stepsLeft_eq_zero_iff {phase : WaiterPhase} : stepsLeft phase = 0 ↔ phase = .woken := by
  cases phase <;> simp [stepsLeft]

/-- In a cancelled family every step leads on. -/
theorem stepsLeft_advance (hm : p.Minded w) (hc : p.isCancelled w.family = true) :
    stepsLeft (p.advance w).phase ≤ stepsLeft w.phase - 1 := by
  have hflag : (p.familyAt w.family).cancelled = true := hc
  cases hphase : w.phase with
  | looking => simp [advance, hphase, hflag, stepsLeft]
  | sleeping seen =>
    simp only [Minded, hphase, hc] at hm
    have hversion : (p.familyAt w.family).version ≠ seen := fun he => by simpa using hm.2 he
    simp [advance, hphase, hversion, stepsLeft]
  | woken => simp [advance, hphase, stepsLeft]
  | abandoned => simp [Minded, hphase] at hm

/-- A waiter changes by its own steps only. -/
theorem waiter_of_step (hs : Step p l q) (hl : l ≠ .move i) (hw : p.waiters[i]? = some w) :
    q.waiters[i]? = some w := by
  cases hs with
  | move hv =>
    rename_i j v
    have hne : j ≠ i := fun he => hl (by rw [he])
    simpa [moved, List.getElem?_set_ne hne] using hw
  | call op =>
    cases op with
    | make => exact hw
    | clone u | drop u | cancel u | poll u =>
      simp only [apply]
      split <;> exact hw
    | wait u =>
      simp only [apply]
      split <;> grind

/-- What a family shares changes by calls to cancel one of its live tokens only. -/
theorem familyAt_of_step (hs : Step p l q)
    (hl : ∀ u, l = .call (.cancel u) .nothing → p.family? u ≠ some f) :
    q.familyAt f = p.familyAt f := by
  cases hs with
  | move hw => rfl
  | call op =>
    cases op with
    | make => exact familyAt_make f
    | clone u | drop u | poll u | wait u =>
      simp only [apply]
      split <;> rfl
    | cancel u =>
      cases hu : p.family? u with
      | none => simp [apply, hu]
      | some g =>
        have hne : g ≠ f := by
          rintro rfl
          exact hl u (by simp [apply, hu]) hu
        simp [apply, hu, familyAt, cancelFamily, hne]

theorem isCancelled_of_step (hk : Kept ls p origin) (hs : Step p l q)
    (hc : p.isCancelled f = true) :
    q.isCancelled f = true := by
  by_cases hl : ∃ u, l = .call (.cancel u) .nothing ∧ p.family? u = some f
  · obtain ⟨u, rfl, hu⟩ := hl
    have hf := hk.known f (List.mem_of_getElem? (hk.live u f hu))
    generalize hlabel : Label.call (.cancel u) .nothing = l at hs
    cases hs with
    | move => cases hlabel
    | call op =>
      obtain ⟨rfl, -⟩ := Label.call.inj hlabel
      exact (isCancelled_cancel hu hf).mpr (.inl rfl)
  · rw [isCancelled, familyAt_of_step hs fun u hu hf => hl ⟨u, hu, hf⟩]
    exact hc

theorem isCancelled_of_runs (hr : Runs empty ls p) (hq : Runs p ls' q)
    (hc : p.isCancelled f = true) : q.isCancelled f = true := by
  induction hq with
  | start => exact hc
  | step hq hs ih =>
    obtain ⟨origin, hk⟩ := kept_runs (runs_trans hr hq)
    exact isCancelled_of_step hk hs ih

/-- Whatever else happens in between, each own step of a waiter in a cancelled family leads on. -/
theorem stepsLeft_of_runs (hr : Runs empty ls p) (hw : p.waiters[i]? = some w)
    (hc : p.isCancelled w.family = true) (hq : Runs p ls' q) :
    ∃ w', q.waiters[i]? = some w' ∧ w'.family = w.family ∧
      stepsLeft w'.phase ≤ stepsLeft w.phase - ls'.count (.move i) := by
  induction hq with
  | start => exact ⟨w, hw, rfl, Nat.le_refl _⟩
  | @step ls' q r l hq hs ih =>
    obtain ⟨v, hv, hfamily, hleft⟩ := ih
    rw [List.count_append, List.count_singleton]
    by_cases hl : l = .move i
    · subst hl
      obtain ⟨origin, hk⟩ := kept_runs (runs_trans hr hq)
      have hin := hk.minded v (List.mem_of_getElem? hv)
      have hflag : q.isCancelled v.family = true := by
        rw [hfamily]
        exact isCancelled_of_runs hr hq hc
      have hnext := stepsLeft_advance hin hflag
      cases hs with
      | move hv' =>
        obtain rfl := Option.some.inj (hv.symm.trans hv')
        refine ⟨q.advance v, by simp [moved, List.getElem?_set_self', hv],
          family_advance.trans hfamily, ?_⟩
        simp only [beq_self_eq_true, if_true]
        omega
    · refine ⟨v, waiter_of_step hs hl hv, hfamily, ?_⟩
      simpa [hl] using hleft

theorem woken_iff : p.woken[i]? = some true ↔ ∃ w, p.waiters[i]? = some w ∧ w.phase = .woken := by
  simp [woken]

theorem woken_of_runs (hr : Runs empty ls p) (hq : Runs p ls' q) (hw : p.woken[i]? = some true) :
    q.woken[i]? = some true := by
  obtain ⟨w, hin, hphase⟩ := woken_iff.mp hw
  obtain ⟨origin, hk⟩ := kept_runs hr
  have hm := hk.minded w (List.mem_of_getElem? hin)
  simp only [Minded, hphase] at hm
  obtain ⟨w', hin', -, hleft⟩ := stepsLeft_of_runs hr hin hm hq
  have hzero : stepsLeft w'.phase = 0 := by
    rw [hphase] at hleft
    simpa [stepsLeft] using hleft
  exact woken_iff.mpr ⟨w', hin', stepsLeft_eq_zero_iff.mp hzero⟩

/-- A waiter that goes on as long as it can is woken just if its family is cancelled. -/
theorem phase_settle (hm : p.Minded w) (hw : w.phase ≠ .woken → p.holders w.family ≠ 0) :
    (p.settle w).phase = .woken ↔ p.isCancelled w.family = true := by
  cases hphase : w.phase with
  | looking =>
    have hholders := hw (by simp [hphase])
    cases hc : (p.familyAt w.family).cancelled <;>
      simp [settle, advance, hphase, isCancelled, hc, hholders]
  | sleeping seen =>
    have hholders := hw (by simp [hphase])
    simp only [Minded, hphase] at hm
    cases hc : (p.familyAt w.family).cancelled <;>
      by_cases hv : (p.familyAt w.family).version = seen <;>
      simp_all [settle, advance, isCancelled]
  | woken =>
    simp only [Minded, hphase] at hm
    simp [settle, advance, hphase, hm]
  | abandoned => simp [Minded, hphase] at hm

theorem poll_eq (h : p.family? t = some f) : (p.apply (.poll t)).1 = .ready (p.isCancelled f) := by
  have hphase : (p.settle ⟨f, .looking⟩).phase = .woken ↔ p.isCancelled f = true :=
    phase_settle trivial fun _ => holders_of_live h
  simp only [apply, h]
  congr 1
  rw [Bool.eq_iff_iff, beq_iff_eq, hphase]

/-- What a waiter does next depends on what its family shares. -/
theorem advance_congr (hp : w ∈ p.waiters) (hq : w ∈ q.waiters)
    (hf : q.familyAt w.family = p.familyAt w.family) : q.advance w = p.advance w := by
  cases hphase : w.phase with
  | sleeping seen =>
    have hn : w.phase ≠ .woken := by simp [hphase]
    simp [advance, hphase, hf, holders_of_waiter hp hn, holders_of_waiter hq hn]
  | looking | woken | abandoned => simp [advance, hphase, hf]

theorem woken_settleAll (hw : p.waiters[i]? = some w) (hm : p.Minded w) :
    p.settleAll.woken[i]? = some true ↔ p.isCancelled w.family = true := by
  have hin := List.mem_of_getElem? hw
  rw [← phase_settle hm (holders_of_waiter hin), woken_iff]
  simp [settleAll, hw]

/-- Operations and steps of waiters may come in any order. A live token is cancelled, and a poll of
it ready, exactly when a related token has been told to cancel, dropped since or not. A waiter is
never woken without such a call, and two of its own steps wake it after one. What is cancelled or
woken stays so, and other steps, drops among them, cancel nothing and bring no waiter further. -/
theorem cancelled_by_relatives (hr : Runs empty ls p) :
    (∀ t f, p.family? t = some f →
      (p.isCancelled f = true ↔ Cancelled ls t) ∧
      (p.apply (.poll t)).1 = .ready (p.isCancelled f)) ∧
    (∀ t i, Started ls t i →
      (p.woken[i]? = some true → Cancelled ls t) ∧
      (p.settleAll.woken[i]? = some true ↔ Cancelled ls t) ∧
      (Cancelled ls t → ∀ ls' q, Runs p ls' q → 2 ≤ ls'.count (.move i) →
        q.woken[i]? = some true)) ∧
    (∀ ls' q, Runs p ls' q →
      (∀ f, p.isCancelled f = true → q.isCancelled f = true) ∧
      (∀ i : Nat, p.woken[i]? = some true → q.woken[i]? = some true)) ∧
    (∀ l q t, Step p l q → (∀ u, l = .call (.cancel u) .nothing → ¬ Related ls t u) →
      (∀ f, p.family? t = some f → q.isCancelled f = p.isCancelled f) ∧
      (∀ i w, Started ls t i → p.waiters[i]? = some w → l ≠ .move i →
        q.waiters[i]? = some w ∧ q.advance w = p.advance w)) := by
  obtain ⟨origin, hk⟩ := kept_runs hr
  refine ⟨?_, ?_, ?_, ?_⟩
  · intro t f ht
    exact ⟨isCancelled_iff hk (hk.live t f ht), poll_eq ht⟩
  · intro t i hs
    obtain ⟨w, hw, ht⟩ := hk.waits t i hs
    have hm := hk.minded w (List.mem_of_getElem? hw)
    refine ⟨?_, ?_, ?_⟩
    · intro hwoken
      obtain ⟨w', hw', hphase⟩ := woken_iff.mp hwoken
      obtain rfl := Option.some.inj (hw.symm.trans hw')
      simp only [Minded, hphase] at hm
      exact (isCancelled_iff hk ht).mp hm
    · rw [woken_settleAll hw hm, isCancelled_iff hk ht]
    · intro hc ls' q hq htwo
      obtain ⟨w', hw', -, hleft⟩ := stepsLeft_of_runs hr hw ((isCancelled_iff hk ht).mpr hc) hq
      have hmost : stepsLeft w.phase ≤ 2 := by cases w.phase <;> simp [stepsLeft]
      exact woken_iff.mpr ⟨w', hw', stepsLeft_eq_zero_iff.mp (by omega)⟩
  · intro ls' q hq
    exact ⟨fun f hc => isCancelled_of_runs hr hq hc, fun i hw => woken_of_runs hr hq hw⟩
  · intro l q t hs hn
    -- a call on a token of the same family would be one on a related token
    have hfamily {f : Nat} (ht : origin[t]? = some f) : q.familyAt f = p.familyAt f :=
      familyAt_of_step hs fun u hl hu => hn u hl (hk.kin t u f ht (hk.live u f hu))
    constructor
    · intro f ht
      rw [isCancelled, isCancelled, hfamily (hk.live t f ht)]
    · intro i w hstarted hw hl
      obtain ⟨w', hw', ht⟩ := hk.waits t i hstarted
      obtain rfl := Option.some.inj (hw.symm.trans hw')
      have hstays := waiter_of_step hs hl hw
      exact ⟨hstays, advance_congr (List.mem_of_getElem? hw) (List.mem_of_getElem? hstays)
        (hfamily ht)⟩

/-- A waiter with the clone of a token has looked and sleeps when the token is cancelled and
dropped; two steps wake it, and another family is not concerned. -/
theorem cancelled_by_relatives_asleep :
    ∃ ls p, Runs empty ls p ∧ Called ls 0 ∧ p.family? 0 = none ∧ Related ls 1 0 ∧ Started ls 1 0 ∧
      p.woken[0]? = some false ∧ p.family? 2 = some 1 ∧ ¬ Cancelled ls 2 ∧
      ∀ ls' q, Runs p ls' q → 2 ≤ ls'.count (.move 0) → q.woken[0]? = some true := by
  let ls : List Label := [.call .make (.index 0), .call (.clone 0) (.index 1),
    .call .make (.index 2), .call (.wait 1) (.index 0), .move 0, .call (.cancel 0) .nothing,
    .call (.drop 0) .nothing]
  let p : TokenPool := ⟨[⟨true, 1⟩, ⟨false, 0⟩], [none, some 0, some 1], [⟨0, .sleeping 0⟩]⟩
  have hrun : Runs empty ls p := by
    have made := (Runs.start.step (Step.call (p := empty) .make)).step (.call (.clone 0))
    have asleep := ((made.step (.call .make)).step (.call (.wait 1))).step
      (.move (i := 0) (w := ⟨0, .looking⟩) rfl)
    exact (asleep.step (.call (.cancel 0))).step (.call (.drop 0))
  have hcalled : Called ls 0 := by simp [Called, ls]
  have hrelated : Related ls 1 0 := .symm _ _ (.rel 0 1 (by simp [Cloned, ls]))
  have hstarted : Started ls 1 0 := by simp [Started, ls]
  obtain ⟨hlive, hwaits, -⟩ := cancelled_by_relatives hrun
  refine ⟨ls, p, hrun, hcalled, rfl, hrelated, hstarted, rfl, rfl, ?_, ?_⟩
  · intro hc
    have hflag := (hlive 2 1 rfl).1.mpr hc
    cases hflag
  · exact (hwaits 1 0 hstarted).2.2 ⟨0, hcalled, hrelated⟩

end LinkShot.TokenPool

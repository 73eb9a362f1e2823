import LinkShot.CancelToken

/-! What the operations on tokens do to the flags of the families. -/
namespace LinkShot.TokenPool

variable {p : TokenPool} {f g token : Nat}

theorem familyAt_eq (p : TokenPool) (f : Nat) : p.familyAt f = (p.families[f]?).getD freshFamily :=
  List.getD_eq_getElem?_getD

theorem familyAt_make (f : Nat) : (p.apply .make).2.familyAt f = p.familyAt f := by
  simp only [familyAt_eq, apply]
  rcases Nat.lt_trichotomy f p.families.length with hf | rfl | hf
  · rw [List.getElem?_append_left hf]
  · simp
  · rw [List.getElem?_eq_none (by simp; omega), List.getElem?_eq_none (by omega)]

/-- A new token is not cancelled, and no other token changes. -/
theorem isCancelled_make (p : TokenPool) (f : Nat) :
    (p.apply .make).2.isCancelled f = p.isCancelled f := by
  rw [isCancelled, isCancelled, familyAt_make]

theorem isCancelled_cancelFamily (hf : f < p.families.length) :
    (p.cancelFamily f).isCancelled g = true ↔ g = f ∨ p.isCancelled g = true := by
  simp only [isCancelled, familyAt_eq, cancelFamily]
  by_cases hg : g = f
  · subst hg
    simp [hf]
  · simp [hg, List.getElem?_set_ne (Ne.symm hg)]

/-- Cancelling a live token sets the flag of its family and of no other. -/
theorem isCancelled_cancel (ht : p.family? token = some f) (hf : f < p.families.length) :
    (p.apply (.cancel token)).2.isCancelled g = true ↔ g = f ∨ p.isCancelled g = true := by
  simp only [apply, ht]
  exact isCancelled_cancelFamily hf

end LinkShot.TokenPool

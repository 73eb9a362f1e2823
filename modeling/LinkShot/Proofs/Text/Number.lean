import LinkShot.Text.Number
import Mathlib.Data.List.Induction

/-! Numerals: which texts are read as numbers, and as which. -/
namespace LinkShot.Text

variable {c : Char} {cs : List Char} {m n zeros : Nat}

/-- The decimal digits of a number behind any zeros. -/
def IsDigits (n : Nat) (cs : List Char) : Prop :=
  ∃ zeros, cs = List.replicate zeros '0' ++ Nat.toDigits 10 n

/-- Digits of a number, with or without a plus sign. -/
def IsNumeral (n : Nat) (cs : List Char) : Prop :=
  IsDigits n cs ∨ ∃ rest, cs = '+' :: rest ∧ IsDigits n rest

theorem digitChar_of_isDigit (h : c.isDigit = true) :
    c.toNat - '0'.toNat < 10 ∧ (c.toNat - '0'.toNat).digitChar = c := by
  have hc : 48 ≤ c.toNat ∧ c.toNat ≤ 57 := by simpa [Char.isDigit, UInt32.le_iff_toNat_le] using h
  have hzero : '0'.toNat = 48 := rfl
  refine ⟨by omega, ?_⟩
  rw [← Char.toNat_inj, Nat.toNat_digitChar_of_lt_ten (by omega)]
  omega

theorem ofDigitChars_zeros :
    Nat.ofDigitChars 10 (List.replicate zeros '0' ++ Nat.toDigits 10 n) 0 = n := by
  induction zeros with
  | zero => exact Nat.ofDigitChars_toDigits (by decide) (by decide)
  | succ zeros ih => exact ih

/-- Digits are those of the number that they stand for, but for zeros in front. -/
theorem isDigits_of_isDigit (hd : ∀ c ∈ cs, c.isDigit = true) (hne : cs ≠ []) :
    IsDigits (Nat.ofDigitChars 10 cs 0) cs := by
  induction cs using List.reverseRecOn with
  | nil => exact absurd rfl hne
  | append_singleton cs c ih =>
    obtain ⟨hlt, hdigit⟩ := digitChar_of_isDigit (hd c (by simp))
    have hlast : Nat.toDigits 10 (c.toNat - '0'.toNat) = [c] := by
      rw [Nat.toDigits_of_lt_base hlt, hdigit]
    have hvalue : Nat.ofDigitChars 10 (cs ++ [c]) 0 =
        10 * Nat.ofDigitChars 10 cs 0 + (c.toNat - '0'.toNat) := by
      rw [Nat.ofDigitChars_append]
      rfl
    rw [hvalue]
    by_cases hcs : cs = []
    · subst hcs
      exact ⟨0, by simpa using hlast.symm⟩
    obtain ⟨zeros, heq⟩ := ih (fun d hin => hd d (by simp [hin])) hcs
    rcases Nat.eq_zero_or_pos (Nat.ofDigitChars 10 cs 0) with hzero | hpos
    · refine ⟨zeros + 1, ?_⟩
      rw [hzero] at heq ⊢
      rw [heq, Nat.mul_zero, Nat.zero_add, hlast, List.replicate_succ']
      rfl
    · refine ⟨zeros, ?_⟩
      rw [← Nat.toDigits_append_toDigits (by decide) hpos hlt, hlast, ← List.append_assoc, ← heq]

theorem IsDigits.isDigit (h : IsDigits n cs) : ∀ c ∈ cs, c.isDigit = true := by
  obtain ⟨zeros, rfl⟩ := h
  intro c hin
  rcases List.mem_append.mp hin with hin | hin
  · rw [List.eq_of_mem_replicate hin]
    rfl
  · exact Nat.isDigit_of_mem_toDigits (by decide) (by decide) hin

theorem IsDigits.ne_nil (h : IsDigits n cs) : cs ≠ [] := by
  obtain ⟨zeros, rfl⟩ := h
  exact List.append_ne_nil_of_right_ne_nil _ (List.ne_nil_of_length_pos Nat.length_toDigits_pos)

theorem digits?_eq_some_iff (hne : cs ≠ []) : digits? cs = some n ↔ IsDigits n cs := by
  rw [digits?]
  constructor
  · intro h
    split at h
    · rename_i hd
      cases h
      exact isDigits_of_isDigit (List.all_eq_true.mp hd) hne
    · cases h
  · intro h
    rw [if_pos (List.all_eq_true.mpr h.isDigit)]
    obtain ⟨zeros, rfl⟩ := h
    exact congrArg some ofDigitChars_zeros

theorem IsDigits.unique (h : IsDigits m cs) (h' : IsDigits n cs) : m = n := by
  have hm : digits? cs = some m := (digits?_eq_some_iff h.ne_nil).mpr h
  have hn : digits? cs = some n := (digits?_eq_some_iff h.ne_nil).mpr h'
  exact Option.some.inj (hm.symm.trans hn)

theorem not_isDigits_plus : ¬ IsDigits n ('+' :: cs) := by
  intro h
  have hdigit := h.isDigit '+' List.mem_cons_self
  cases hdigit

/-- A numeral stands for one number, however large that is. -/
theorem IsNumeral.unique (h : IsNumeral m cs) (h' : IsNumeral n cs) : m = n := by
  rcases h with h | ⟨rest, rfl, h⟩
  · rcases h' with h' | ⟨rest, rfl, -⟩
    · exact h.unique h'
    · exact absurd h not_isDigits_plus
  · rcases h' with h' | ⟨rest', heq, h'⟩
    · exact absurd h' not_isDigits_plus
    · cases heq
      exact h.unique h'

/-- Behind the sign, if there is one, the digits of a number that fits 64 bits are read. -/
theorem digits?_filter_iff :
    (if cs.isEmpty then none else (digits? cs).filter (· < UInt64.size)) = some n ↔
      IsDigits n cs ∧ n < UInt64.size := by
  by_cases hne : cs = []
  · subst hne
    simpa using fun h : IsDigits n [] => absurd rfl h.ne_nil
  · simp [hne, digits?_eq_some_iff]

/-- The texts that are read as a number are its numerals, up to 64 bits. -/
theorem word64?_eq_some_iff : word64? cs = some n ↔ IsNumeral n cs ∧ n < UInt64.size := by
  by_cases hplus : ∃ rest, cs = '+' :: rest
  · obtain ⟨rest, rfl⟩ := hplus
    rw [word64?, digits?_filter_iff, IsNumeral, or_iff_right not_isDigits_plus]
    simp
  · have hnone : ¬ ∃ rest, cs = '+' :: rest ∧ IsDigits n rest := by
      rintro ⟨rest, heq, -⟩
      exact hplus ⟨rest, heq⟩
    rw [word64?, digits?_filter_iff, IsNumeral, or_iff_left hnone]
    exact fun rest heq => hplus ⟨rest, heq⟩

example : word64? "+0042".toList = some 42 := by decide

end LinkShot.Text

import LinkShot.Binary64
import Mathlib.Algebra.Order.Field.Basic
import Mathlib.Algebra.Order.Field.Power
import Mathlib.Data.Rat.Cast.Order
import Mathlib.Tactic.Linarith
import Mathlib.Tactic.Ring
import Mathlib.Tactic.NormNum

/-!
Binary64 numbers as rational numbers. The numbers below a half are spaced by `2^-54`, so that a
fraction is rounded to a half or more just if it misses a half by no more than `2^-55`.
-/
namespace LinkShot.Binary64

variable {x : Binary64} {num den n d k : Nat} {e : Int} {negative : Bool}

def magnitude (x : Binary64) : ℚ := x.significand * 2 ^ x.exponent

/-- The rational number that is held. -/
def value (x : Binary64) : ℚ := if x.negative then -x.magnitude else x.magnitude

/-- A fraction as a rational number. -/
def ratio (f : Nat × Nat) : ℚ := f.1 / f.2

theorem magnitude_nonneg (x : Binary64) : 0 ≤ x.magnitude := by
  unfold magnitude
  positivity

theorem zpow_toNat (h : 0 ≤ e) : (2 : ℚ) ^ e.toNat = 2 ^ e := by
  rw [← zpow_natCast, Int.toNat_of_nonneg h]

theorem fraction_pos (x : Binary64) : 0 < x.fraction.2 := by
  unfold fraction
  split
  · exact Nat.one_pos
  · exact Nat.two_pow_pos _

theorem ratio_fraction (x : Binary64) : ratio x.fraction = x.magnitude := by
  unfold fraction ratio magnitude
  split
  · rename_i h
    simp [zpow_toNat h]
  · rename_i h
    have hneg : 0 ≤ -x.exponent := by omega
    simp [zpow_toNat hneg]

theorem inUnits_pos (num : Nat) (h : 0 < den) (e : Int) : 0 < (inUnits num den e).2 := by
  unfold inUnits
  split
  · exact Nat.mul_pos h (Nat.two_pow_pos _)
  · exact h

theorem ratio_inUnits (num den : Nat) (e : Int) :
    ratio (inUnits num den e) = ratio (num, den) / 2 ^ e := by
  unfold inUnits ratio
  split
  · rename_i h
    simp [zpow_toNat h, div_div]
  · rename_i h
    have hneg : 0 ≤ -e := by omega
    simp [zpow_toNat hneg, div_eq_mul_inv, mul_right_comm]

theorem le_ratio_iff (hd : 0 < d) : (k : ℚ) ≤ ratio (n, d) ↔ k * d ≤ n := by
  have hd' : (0 : ℚ) < d := by exact_mod_cast hd
  rw [ratio, le_div_iff₀ hd']
  exact_mod_cast Iff.rfl

theorem roundHalfEven_between (n d : Nat) :
    n / d ≤ roundHalfEven n d ∧ roundHalfEven n d ≤ n / d + 1 := by
  unfold roundHalfEven
  dsimp only
  split_ifs <;> omega

/-- A whole number below a fraction is not rounded past. -/
theorem le_roundHalfEven (hd : 0 < d) (h : (k : ℚ) ≤ ratio (n, d)) : k ≤ roundHalfEven n d := by
  rw [le_ratio_iff hd, ← Nat.le_div_iff_mul_le hd] at h
  exact h.trans (roundHalfEven_between n d).1

/-- Half a unit below an even number a fraction is rounded to it. -/
theorem le_roundHalfEven_iff (hd : 0 < d) (hk : k % 2 = 1) :
    k + 1 ≤ roundHalfEven n d ↔ (k : ℚ) + 1 / 2 ≤ ratio (n, d) := by
  have hd' : (0 : ℚ) < d := by exact_mod_cast hd
  have hhalf : (k : ℚ) + 1 / 2 ≤ ratio (n, d) ↔ 2 * (d * k) + d ≤ 2 * n := by
    rw [ratio, le_div_iff₀ hd', ← Nat.cast_le (α := ℚ)]
    push_cast
    constructor <;> intro h <;> linarith
  have hbetween := roundHalfEven_between n d
  have hn := Nat.div_add_mod n d
  have hr := Nat.mod_lt n hd
  rw [hhalf]
  rcases Nat.lt_trichotomy (n / d) k with hlt | heq | hgt
  · have hmul : d * (n / d + 1) ≤ d * k := Nat.mul_le_mul_left d hlt
    rw [Nat.mul_succ] at hmul
    omega
  · rw [heq] at hn
    simp only [roundHalfEven, heq, hk]
    split_ifs <;> omega
  · have hmul : d * (k + 1) ≤ d * (n / d) := Nat.mul_le_mul_left d hgt
    rw [Nat.mul_succ] at hmul
    omega

theorem roundHalfEven_le (hd : 0 < d) (h : ratio (n, d) < k) : roundHalfEven n d ≤ k := by
  have hlt : n / d < k := by
    rw [← not_le, le_ratio_iff hd, ← Nat.le_div_iff_mul_le hd] at h
    omega
  exact (roundHalfEven_between n d).2.trans hlt

theorem log2_between (hn : n ≠ 0) :
    (2 : ℚ) ^ (n.log2 : Int) ≤ n ∧ (n : ℚ) < 2 ^ ((n.log2 : Int) + 1) := by
  constructor
  · rw [zpow_natCast]
    exact_mod_cast Nat.log2_self_le hn
  · rw [← Nat.cast_succ, zpow_natCast]
    exact_mod_cast Nat.lt_log2_self

theorem ratio_between (hn : num ≠ 0) (hd : 0 < den) (he : e = (num.log2 : Int) - den.log2) :
    (2 : ℚ) ^ (e - 1) ≤ ratio (num, den) ∧ ratio (num, den) < 2 ^ (e + 1) := by
  have hd' : (0 : ℚ) < den := by exact_mod_cast hd
  obtain ⟨hnlow, hnhigh⟩ := log2_between hn
  obtain ⟨hdlow, hdhigh⟩ := log2_between hd.ne'
  rw [ratio, le_div_iff₀ hd', div_lt_iff₀ hd']
  constructor
  · calc (2 : ℚ) ^ (e - 1) * den ≤ 2 ^ (e - 1) * 2 ^ ((den.log2 : Int) + 1) := by gcongr
      _ = 2 ^ (num.log2 : Int) := by rw [← zpow_add₀ two_ne_zero]; congr 1; omega
      _ ≤ num := hnlow
  · calc (num : ℚ) < 2 ^ ((num.log2 : Int) + 1) := hnhigh
      _ = 2 ^ (e + 1) * 2 ^ (den.log2 : Int) := by
          rw [← zpow_add₀ two_ne_zero]; congr 1; omega
      _ ≤ 2 ^ (e + 1) * den := by gcongr

theorem ratio_inUnits_lt_iff (num : Nat) (hd : 0 < den) (e : Int) :
    (inUnits num den e).1 < (inUnits num den e).2 * Nat.pow 2 53 ↔
      ratio (num, den) < 2 ^ (e + 53) := by
  have hpow : (0 : ℚ) < 2 ^ e := by positivity
  have hunits : ratio (inUnits num den e) < (2 ^ 53 : Nat) ↔ ratio (num, den) < 2 ^ (e + 53) := by
    rw [ratio_inUnits, div_lt_iff₀ hpow, zpow_add₀ two_ne_zero, mul_comm]
    norm_num
  rw [← hunits, ← not_le, ← not_le, not_iff_not, le_ratio_iff (inUnits_pos num hd e), mul_comm]
  rfl

/-- The significand has 53 bits unless the number is too small for that. -/
theorem exponentOf_spec (hn : num ≠ 0) (hd : 0 < den) :
    ratio (num, den) < 2 ^ (exponentOf num den + 53) ∧
      (2 ^ (exponentOf num den + 52) ≤ ratio (num, den) ∨ exponentOf num den = minExponent) := by
  obtain ⟨natural, hnatural, hbelow, habove⟩ : ∃ natural : Int,
      exponentOf num den = max minExponent natural ∧
        2 ^ (natural + 52) ≤ ratio (num, den) ∧ ratio (num, den) < 2 ^ (natural + 53) := by
    obtain ⟨hlow, hhigh⟩ := ratio_between hn hd rfl
    have hlt := ratio_inUnits_lt_iff num hd ((num.log2 : Int) - den.log2 - 53)
    unfold exponentOf
    dsimp only
    generalize inUnits num den ((num.log2 : Int) - den.log2 - 53) = units at hlt
    generalize (num.log2 : Int) - den.log2 = e at hlow hhigh hlt
    by_cases hunits : units.1 < units.2 * Nat.pow 2 53
    · refine ⟨e - 53, by rw [if_pos hunits], ?_, hlt.mp hunits⟩
      rwa [show e - 53 + 52 = e - 1 by omega]
    · refine ⟨e - 53 + 1, by rw [if_neg hunits], ?_, ?_⟩
      · have hge := not_lt.mp (mt hlt.mpr hunits)
        rwa [show e - 53 + 1 + 52 = e - 53 + 53 by omega]
      · rwa [show e - 53 + 1 + 53 = e + 1 by omega]
  rw [hnatural]
  rcases le_total minExponent natural with hle | hle
  · rw [max_eq_right hle]
    exact ⟨habove, .inl hbelow⟩
  · rw [max_eq_left hle]
    refine ⟨habove.trans_le ?_, .inr rfl⟩
    gcongr
    exact one_le_two

theorem nearest_zero (negative : Bool) (den : Nat) :
    nearest negative 0 den = some (zero negative) := by
  rw [nearest, if_pos rfl]

/-- A fraction is rounded to a whole number of its units; one that takes a bit too many is held with
half the significand. -/
theorem nearest_eq (negative : Bool) (hn : num ≠ 0) (den : Nat) : ∃ (q : Nat) (e : Int),
    nearest negative num den = (if maxExponent < e then none else some ⟨negative, q, e⟩) ∧
      e ≤ exponentOf num den + 1 ∧
      q * (2 : ℚ) ^ e = roundHalfEven (inUnits num den (exponentOf num den)).1
        (inUnits num den (exponentOf num den)).2 * 2 ^ exponentOf num den := by
  rw [nearest, if_neg hn]
  extract_lets e
  -- pairs are taken apart by equations: projections of the second one would be evaluated down to
  -- `2^53`
  split
  rename_i n d hunits
  extract_lets q
  split
  rename_i held eheld hheld
  refine ⟨held, eheld, rfl, ?_⟩
  by_cases hcarry : q = Nat.pow 2 53
  · rw [if_pos hcarry] at hheld
    cases hheld
    refine ⟨le_rfl, ?_⟩
    rw [hunits]
    change ((Nat.pow 2 52 : Nat) : ℚ) * 2 ^ (e + 1) = (q : ℚ) * 2 ^ e
    rw [hcarry, zpow_add_one₀ two_ne_zero, Nat.pow_eq, Nat.pow_eq]
    push_cast
    ring
  · rw [if_neg hcarry] at hheld
    cases hheld
    refine ⟨by omega, ?_⟩
    rw [hunits]

theorem nearest_eq_some (hn : num ≠ 0) (h : nearest negative num den = some x) :
    x.negative = negative ∧
      x.magnitude = roundHalfEven (inUnits num den (exponentOf num den)).1
        (inUnits num den (exponentOf num den)).2 * 2 ^ exponentOf num den := by
  obtain ⟨q, e, hnearest, -, hq⟩ := nearest_eq negative hn den
  rw [hnearest] at h
  split_ifs at h
  cases h
  exact ⟨rfl, hq⟩

/-- A fraction that is too large is no less than a half. -/
theorem half_le_of_overflow (hd : 0 < den) (h : nearest negative num den = none) :
    1 / 2 ≤ ratio (num, den) := by
  by_cases hn : num = 0
  · rw [hn, nearest_zero] at h
    cases h
  · obtain ⟨q, e, hnearest, he, -⟩ := nearest_eq negative hn den
    obtain ⟨-, hlow⟩ := exponentOf_spec hn hd
    have hmax : maxExponent < e := by
      by_contra hle
      rw [hnearest, if_neg hle] at h
      cases h
    unfold maxExponent at hmax
    unfold minExponent at hlow
    have hlarge := hlow.resolve_right (by omega)
    calc (1 : ℚ) / 2 = 2 ^ (-1 : Int) := by norm_num
      _ ≤ 2 ^ (exponentOf num den + 52) := zpow_le_zpow_right₀ one_le_two (by omega)
      _ ≤ ratio (num, den) := hlarge

/-- Half a unit below a half is rounded to it if the units are `2^-54`. Larger units are only taken
above a half, smaller ones below a quarter. -/
theorem half_le_units_iff (hd : 0 < d) (hhigh : ratio (n, d) < 2 ^ 53)
    (hlow : 2 ^ 52 ≤ ratio (n, d) ∨ e = minExponent) :
    1 / 2 ≤ (roundHalfEven n d : ℚ) * 2 ^ e ↔ 1 / 2 - 1 / 2 ^ 55 ≤ ratio (n, d) * 2 ^ e := by
  rcases lt_trichotomy e (-54) with hlt | rfl | hgt
  · have hunit : (2 : ℚ) ^ e ≤ 2 ^ (-55 : Int) := zpow_le_zpow_right₀ one_le_two (by omega)
    have hq : (roundHalfEven n d : ℚ) ≤ 2 ^ 53 := by
      exact_mod_cast roundHalfEven_le (k := 2 ^ 53) hd (by exact_mod_cast hhigh)
    have hquarter {r : ℚ} (hr : r ≤ 2 ^ 53) : r * 2 ^ e ≤ 1 / 4 := by
      calc r * 2 ^ e ≤ 2 ^ 53 * 2 ^ (-55 : Int) := by gcongr
        _ = 1 / 4 := by norm_num
    have hrounded := hquarter hq
    have hexact := hquarter hhigh.le
    constructor <;> intro h <;> linarith
  · have hround := le_roundHalfEven_iff (n := n) (k := 2 ^ 53 - 1) hd (by norm_num)
    rw [← Nat.cast_le (α := ℚ)] at hround
    push_cast at hround
    constructor
    · intro h
      have hr := hround.mp (by linarith)
      linarith
    · intro h
      have hq := hround.mpr (by linarith)
      linarith
  · have hunit : (2 : ℚ) ^ (-53 : Int) ≤ 2 ^ e := zpow_le_zpow_right₀ one_le_two (by omega)
    have hr : 2 ^ 52 ≤ ratio (n, d) := hlow.resolve_right (by unfold minExponent; omega)
    have hq : (2 : ℚ) ^ 52 ≤ roundHalfEven n d := by
      exact_mod_cast le_roundHalfEven (k := 2 ^ 52) hd (by exact_mod_cast hr)
    have hhalf {r : ℚ} (hr : 2 ^ 52 ≤ r) : 1 / 2 ≤ r * 2 ^ e := by
      calc (1 : ℚ) / 2 = 2 ^ 52 * 2 ^ (-53 : Int) := by norm_num
        _ ≤ r * 2 ^ e := by gcongr
    have hrounded := hhalf hq
    have hexact := hhalf hr
    constructor <;> intro h <;> linarith

/-- Rounding reaches a half from `2^-55` below it. -/
theorem half_le_nearest_iff (hd : 0 < den) (h : nearest negative num den = some x) :
    1 / 2 ≤ x.magnitude ↔ 1 / 2 - 1 / 2 ^ 55 ≤ ratio (num, den) := by
  by_cases hn : num = 0
  · subst hn
    rw [nearest_zero] at h
    cases h
    norm_num [magnitude, zero, ratio]
  obtain ⟨hhigh, hlow⟩ := exponentOf_spec hn hd
  rw [(nearest_eq_some hn h).2]
  generalize exponentOf num den = e at hhigh hlow ⊢
  have hpow : (0 : ℚ) < 2 ^ e := by positivity
  have hunits := ratio_inUnits num den e
  have hpos := inUnits_pos num hd e
  generalize inUnits num den e = units at hunits hpos ⊢
  rw [eq_div_iff hpow.ne'] at hunits
  rw [← hunits] at hhigh hlow ⊢
  rw [zpow_add₀ two_ne_zero, zpow_ofNat, mul_comm, mul_lt_mul_iff_right₀ hpow] at hhigh
  rw [zpow_add₀ two_ne_zero, zpow_ofNat, mul_comm, mul_le_mul_iff_left₀ hpow] at hlow
  obtain ⟨n, d⟩ := units
  exact half_le_units_iff hpos hhigh hlow

theorem ratio_mul (f g : Nat × Nat) : ratio (f.1 * g.1, f.2 * g.2) = ratio f * ratio g := by
  unfold ratio
  push_cast
  exact (div_mul_div_comm _ _ _ _).symm

theorem nearest_negative (h : nearest negative num den = some x) : x.negative = negative := by
  by_cases hn : num = 0
  · rw [hn, nearest_zero] at h
    cases h
    rfl
  · exact (nearest_eq_some hn h).1

theorem value_mul (x y : Binary64) : x.value * y.value =
    if x.negative != y.negative then -(x.magnitude * y.magnitude)
    else x.magnitude * y.magnitude := by
  unfold value
  cases x.negative <;> cases y.negative <;> simp

theorem mul_eq (x y : Binary64) : x.mul y = nearest (x.negative != y.negative)
    (x.fraction.1 * y.fraction.1) (x.fraction.2 * y.fraction.2) := rfl

/-- A product is a half or more just if the exact product misses a half by no more than `2^-55`. -/
theorem half_le_mul_iff {y z : Binary64} (h : x.mul y = some z) :
    1 / 2 ≤ z.value ↔ 1 / 2 - 1 / 2 ^ 55 ≤ x.value * y.value := by
  rw [mul_eq] at h
  have hpos := Nat.mul_pos x.fraction_pos y.fraction_pos
  have hiff := half_le_nearest_iff hpos h
  rw [ratio_mul, ratio_fraction, ratio_fraction] at hiff
  rw [value_mul, value, nearest_negative h]
  split
  · have hx := z.magnitude_nonneg
    have hxy := mul_nonneg x.magnitude_nonneg y.magnitude_nonneg
    constructor <;> intro h <;> linarith
  · exact hiff

theorem half_le_of_mul_overflow {y : Binary64} (h : x.mul y = none) :
    1 / 2 ≤ x.magnitude * y.magnitude := by
  rw [mul_eq] at h
  have hpos := Nat.mul_pos x.fraction_pos y.fraction_pos
  have hhalf := half_le_of_overflow hpos h
  rwa [ratio_mul, ratio_fraction, ratio_fraction] at hhalf

theorem one_le_roundAway_iff (x : Binary64) : 1 ≤ x.roundAway ↔ 1 / 2 ≤ x.value := by
  have hd := x.fraction_pos
  have hd' : (0 : ℚ) < x.fraction.2 := by exact_mod_cast hd
  have hmagnitude : 1 / 2 ≤ x.magnitude ↔ x.fraction.2 ≤ 2 * x.fraction.1 := by
    rw [← ratio_fraction, ratio, le_div_iff₀ hd', ← Nat.cast_le (α := ℚ)]
    push_cast
    constructor <;> intro h <;> linarith
  have hdouble : 0 < 2 * x.fraction.2 := by omega
  have hround := Nat.le_div_iff_mul_le (x := 1) (y := 2 * x.fraction.1 + x.fraction.2) hdouble
  unfold roundAway value
  dsimp only
  generalize (2 * x.fraction.1 + x.fraction.2) / (2 * x.fraction.2) = q at hround ⊢
  split
  · have hx := x.magnitude_nonneg
    constructor
    · intro h
      omega
    · intro h
      linarith
  · rw [hmagnitude]
    omega

theorem value_pos (h : x.isPositive = true) : 0 < x.value := by
  simp only [isPositive, Bool.and_eq_true, Bool.not_eq_true', bne_iff_ne] at h
  obtain ⟨hsign, hsignificand⟩ := h
  rw [value, if_neg (by simp [hsign]), magnitude]
  positivity

theorem value_pos_of_isNearOne (h : x.isNearOne = true) : 0 < x.value := by
  simp only [isNearOne, Bool.and_eq_true, Bool.not_eq_true', decide_eq_true_eq] at h
  obtain ⟨hsign, hnear⟩ := h
  have hd := x.fraction_pos
  have hn : 0 < x.fraction.1 := by
    rw [Nat.pow_eq] at hnear
    omega
  rw [value, if_neg (by simp [hsign]), ← ratio_fraction, ratio]
  positivity

end LinkShot.Binary64

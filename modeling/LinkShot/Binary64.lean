/-!
Finite binary64 numbers, held exactly: a sign and `significand · 2^exponent`. Every operation
computes the exact rational result and rounds it once, to the nearest number and on a tie to the
even one; a result beyond the largest finite number is `none`.
-/
namespace LinkShot

structure Binary64 where
  negative : Bool
  significand : Nat
  exponent : Int
  deriving DecidableEq, Repr, Inhabited

namespace Binary64

def minExponent : Int := -1074
def maxExponent : Int := 971

def zero (negative : Bool) : Binary64 := ⟨negative, 0, minExponent⟩

def one : Binary64 := ⟨false, Nat.pow 2 52, -52⟩

/-- The fraction `num / den` in units of `2^e`, again as a fraction. -/
def inUnits (num den : Nat) (e : Int) : Nat × Nat :=
  if 0 ≤ e then (num, den * Nat.pow 2 e.toNat) else (num * Nat.pow 2 (-e).toNat, den)

def roundHalfEven (num den : Nat) : Nat :=
  let q := num / den
  let r := num % den
  if 2 * r < den then q
  else if 2 * r > den then q + 1
  else q + q % 2

/-- The exponent at which a positive fraction has a 53-bit significand, if numbers that small
exist. -/
def exponentOf (num den : Nat) : Int :=
  let e := (num.log2 : Int) - den.log2 - 53
  let (n, d) := inUnits num den e
  max minExponent (if n < d * Nat.pow 2 53 then e else e + 1)

/-- The number nearest to `num / den`. -/
def nearest (negative : Bool) (num den : Nat) : Option Binary64 :=
  if num = 0 then some (zero negative)
  else
    let e := exponentOf num den
    let (n, d) := inUnits num den e
    let q := roundHalfEven n d
    let (q, e) := if q = Nat.pow 2 53 then (Nat.pow 2 52, e + 1) else (q, e)
    if maxExponent < e then none else some ⟨negative, q, e⟩

def ofNat (n : Nat) : Option Binary64 := nearest false n 1

def ofInt (i : Int) : Option Binary64 := nearest (i < 0) i.natAbs 1

/-- The absolute value as a fraction. -/
def fraction (x : Binary64) : Nat × Nat :=
  if 0 ≤ x.exponent then (x.significand * Nat.pow 2 x.exponent.toNat, 1)
  else (x.significand, Nat.pow 2 (-x.exponent).toNat)

def neg (x : Binary64) : Binary64 := { x with negative := !x.negative }

def mul (x y : Binary64) : Option Binary64 :=
  let (n, d) := x.fraction
  let (k, l) := y.fraction
  nearest (x.negative != y.negative) (n * k) (d * l)

def div (x y : Binary64) : Option Binary64 :=
  let (n, d) := x.fraction
  let (k, l) := y.fraction
  nearest (x.negative != y.negative) (n * l) (d * k)

def isZero (x : Binary64) : Bool := x.significand == 0

def isPositive (x : Binary64) : Bool := !x.negative && x.significand != 0

/-- The integer nearest to the number, the one farther from zero on a tie. -/
def roundAway (x : Binary64) : Int :=
  let (n, d) := x.fraction
  let q : Nat := (2 * n + d) / (2 * d)
  if x.negative then -q else q

/-- Whether the number differs from one by no more than the spacing of numbers above one. -/
def isNearOne (x : Binary64) : Bool :=
  let (n, d) := x.fraction
  !x.negative && ((n : Int) - d).natAbs * Nat.pow 2 52 ≤ d

end Binary64
end LinkShot

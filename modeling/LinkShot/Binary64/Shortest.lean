import LinkShot.Binary64

/-!
The shortest decimal text of a binary64 number: among the decimals that round to it, the fewest
digits, and of those the nearest.
-/
namespace LinkShot.Binary64

/-- `digits · 10^scale`. -/
structure Decimal where
  digits : Nat
  scale : Int
  deriving DecidableEq, Repr

/-- The number and the ends of the interval that rounds to it, as numerators over a common
denominator; `closed` says whether the ends belong to it. -/
structure Interval where
  low : Nat
  value : Nat
  high : Nat
  den : Nat
  closed : Bool

def interval (x : Binary64) : Interval :=
  let m := x.significand
  let below := if m = Nat.pow 2 52 ∧ minExponent < x.exponent then 4 * m - 1 else 4 * m - 2
  let scale := if 0 ≤ x.exponent then Nat.pow 2 x.exponent.toNat else 1
  let den := if 0 ≤ x.exponent then 4 else 4 * Nat.pow 2 (-x.exponent).toNat
  ⟨below * scale, 4 * m * scale, (4 * m + 2) * scale, den, m % 2 == 0⟩

/-- The power of ten that the leading digit of a positive fraction counts. -/
def leadingScale (num den : Nat) : Int :=
  let estimate := (((num.log2 : Int) - den.log2 - 1) * 30103).fdiv 100000 - 1
  let reaches (k : Int) : Bool :=
    if 0 ≤ k then den * Nat.pow 10 k.toNat ≤ num else den ≤ num * Nat.pow 10 (-k).toNat
  (List.range 4).foldl (fun k _ => if reaches (k + 1) then k + 1 else k) estimate

/-- The nearest multiple of `10^scale` in the interval, an even count of units on a tie. -/
def pick (i : Interval) (scale : Int) : Option Nat :=
  let up := if scale < 0 then Nat.pow 10 (-scale).toNat else 1
  let unit := i.den * (if 0 ≤ scale then Nat.pow 10 scale.toNat else 1)
  let inside (c : Nat) : Bool :=
    if i.closed then i.low * up ≤ c * unit && c * unit ≤ i.high * up
    else i.low * up < c * unit && c * unit < i.high * up
  let a := i.value * up / unit
  let gap := i.value * up - a * unit
  match inside a && a != 0, inside (a + 1) with
  | true, true =>
    if 2 * gap < unit then some a
    else if 2 * gap > unit then some (a + 1)
    else some (a + a % 2)
  | true, false => some a
  | false, true => some (a + 1)
  | false, false => none

def stripZeros : Nat → Decimal → Decimal
  | 0, d => d
  | fuel + 1, d =>
    if d.digits % 10 = 0 ∧ d.digits ≠ 0 then stripZeros fuel ⟨d.digits / 10, d.scale + 1⟩ else d

/-- The shortest decimal of a number other than zero. Seventeen digits always suffice. -/
def shortest (x : Binary64) : Decimal :=
  let i := interval x
  let lead := leadingScale i.value i.den
  let found := (List.range 17).findSome? fun (n : Nat) =>
    (pick i (lead - n)).map fun digits => (⟨digits, lead - n⟩ : Decimal)
  stripZeros 20 (found.getD ⟨0, 0⟩)

def zeros (n : Nat) : List Char := List.replicate n '0'

/-- Positional notation while the leading digit counts a power from 10^-5 to 10^15, always with a
fraction; beyond that `d.ddde+N`. -/
def text (x : Binary64) : String :=
  let sign := if x.negative then ['-'] else []
  let body :=
    if x.isZero then ['0', '.', '0']
    else
      let d := x.shortest
      let digits := Nat.toDigits 10 d.digits
      let lead := d.scale + (digits.length - 1 : Nat)
      if -5 ≤ lead ∧ lead < 0 then ['0', '.'] ++ zeros (-lead - 1).toNat ++ digits
      else if 0 ≤ lead ∧ lead ≤ 15 then
        if 0 ≤ d.scale then digits ++ zeros d.scale.toNat ++ ['.', '0']
        else digits.take (lead.toNat + 1) ++ '.' :: digits.drop (lead.toNat + 1)
      else
        let mantissa := match digits with
          | [c] => [c]
          | c :: rest => c :: '.' :: rest
          | [] => []
        mantissa ++ ['e', if lead < 0 then '-' else '+'] ++ Nat.toDigits 10 lead.natAbs
  String.ofList (sign ++ body)

end LinkShot.Binary64

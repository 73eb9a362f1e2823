import LinkShot.Binary64.Shortest
import LinkShot.Json.Fault

/-!
JSON numbers. Integers that fit 64 bits, signed or unsigned, stay integers; every other number is a
binary64.
-/
namespace LinkShot.Json

inductive Number where
  | int (i : Int)
  | real (x : Binary64)
  deriving DecidableEq, Repr

namespace Number

def text : Number → String
  | .int i => toString i
  | .real x => x.text

/-- The nearest binary64. Integers of 64 bits are far below its largest. -/
def toReal : Number → Binary64
  | .int i => (Binary64.ofInt i).getD (.zero false)
  | .real x => x

def toInt64? : Number → Option Int
  | .int i => if i < 9223372036854775808 then some i else none
  | .real _ => none

end Number

/-- A number as it is written. Digits are the numbers 0 to 9. -/
structure NumberText where
  negative : Bool
  whole : List Nat
  fraction : List Nat
  hasFraction : Bool
  exponent : Option Int
  deriving DecidableEq, Repr

/-- Reads digits while the significand fits 64 bits; the rest is left. -/
def takeDigits (significand : Nat) : List Nat → Nat × List Nat
  | [] => (significand, [])
  | d :: rest =>
    if significand * 10 + d < UInt64.size then takeDigits (significand * 10 + d) rest
    else (significand, d :: rest)

def powerOfTen (k : Nat) : Binary64 := (Binary64.ofNat (Nat.pow 10 k)).getD (.zero false)

/-- `f · 10^exponent` by one multiplication or division with a power up to 10^308; a smaller
exponent is first raised by divisions through 10^308, of which three reach zero. -/
def scaleByTen : Nat → Binary64 → Int → Option Binary64
  | 0, f, _ => some f
  | fuel + 1, f, exponent =>
    if exponent.natAbs ≤ 308 then
      if 0 ≤ exponent then f.mul (powerOfTen exponent.toNat)
      else f.div (powerOfTen exponent.natAbs)
    else if f.isZero then some f
    else if 0 ≤ exponent then none
    else match f.div (powerOfTen 308) with
      | some g => scaleByTen fuel g (exponent + 308)
      | none => none

/-- The number that a text denotes. Digits past the 64-bit significand count as zeros before the
point and not at all behind it. -/
def NumberText.number (t : NumberText) : Except Fault Number :=
  let (whole, dropped) := takeDigits 0 t.whole
  if !t.hasFraction && t.exponent.isNone && dropped.isEmpty &&
      (!t.negative || (0 < whole && whole ≤ 9223372036854775808)) then
    .ok (.int (if t.negative then -(whole : Int) else whole))
  else
    let (significand, ignored) := takeDigits whole t.fraction
    let exponent := (dropped.length : Int) - (t.fraction.length - ignored.length : Nat) +
      t.exponent.getD 0
    match (Binary64.ofNat significand).bind (scaleByTen 8 · exponent) with
    | some f => .ok (.real (if t.negative then f.neg else f))
    | none => .error .numberOutOfRange

end LinkShot.Json

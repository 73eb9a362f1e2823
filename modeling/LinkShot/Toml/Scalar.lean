import LinkShot.Calendar
import LinkShot.Text.Number
import LinkShot.Toml.Node
import LinkShot.Toml.Text

/-! Numbers, truth values, dates and times of TOML, each read from its whole text. -/
namespace LinkShot.Toml

/-- Digits without the underscores between them. `digit` says whether a digit stands before. -/
def grouped? (valid : Char → Bool) (digit : Bool) : List Char → Option (List Char)
  | [] => if digit then some [] else none
  | '_' :: rest => if digit then grouped? valid false rest else none
  | c :: rest => if valid c then (grouped? valid true rest).map (c :: ·) else none

def digitsValue (base : Nat) (digits : List Char) : Nat :=
  digits.foldl (fun n c => n * base + (Text.hexValue? c).getD 0) 0

def splitSign : List Char → Option Bool × List Char
  | '-' :: rest => (some true, rest)
  | '+' :: rest => (some false, rest)
  | cs => (none, cs)

/-- Decimal digits that begin with a zero only if they are just that. -/
def whole? (cs : List Char) : Option (List Char) :=
  match grouped? Char.isDigit false cs with
  | some ('0' :: _ :: _) => none
  | digits => digits

/-- Integers may have 128 bits. -/
def integerOf (i : Int) : Option Scalar :=
  if -(Nat.pow 2 127 : Int) ≤ i && i < Nat.pow 2 128 then some (.integer i) else none

def inBase (base : Nat) (valid : Char → Bool) (cs : List Char) : Option Scalar :=
  (grouped? valid false cs).bind fun digits => integerOf (digitsValue base digits)

def integer? (sign : Option Bool) : List Char → Option Scalar
  | '0' :: 'x' :: rest => if sign.isNone then inBase 16 (Text.hexValue? · |>.isSome) rest else none
  | '0' :: 'o' :: rest => if sign.isNone then inBase 8 (fun c => '0' ≤ c && c ≤ '7') rest else none
  | '0' :: 'b' :: rest => 
    if sign.isNone then inBase 2 (fun c => c == '0' || c == '1') rest else none
  | cs => (whole? cs).bind fun digits =>
    let n : Int := digitsValue 10 digits
    integerOf (if sign = some true then -n else n)

/-- `digits · 10^exponent`; nothing if that is too large. -/
def decimal? (negative : Bool) (digits : List Char) (exponent : Int) : Option Real :=
  let n := digitsValue 10 digits
  let size := ((digits.dropWhile (· == '0')).length : Int) + exponent
  let x :=
    if n = 0 || size < -400 then some (Binary64.zero negative)
    else if size > 400 then none
    else if 0 ≤ exponent then Binary64.nearest negative (n * Nat.pow 10 exponent.toNat) 1
    else Binary64.nearest negative n (Nat.pow 10 (-exponent).toNat)
  x.map .finite

def exponent? (cs : List Char) : Option Int :=
  let (sign, cs) := splitSign cs
  (grouped? Char.isDigit false cs).map fun digits =>
    if sign = some true then -(digitsValue 10 digits : Int) else digitsValue 10 digits

/-- The text before the first character of a kind, and the text after it, if there is one. -/
def splitAt (here : Char → Bool) (cs : List Char) : List Char × Option (List Char) :=
  match cs.dropWhile (!here ·) with
  | [] => (cs, none)
  | _ :: rest => (cs.takeWhile (!here ·), some rest)

def real? (sign : Option Bool) (cs : List Char) : Option Real := do
  let (significand, power) := splitAt (fun c => c == 'e' || c == 'E') cs
  let (whole, fraction) := splitAt (· == '.') significand
  let whole ← whole? whole
  let fraction ← match fraction with
    | none => if power.isNone then none else some []
    | some digits => grouped? Char.isDigit false digits
  let exponent ← match power with
    | none => some 0
    | some cs => exponent? cs
  decimal? (sign = some true) (whole ++ fraction) (exponent - fraction.length)

def number? (cs : List Char) : Option Scalar :=
  let (sign, body) := splitSign cs
  if body = "inf".toList then some (.real (.infinite (sign = some true)))
  else if body = "nan".toList then some (.real .notNumber)
  else match integer? sign body with
    | some i => some i
    | none => (real? sign body).map .real

/-- A number of two digits up to a limit, and the rest. -/
def twoDigits? (limit : Nat) : List Char → Option (Nat × List Char)
  | a :: b :: rest =>
    if a.isDigit && b.isDigit && digitsValue 10 [a, b] ≤ limit then
      some (digitsValue 10 [a, b], rest)
    else none
  | _ => none

def daysInMonth (year month : Nat) : Nat :=
  ((Calendar.monthLengths (Calendar.isLeap year))[month - 1]?).getD 0

/-- The rest after a date. -/
def date? : List Char → Option (List Char)
  | a :: b :: c :: d :: '-' :: rest =>
    if [a, b, c, d].all Char.isDigit then
      match twoDigits? 12 rest with
      | some (month, '-' :: rest) =>
        let last := daysInMonth (digitsValue 10 [a, b, c, d]) month
        match twoDigits? last rest with
        | some (day, rest) => if month = 0 || day = 0 then none else some rest
        | none => none
      | _ => none
    else none
  | _ => none

/-- The rest after a part of a second. -/
def fraction? : List Char → Option (List Char)
  | '.' :: rest =>
    if (rest.takeWhile Char.isDigit).isEmpty then none else some (rest.dropWhile Char.isDigit)
  | cs => some cs

/-- The rest after a time of day; the seconds may be left out. -/
def time? (cs : List Char) : Option (List Char) :=
  match twoDigits? 23 cs with
  | some (_, ':' :: rest) => match twoDigits? 59 rest with
    | some (_, ':' :: rest) => (twoDigits? 60 rest).bind (fraction? ·.2)
    | some (_, rest) => some rest
    | none => none
  | _ => none

/-- Whether a text is the distance from universal time, or empty. -/
def isOffset : List Char → Bool
  | [] | ['Z'] | ['z'] => true
  | sign :: rest =>
    (sign == '+' || sign == '-') &&
      match twoDigits? 23 rest with
      | some (_, ':' :: rest) => ((twoDigits? 59 rest).map (·.2)) == some []
      | _ => false

def isMoment (cs : List Char) : Bool :=
  match date? cs with
  | some [] => true
  | some (mark :: rest) =>
    (mark == 'T' || mark == 't' || mark == ' ') &&
      match time? rest with
      | some rest => isOffset rest
      | none => false
  | none => time? cs == some []

def scalar? (cs : List Char) : Option Scalar :=
  if cs = "true".toList then some (.bool true)
  else if cs = "false".toList then some (.bool false)
  else if isMoment cs then some (.moment (String.ofList cs))
  else number? cs

end LinkShot.Toml

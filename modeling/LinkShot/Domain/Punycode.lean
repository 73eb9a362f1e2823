import LinkShot.Text.CharSet

/-!
Labels in letters, digits and hyphens. The other characters of a label are written behind the last
hyphen as numbers of variable length: how far to go from one insertion to the next.
-/
namespace LinkShot.Domain.Punycode

def base : Nat := 36
def leastDigit : Nat := 1
def mostDigit : Nat := 26

/-- The digit below which a number ends, at a position. -/
def threshold (bias position : Nat) : Nat := max leastDigit (min mostDigit (position - bias))

/-- Divides as long as a number is large, and counts the divisions. -/
def settle (delta count : Nat) : Nat × Nat :=
  if h : (base - leastDigit) * mostDigit / 2 < delta then
    settle (delta / (base - leastDigit)) (count + 1)
  else (delta, count)
  termination_by delta
  decreasing_by
    apply Nat.div_lt_self
    · simp only [base, leastDigit, mostDigit] at h
      omega
    · decide

/-- The bias after a number, when the label has `length` characters. -/
def adapt (delta length : Nat) (first : Bool) : Nat :=
  let delta := if first then delta / 700 else delta / 2
  let (delta, count) := settle (delta + delta / length) 0
  base * count + (base - leastDigit + 1) * delta / (delta + 38)

def digitOf? (c : Char) : Option Nat :=
  if c.isDigit then some (c.toNat - '0'.toNat + 26)
  else if 'a' ≤ c ∧ c ≤ 'z' then some (c.toNat - 'a'.toNat)
  else if 'A' ≤ c ∧ c ≤ 'Z' then some (c.toNat - 'A'.toNat)
  else none

def digitText (n : Nat) : Char :=
  if n < 26 then Char.ofNat ('a'.toNat + n) else Char.ofNat ('0'.toNat + (n - 26))

/-- A label that is being read: the characters so far, the code point and the place of the last
insertion, and the number that is being read with its weight and position. -/
structure Reading where
  label : List Char
  code : Nat
  place : Nat
  bias : Nat
  number : Nat
  weight : Nat
  position : Nat

def firstCode : Nat := 0x80
def firstBias : Nat := 72

def Reading.start (label : List Char) : Reading := ⟨label, firstCode, 0, firstBias, 0, 1, base⟩

def Reading.isBetween (r : Reading) : Bool := r.position == base

/-- Takes a digit; the last one of a number inserts a character. -/
def Reading.take (r : Reading) (digit : Nat) : Option Reading :=
  let number := r.number + digit * r.weight
  let limit := threshold r.bias r.position
  if limit ≤ digit then
    some { r with number, weight := r.weight * (base - limit), position := r.position + base }
  else
    let length := r.label.length + 1
    let code := r.code + (r.place + number) / length
    let place := (r.place + number) % length
    if code.isValidChar then
      some ⟨r.label.take place ++ Char.ofNat code :: r.label.drop place, code, place + 1,
        adapt number length (r.label.all (·.toNat < firstCode)), 0, 1, base⟩
    else none

/-- The characters before the last hyphen, and those behind it. A hyphen in front separates
nothing. -/
def splitLast (cs : List Char) : List Char × List Char :=
  match cs.reverse.dropWhile (· ≠ '-') with
  | [] | [_] => ([], cs)
  | _ :: before => (before.reverse, (cs.reverse.takeWhile (· ≠ '-')).reverse)

/-- The label that letters, digits and hyphens stand for. -/
def decode? (cs : List Char) : Option (List Char) := do
  let (plain, coded) := splitLast cs
  let r ← coded.foldlM (fun r c => (digitOf? c).bind r.take) (Reading.start plain)
  if r.isBetween && plain.all (·.toNat < firstCode) then some r.label else none

/-- The digits of a number. -/
def digits (bias number position : Nat) : List Char :=
  let limit := threshold bias position
  if number < limit then [digitText number]
  else
    digitText (limit + (number - limit) % (base - limit)) ::
      digits bias ((number - limit) / (base - limit)) (position + base)
  termination_by number
  decreasing_by
    have : 1 ≤ threshold bias position := by simp only [threshold, leastDigit]; omega
    exact Nat.lt_of_le_of_lt (Nat.div_le_self _ _) (by omega)

/-- A label that is being written: what is written, the distance since the last insertion, the bias
and how many characters are done. -/
structure Writing where
  text : List Char
  distance : Nat
  bias : Nat
  done : Nat

/-- Passes a character of the label while those of one code point are written. -/
def Writing.pass (plain code : Nat) (w : Writing) (c : Char) : Writing :=
  if c.toNat < code then { w with distance := w.distance + 1 }
  else if c.toNat = code then
    ⟨w.text ++ digits w.bias w.distance base, 0, adapt w.distance (w.done + 1) (w.done == plain),
      w.done + 1⟩
  else w

/-- Writes the characters of the code points in a rising list. -/
def writeCodes (label : List Char) (plain : Nat) : Nat → List Nat → Writing → Writing
  | _, [], w => w
  | next, code :: rest, w =>
    let w := { w with distance := w.distance + (code - next) * (w.done + 1) }
    let w := label.foldl (Writing.pass plain code) w
    writeCodes label plain (code + 1) rest { w with distance := w.distance + 1 }

/-- The code points of a label outside of ASCII, rising, each once. -/
def codesOf (label : List Char) : List Nat :=
  ((label.map Char.toNat).filter (firstCode ≤ ·)).mergeSort.eraseReps

def encode (label : List Char) : List Char :=
  let plain := label.filter (·.toNat < firstCode)
  let start := if plain.isEmpty then [] else plain ++ ['-']
  (writeCodes label plain.length firstCode (codesOf label)
    ⟨start, 0, firstBias, plain.length⟩).text

end LinkShot.Domain.Punycode

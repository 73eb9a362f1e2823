import LinkShot.Regex.Syntax

/-!
How large an expression is as an automaton over UTF-8 bytes. Expressions beyond a limit are refused,
so that counted repetitions cannot be used to build huge ones.
-/
namespace LinkShot.Regex

open Text (CharSet)

/-- Bytes of a state, and of an edge in a state with several. -/
def stateSize : Nat := 32
def edgeSize : Nat := 8
def branchSize : Nat := 4

/-- The largest code points of one, two and three bytes. -/
def byteLimits : List Nat := [0x7F, 0x7FF, 0xFFFF]

/-- Where a range of code points has to be cut in two so that its encodings are the product of
ranges of bytes: at surrogates, where the length changes, and where a part of the bytes is not
full. -/
def cut? (a b : Nat) : Option (List (Nat × Nat)) :=
  if a < 0xE000 ∧ b > 0xD7FF then some [(a, 0xD7FF), (0xE000, b)]
  else match byteLimits.find? (fun m => a ≤ m && m < b) with
    | some m => some [(a, m), (m + 1, b)]
    | none =>
      if b ≤ 0x7F then none
      else [1, 2, 3].findSome? fun i =>
        let unit := Nat.pow 64 i
        if a / unit = b / unit then none
        else if a % unit ≠ 0 then 
          some [(a, a / unit * unit + unit - 1), (a / unit * unit + unit, b)]
        else if b % unit ≠ unit - 1 then some [(a, b / unit * unit - 1), (b / unit * unit, b)]
        else none

/-- A range cut into products of byte ranges, in order. The fuel bounds the cuts. -/
def byteProducts : Nat → List (Nat × Nat) → List (Nat × Nat)
  | 0, _ => []
  | _ + 1, [] => []
  | fuel + 1, (a, b) :: rest =>
    if b < a then byteProducts fuel rest
    else match cut? a b with
      | some parts => byteProducts fuel (parts ++ rest)
      | none => (a, b) :: byteProducts fuel rest

def bytesOf (n : Nat) : List Nat :=
  if n ≤ 0x7F then [n]
  else if n ≤ 0x7FF then [0xC0 + n / 64, 0x80 + n % 64]
  else if n ≤ 0xFFFF then [0xE0 + n / 4096, 0x80 + n / 64 % 64, 0x80 + n % 64]
  else [0xF0 + n / 262144, 0x80 + n / 4096 % 64, 0x80 + n / 64 % 64, 0x80 + n % 64]

def commonLength : List (Nat × Nat) → List (Nat × Nat) → Nat
  | p :: ps, q :: qs => if p = q then commonLength ps qs + 1 else 0
  | _, _ => 0

/-- The states of a set of encodings that share their beginnings, and the number of encodings. -/
def trieSize (products : List (Nat × Nat)) : Nat × Nat :=
  let (states, count, _) := products.foldl
    (fun (state : Nat × Nat × List (Nat × Nat)) p =>
      let (states, count, last) := state
      let path := (bytesOf p.1).zip (bytesOf p.2)
      (states + path.length - commonLength last path, count + 1, path))
    (0, 0, [])
  (states, count)

def setSize (s : CharSet) : Nat :=
  match s.toList with
  | [(a, b)] =>
    if a = b then stateSize * (bytesOf a).length
    else if b < 0x80 then 2 * stateSize + edgeSize
    else
      let (states, count) := trieSize (byteProducts 100 [(a, b)])
      stateSize * (states + 2) + branchSize * count
  | ranges =>
    if s.isAscii then 2 * stateSize + edgeSize * ranges.length
    else
      let (states, count) := trieSize (byteProducts (100 * ranges.length) ranges)
      stateSize * (states + 2) + branchSize * count

/-- The size of an expression, with or without the states that mark groups. -/
def Node.size (groups : Bool) : Node → Nat
  | .empty | .look _ => stateSize
  | .set s => setSize s
  | .group _ sub => sub.size groups + if groups then 2 * stateSize else 0
  | .concat a b => a.size groups + b.size groups
  | .choice a b =>
    a.size groups + b.size groups +
      match b with
      | .choice _ _ => branchSize
      | _ => 2 * stateSize + 2 * branchSize
  | .repeats sub least most _ =>
    let one := sub.size groups
    let branch := stateSize + 2 * branchSize
    match most with
    | none =>
      if least = 0 then one + (if sub.canBeEmpty then 2 * branch + stateSize else branch)
      else least * one + branch
    | some most =>
      most * one + if least = most then 0 else (most - least) * branch + stateSize

def sizeLimit : Nat := 10 * Nat.pow 2 20

def Node.fits (node : Node) : Bool := node.size true ≤ sizeLimit

end LinkShot.Regex

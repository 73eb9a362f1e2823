import LinkShot.Text.Hex
import LinkShot.Text.Number
import LinkShot.Text.Split

/-! Numeric hosts: four bytes with dots between them, or eight pieces with colons between them. -/
namespace LinkShot.Url

/-! ## Four bytes -/

/-- The value of digits in a base. -/
def valueIn? (base : Nat) (cs : List Char) : Option Nat :=
  cs.foldlM (fun n c => match Text.hexValue? c with
    | some d => if d < base then some (n * base + d) else none
    | none => none) 0

/-- A part of an address; a zero before it makes it octal, and a zero and an `x` hexadecimal. -/
def part? : List Char → Option Nat
  | [] => none
  | '0' :: 'x' :: rest | '0' :: 'X' :: rest => valueIn? 16 rest
  | '0' :: c :: rest => valueIn? 8 (c :: rest)
  | cs => valueIn? 10 cs

/-- The parts of a name; an empty one at the end does not count. -/
def partsOf (name : List Char) : List (List Char) :=
  match (Text.splitOn '.' name).reverse with
  | [] :: rest => rest.reverse
  | parts => parts.reverse

/-- Whether the last part of a name is a number, so that the whole has to be an address. -/
def endsInNumber (name : List Char) : Bool :=
  match (partsOf name).getLast? with
  | some [] | none => false
  | some last => last.all Char.isDigit || (part? last).isSome

/-- The last part fills all bytes that are left. -/
def combine (numbers : List Nat) : Option Nat :=
  match numbers.reverse with
  | [] => none
  | last :: before =>
    let room := Nat.pow 256 (4 - before.length)
    if before.any (255 < ·) || room ≤ last then none
    else some (before.foldr (fun byte high => 256 * high + byte) 0 * room + last)

def ipv4? (name : List Char) : Option Nat :=
  if 4 < (partsOf name).length then none
  else ((partsOf name).mapM part?).bind combine

/-! ## Eight pieces -/

/-- One piece: up to four hexadecimal digits. -/
def piece? (cs : List Char) : Option Nat :=
  if cs.isEmpty || 4 < cs.length then none else valueIn? 16 cs

/-- A decimal byte without zeros before it. -/
def byte? : List Char → Option Nat
  | ['0'] => some 0
  | '0' :: _ | [] => none
  | cs => if cs.all Char.isDigit then (Text.digits? cs).filter (· ≤ 255) else none

/-- The two pieces that four decimal bytes stand for. -/
def dotted? (cs : List Char) : Option (List Nat) := do
  let [a, b, c, d] ← (Text.splitOn '.' cs).mapM byte? | none
  return [a * 256 + b, c * 256 + d]

/-- Pieces with colons between them; decimal bytes may stand for the last two. -/
def pieces? : List (List Char) → Option (List Nat)
  | [] => some []
  | [last] => if last.contains '.' then dotted? last else (piece? last).map ([·])
  | cs :: rest => do return (← piece? cs) :: (← pieces? rest)

/-- The text before two colons and the text behind them. -/
def splitGap : List Char → Option (List Char × List Char)
  | ':' :: ':' :: rest => some ([], rest)
  | c :: rest => (splitGap rest).map fun (before, after) => (c :: before, after)
  | [] => none

def piecesOf (cs : List Char) : Option (List Nat) :=
  if cs.isEmpty then some [] else pieces? (Text.splitOn ':' cs)

/-- Decimal bytes stand at the end of the whole address only. -/
def ipv6? (cs : List Char) : Option (List Nat) :=
  match splitGap cs with
  | none => (piecesOf cs).filter (·.length = 8)
  | some (before, after) =>
    if before.contains '.' then none
    else do
      let high ← piecesOf before
      let low ← piecesOf after
      if high.length + low.length < 8 then
        some (high ++ List.replicate (8 - high.length - low.length) 0 ++ low)
      else none

end LinkShot.Url

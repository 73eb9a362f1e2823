import LinkShot.Json.Tree

/-!
From bytes to syntax trees. Every reader returns what it read and the bytes after it, or no bytes
when the text broke off there.
-/
namespace LinkShot.Json

open Text (Bytes)

def isBlankByte (b : UInt8) : Bool := b == 0x20 || b == 0x0A || b == 0x09 || b == 0x0D

def skipBlank (bs : Bytes) : Bytes := bs.dropWhile isBlankByte

def isDigitByte (b : UInt8) : Bool := 0x30 ≤ b && b ≤ 0x39

def byteOf (c : Char) : UInt8 := UInt8.ofNat c.toNat

/-- A letter that escapes one character, and the character's byte. -/
def escapeLetter (b : UInt8) : Option UInt8 :=
  if b = byteOf '"' ∨ b = byteOf '\\' ∨ b = byteOf '/' then some b
  else if b = byteOf 'b' then some 8
  else if b = byteOf 'f' then some 12
  else if b = byteOf 'n' then some 10
  else if b = byteOf 'r' then some 13
  else if b = byteOf 't' then some 9
  else none

def hexByte? (b : UInt8) : Option Nat :=
  let n := b.toNat
  if 48 ≤ n ∧ n ≤ 57 then some (n - 48)
  else if 65 ≤ n ∧ n ≤ 70 then some (n - 55)
  else if 97 ≤ n ∧ n ≤ 102 then some (n - 87)
  else none

def hexUnit? (a b c d : UInt8) : Option Nat := do
  return (((← hexByte? a) * 16 + (← hexByte? b)) * 16 + (← hexByte? c)) * 16 + (← hexByte? d)

/-- The pieces up to the closing quote, how they end, and the bytes after. -/
def readString : Bytes → List Piece × StringEnd × Bytes
  | [] => ([], .missing, [])
  | b :: rest =>
    if b = byteOf '"' then ([], .closed, rest)
    else if b < 0x20 then ([], .control, [])
    else if b = byteOf '\\' then
      match rest with
      | [] => ([], .missing, [])
      | e :: rest =>
        if e = byteOf 'u' then
          match rest with
          | h :: i :: j :: k :: rest =>
            match hexUnit? h i j k with
            | some u =>
              let (pieces, tail) := readString rest
              (.unit u :: pieces, tail)
            | none => ([], .badDigits, [])
          | _ => ([], .missing, [])
        else match escapeLetter e with
          | some c =>
            let (pieces, tail) := readString rest
            (.escaped c :: pieces, tail)
          | none => ([], .badEscape, [])
    else
      let (pieces, tail) := readString rest
      (.raw b :: pieces, tail)

def readLiteral (bs : Bytes) : Literal × Option Bytes :=
  let (pieces, ending, rest) := readString bs
  (⟨pieces, ending⟩, if ending = .closed then some rest else none)

/-- The bytes after `word`, which has to come next. -/
def readWord : List Char → Bytes → Except Break Bytes
  | [], rest => .ok rest
  | _ :: _, [] => .error .noValue
  | c :: word, b :: rest => if b = byteOf c then readWord word rest else .error .word

def readDigits (bs : Bytes) : List Nat × Bytes :=
  ((bs.takeWhile isDigitByte).map (fun b => b.toNat - 48), bs.dropWhile isDigitByte)

/-- Digits, at least one. -/
def readSomeDigits (bs : Bytes) : Except Break (List Nat × Bytes) :=
  match readDigits bs with
  | ([], []) => .error .numberEnd
  | ([], _ :: _) => .error .number
  | found => .ok found

def readWhole (bs : Bytes) : Except Break (List Nat × Bytes) :=
  match readSomeDigits bs with
  | .ok (0 :: _ :: _, _) => .error .number
  | found => found

def readFraction : Bytes → Except Break (Option (List Nat) × Bytes)
  | [] => .ok (none, [])
  | b :: rest =>
    if b = byteOf '.' then (readSomeDigits rest).map fun (digits, rest) => (some digits, rest)
    else .ok (none, b :: rest)

def readExponent : Bytes → Except Break (Option Int × Bytes)
  | [] => .ok (none, [])
  | b :: rest =>
    if b = byteOf 'e' ∨ b = byteOf 'E' then
      let (negative, rest) := match rest with
        | c :: rest' =>
          if c = byteOf '-' then (true, rest')
          else if c = byteOf '+' then (false, rest')
          else (false, rest)
        | [] => (false, [])
      (readSomeDigits rest).map fun (digits, rest) =>
        let size : Nat := digits.foldl (fun n d => 10 * n + d) 0
        (some (if negative then -(size : Int) else size), rest)
    else .ok (none, b :: rest)

/-- A number behind its sign. -/
def readNumber (negative : Bool) (bs : Bytes) : Except Break (NumberText × Bytes) := do
  let (whole, rest) ← readWhole bs
  let (fraction, rest) ← readFraction rest
  let (exponent, rest) ← readExponent rest
  return (⟨negative, whole, fraction.getD [], fraction.isSome, exponent⟩, rest)

def orBroken (read : Except Break (Tree × Bytes)) : Tree × Option Bytes :=
  match read with
  | .ok (tree, rest) => (tree, some rest)
  | .error b => (.broken b, none)

mutual

/-- Each call spends one unit of fuel and two calls read at least one byte, so that twice the length
of the text is fuel enough. -/
def readTree : Nat → Bytes → Tree × Option Bytes
  | 0, _ => (.broken .noValue, none)
  | fuel + 1, bs =>
    match skipBlank bs with
    | [] => (.broken .noValue, none)
    | b :: rest =>
      if b = byteOf 'n' then orBroken ((readWord ['u', 'l', 'l'] rest).map (.null, ·))
      else if b = byteOf 't' then orBroken ((readWord ['r', 'u', 'e'] rest).map (.bool true, ·))
      else if b = byteOf 'f' then
        orBroken ((readWord ['a', 'l', 's', 'e'] rest).map (.bool false, ·))
      else if b = byteOf '-' then
        orBroken ((readNumber true rest).map fun (t, rest) => (.number t, rest))
      else if isDigitByte b then
        orBroken ((readNumber false (b :: rest)).map fun (t, rest) => (.number t, rest))
      else if b = byteOf '"' then
        let (literal, rest) := readLiteral rest
        (.string literal, rest)
      else if b = byteOf '[' then
        let (items, ending, rest) := readItems fuel true rest
        (.array items ending, rest)
      else if b = 0x7B then
        let (members, ending, rest) := readMembers fuel true rest
        (.object members ending, rest)
      else (.broken .notValue, none)

/-- The items of a list from behind its bracket or an item. -/
def readItems : Nat → Bool → Bytes → List Tree × Option Break × Option Bytes
  | 0, _, _ => ([], some .listEnd, none)
  | fuel + 1, first, bs =>
    let next (bs : Bytes) : List Tree × Option Break × Option Bytes :=
      match readTree fuel bs with
      | (item, none) => ([item], none, none)
      | (item, some rest) =>
        let (items, tail) := readItems fuel false rest
        (item :: items, tail)
    match skipBlank bs with
    | [] => ([], some .listEnd, none)
    | b :: rest =>
      if b = byteOf ']' then ([], none, some rest)
      else if first then next (b :: rest)
      else if b = byteOf ',' then
        match skipBlank rest with
        | [] => ([], some .noValue, none)
        | c :: rest =>
          if c = byteOf ']' then ([], some .listCommaClose, none) else next (c :: rest)
      else ([], some .listComma, none)

/-- The members of an object from behind its brace or a member. -/
def readMembers : Nat → Bool → Bytes → List (Literal × Tree) × Option Break × Option Bytes
  | 0, _, _ => ([], some .objectEnd, none)
  | fuel + 1, first, bs =>
    let next (bs : Bytes) : List (Literal × Tree) × Option Break × Option Bytes :=
      match readLiteral bs with
      | (key, none) => ([(key, .broken .noColon)], none, none)
      | (key, some rest) =>
        match skipBlank rest with
        | [] => ([(key, .broken .objectEnd)], none, none)
        | c :: rest =>
          if c = byteOf ':' then
            match readTree fuel rest with
            | (value, none) => ([(key, value)], none, none)
            | (value, some rest) =>
              let (members, tail) := readMembers fuel false rest
              ((key, value) :: members, tail)
          else ([(key, .broken .noColon)], none, none)
    match skipBlank bs with
    | [] => ([], some .objectEnd, none)
    | b :: rest =>
      if b = 0x7D then ([], none, some rest)
      else if first then
        if b = byteOf '"' then next rest else ([], some .keyNotString, none)
      else if b = byteOf ',' then
        match skipBlank rest with
        | [] => ([], some .objectCommaEnd, none)
        | c :: rest =>
          if c = byteOf '"' then next rest
          else if c = 0x7D then ([], some .objectCommaClose, none)
          else ([], some .keyNotString, none)
      else ([], some .objectComma, none)

end

/-- The tree of a text, and whether anything but blanks follows the value. -/
def readText (bs : Bytes) : Tree × Bool :=
  match readTree (2 * bs.length + 2) bs with
  | (tree, none) => (tree, false)
  | (tree, some rest) => (tree, !(skipBlank rest).isEmpty)

end LinkShot.Json

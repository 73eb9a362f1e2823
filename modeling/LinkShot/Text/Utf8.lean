/-!
UTF-8 over byte lists. `units` splits bytes into characters and maximal ill-formed parts; strict and
lossy decoding are two readings of it.
-/
namespace LinkShot.Text

abbrev Bytes := List UInt8

def utf8 (cs : List Char) : Bytes := cs.flatMap String.utf8EncodeChar

def encode (s : String) : Bytes := utf8 s.toList

/-- A character whose first byte has been read: how many bytes it still owes, the range of the next
one, and the bits so far. -/
structure Owing where
  more : Nat
  low : UInt8
  high : UInt8
  bits : Nat

/-- What a byte means between characters. -/
inductive Lead where
  | whole (c : Char)
  | opens (o : Owing)
  | stray

def lead (b : UInt8) : Lead :=
  let n := b.toNat
  if n < 0x80 then .whole (Char.ofNat n)
  else if n < 0xC2 then .stray
  else if n < 0xE0 then .opens ⟨0, 0x80, 0xBF, n - 0xC0⟩
  else if n = 0xE0 then .opens ⟨1, 0xA0, 0xBF, 0⟩
  else if n = 0xED then .opens ⟨1, 0x80, 0x9F, 13⟩
  else if n < 0xF0 then .opens ⟨1, 0x80, 0xBF, n - 0xE0⟩
  else if n = 0xF0 then .opens ⟨2, 0x90, 0xBF, 0⟩
  else if n < 0xF4 then .opens ⟨2, 0x80, 0xBF, n - 0xF0⟩
  else if n = 0xF4 then .opens ⟨2, 0x80, 0x8F, 4⟩
  else .stray

/-- Characters, and `none` for each longest part that begins a character and does not finish it. -/
def unitsFrom : Option Owing → Bytes → List (Option Char)
  | none, [] => []
  | some _, [] => [none]
  | owing, b :: rest =>
    let fresh := fun (_ : Unit) => match lead b with
      | .whole c => some c :: unitsFrom none rest
      | .opens o => unitsFrom (some o) rest
      | .stray => none :: unitsFrom none rest
    match owing with
    | none => fresh ()
    | some o =>
      if o.low ≤ b ∧ b ≤ o.high then
        let bits := o.bits * 64 + (b.toNat - 0x80)
        match o.more with
        | 0 => some (Char.ofNat bits) :: unitsFrom none rest
        | n + 1 => unitsFrom (some ⟨n, 0x80, 0xBF, bits⟩) rest
      else none :: fresh ()

def units (bs : Bytes) : List (Option Char) := unitsFrom none bs

def decode? (bs : Bytes) : Option String := ((units bs).mapM id).map String.ofList

/-- Where bytes stop to be UTF-8: the index of the ill-formed part, and its length unless the text
ends in it. -/
structure Flaw where
  index : Nat
  length : Option Nat
  deriving DecidableEq, Repr

def Flaw.message (f : Flaw) : String :=
  match f.length with
  | some length =>
    "invalid utf-8 sequence of " ++ toString length ++ " bytes from index " ++ toString f.index
  | none => "incomplete utf-8 byte sequence from index " ++ toString f.index

/-- The first flaw. A character that has been begun carries its index. -/
def flawFrom (index : Nat) : Option (Nat × Owing) → Bytes → Option Flaw
  | none, [] => none
  | some (start, _), [] => some ⟨start, none⟩
  | none, b :: rest => match lead b with
    | .whole _ => flawFrom (index + 1) none rest
    | .opens o => flawFrom (index + 1) (some (index, o)) rest
    | .stray => some ⟨index, some 1⟩
  | some (start, o), b :: rest =>
    if o.low ≤ b ∧ b ≤ o.high then
      match o.more with
      | 0 => flawFrom (index + 1) none rest
      | n + 1 => flawFrom (index + 1) (some (start, ⟨n, 0x80, 0xBF, 0⟩)) rest
    else some ⟨start, some (index - start)⟩

/-- The text of bytes, or what is wrong with them. -/
def decodeOrFlaw (bs : Bytes) : Except Flaw String :=
  match decode? bs with
  | some s => .ok s
  | none => .error ((flawFrom 0 none bs).getD ⟨0, none⟩)

/-- Every ill-formed part becomes one U+FFFD. -/
def decodeLossy (bs : Bytes) : String :=
  String.ofList ((units bs).map (·.getD (Char.ofNat 0xFFFD)))

end LinkShot.Text

/-!
Result templates. A template is read as pieces, each a plain character or a token `$inner$` with a
non-empty `inner`; the pieces written one after another are the template again.
-/
namespace LinkShot.Template

inductive Piece where
  | plain (c : Char)
  | token (inner : List Char)
  deriving DecidableEq, Repr

def Piece.source : Piece → List Char
  | .plain c => [c]
  | .token inner => '$' :: (inner ++ ['$'])

/-- Reads on with an open `$` and the characters since then in reverse, or with none open. A second
`$` right after the first leaves the first as plain text and is open itself. -/
def scan : Option (List Char) → List Char → List Piece
  | none, [] => []
  | some inner, [] => .plain '$' :: inner.reverse.map .plain
  | none, c :: rest => if c = '$' then scan (some []) rest else .plain c :: scan none rest
  | some [], c :: rest =>
    if c = '$' then .plain '$' :: scan (some []) rest else scan (some [c]) rest
  | some (d :: inner), c :: rest =>
    if c = '$' then .token (d :: inner).reverse :: scan none rest
    else scan (some (c :: d :: inner)) rest

def pieces (template : List Char) : List Piece := scan none template

def byteLength (cs : List Char) : Nat := cs.foldr (fun c n => c.utf8Size + n) 0

/-- A token with its place in the template, in bytes, delimiters included. -/
structure Token where
  start : Nat
  stop : Nat
  inner : List Char
  deriving DecidableEq, Repr

def tokensFrom (offset : Nat) : List Piece → List Token
  | [] => []
  | piece :: rest =>
    let stop := offset + byteLength piece.source
    match piece with
    | .plain _ => tokensFrom stop rest
    | .token inner => ⟨offset, stop, inner⟩ :: tokensFrom stop rest

def tokenize (template : List Char) : List Token := tokensFrom 0 (pieces template)

end LinkShot.Template

import LinkShot.Text.Number

/-! What a token refers to, decided by the parts between its `:` and `,` separators. -/
namespace LinkShot.Template

inductive Reference where
  | group (index : Nat)
  | json (keys : List (List Char))
  | literal
  deriving DecidableEq, Repr

def isSeparator (c : Char) : Bool := c == ':' || c == ','

/-- The part being read, in reverse, and then the parts of the rest; empty parts are dropped. -/
def partsFrom (part : List Char) : List Char → List (List Char)
  | [] => if part.isEmpty then [] else [part.reverse]
  | c :: rest =>
    if isSeparator c then
      if part.isEmpty then partsFrom [] rest else part.reverse :: partsFrom [] rest
    else partsFrom (c :: part) rest

def parts (inner : List Char) : List (List Char) := partsFrom [] inner

def classify (inner : List Char) : Reference :=
  match parts inner with
  | [] => .literal
  | first :: keys =>
    match Text.word64? first with
    | some index => .group index
    | none => if first = ['j', 's', 'o', 'n'] ∧ keys ≠ [] then .json keys else .literal

end LinkShot.Template

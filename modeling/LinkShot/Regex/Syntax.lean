import LinkShot.Text.CharSet

/-! Regular expressions as trees. -/
namespace LinkShot.Regex

open Text (CharSet)

/-- Places between characters. -/
inductive Look where
  | start
  | stop
  | startLine
  | endLine
  | startLineCr
  | endLineCr
  | wordEdge (ascii : Bool)
  | notWordEdge (ascii : Bool)
  | wordStart (ascii : Bool)
  | wordEnd (ascii : Bool)
  | wordStartHalf (ascii : Bool)
  | wordEndHalf (ascii : Bool)
  deriving DecidableEq, Repr

inductive Node where
  | empty
  | set (s : CharSet)
  | look (l : Look)
  | repeats (sub : Node) (least : Nat) (most : Option Nat) (greedy : Bool)
  | group (index : Nat) (sub : Node)
  | concat (first second : Node)
  | choice (first second : Node)
  deriving Repr, Inhabited

namespace Node

/-- Whether the empty text is all that the expression can match. -/
def onlyEmpty : Node → Bool
  | .empty | .look _ => true
  | .set _ => false
  | .repeats sub _ most _ => most == some 0 || sub.onlyEmpty
  | .group _ sub => sub.onlyEmpty
  | .concat a b | .choice a b => a.onlyEmpty && b.onlyEmpty

/-- Whether the expression can match the empty text. -/
def canBeEmpty : Node → Bool
  | .empty | .look _ => true
  | .set _ => false
  | .repeats sub least _ _ => least == 0 || sub.canBeEmpty
  | .group _ sub => sub.canBeEmpty
  | .concat a b => a.canBeEmpty && b.canBeEmpty
  | .choice a b => a.canBeEmpty || b.canBeEmpty

/-- A repetition. What only matches the empty text is repeated at most once, and repeating nothing
at all drops the expression with the groups in it. -/
def mkRepeats (sub : Node) (least : Nat) (most : Option Nat) (greedy : Bool) : Node :=
  let (least, most) :=
    if sub.onlyEmpty then (min least 1, some (min (most.getD 1) 1)) else (least, most)
  match least, most with
  | 0, some 0 => .empty
  | 1, some 1 => sub
  | _, _ => .repeats sub least most greedy

def ofConcat : List Node → Node
  | [] => .empty
  | [n] => n
  | n :: rest => .concat n (ofConcat rest)

def ofChoice : List Node → Node
  | [] => .empty
  | [n] => n
  | n :: rest => .choice n (ofChoice rest)

/-- The number of groups, the whole match included. -/
def groupCount : Node → Nat
  | .empty | .set _ | .look _ => 1
  | .repeats sub _ _ _ => sub.groupCount
  | .group index sub => max (index + 1) sub.groupCount
  | .concat a b | .choice a b => max a.groupCount b.groupCount

end Node
end LinkShot.Regex

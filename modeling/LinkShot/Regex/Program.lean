import LinkShot.Regex.Classes

/-!
Expressions as programs: instructions that read a character, test a place, note a position or
branch, the preferred branch first.
-/
namespace LinkShot.Regex

open Text (CharSet)

inductive Inst where
  | read (s : CharSet) (next : Nat)
  | look (l : Look) (next : Nat)
  | split (first second : Nat)
  | save (slot next : Nat)
  | done
  deriving Repr, Inhabited

abbrev Program := Array Inst

def branch (greedy : Bool) (again leave : Nat) : Inst :=
  if greedy then .split again leave else .split leave again

/-- Emits something so many times in a row, the last first. -/
def copies (one : Nat → Program → Nat × Program) : Nat → Nat → Program → Nat × Program
  | 0, next, p => (next, p)
  | n + 1, next, p =>
    let (start, p) := one next p
    copies one n start p

/-- Emits something that may be left out so many times, each time with all that follows it. -/
def optionals (one : Nat → Program → Nat × Program) (greedy : Bool) (leave : Nat) :
    Nat → Nat → Program → Nat × Program
  | 0, next, p => (next, p)
  | n + 1, next, p =>
    let (start, p) := one next p
    optionals one greedy leave n p.size (p.push (branch greedy start leave))

/-- Emits something once or more: its start, and the place of the branch behind it. -/
def looped (one : Nat → Program → Nat × Program) (greedy : Bool) (next : Nat) (p : Program) :
    Nat × Nat × Program :=
  let back := p.size
  let (start, p) := one back (p.push .done)
  (start, back, p.setIfInBounds back (branch greedy start next))

/-- Emits an expression that goes on at `next`; the result is its start. An expression that can
match the empty text is repeated as one or more times, or not at all: so an empty round ends the
loop. -/
def Node.emit : Node → Nat → Program → Nat × Program
  | .empty, next, p => (next, p)
  | .set s, next, p => (p.size, p.push (.read s next))
  | .look l, next, p => (p.size, p.push (.look l next))
  | .group index sub, next, p =>
    let (start, p) := sub.emit p.size (p.push (.save (2 * index + 1) next))
    (p.size, p.push (.save (2 * index) start))
  | .concat a b, next, p =>
    let (start, p) := b.emit next p
    a.emit start p
  | .choice a b, next, p =>
    let (second, p) := b.emit next p
    let (first, p) := a.emit next p
    (p.size, p.push (.split first second))
  | .repeats sub least most greedy, next, p =>
    let one := sub.emit
    match most with
    | some most =>
      let (start, p) := optionals one greedy next (most - least) next p
      copies one least start p
    | none =>
      let (start, back, p) := looped one greedy next p
      if least = 0 then
        if sub.canBeEmpty then (p.size, p.push (branch greedy start next)) else (back, p)
      else copies one (least - 1) start p

/-- The program of an expression and the place where it starts; the whole match is group 0. -/
def Node.program (node : Node) : Nat × Program := (Node.group 0 node).emit 0 #[.done]

end LinkShot.Regex

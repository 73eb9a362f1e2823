/-!
Sets of characters as sorted disjoint ranges of code points. Tables are written as text: for each
range the distance from the end of the one before, and its length.
-/
namespace LinkShot.Text

structure CharSet where
  ranges : Array (Nat × Nat)
  deriving Repr, Inhabited

namespace CharSet

/-- Binary search between two positions; the fuel bounds the halvings. -/
def search (s : CharSet) (n : Nat) : Nat → Nat → Nat → Bool
  | 0, _, _ => false
  | fuel + 1, low, high =>
    if high ≤ low then false
    else
      let middle := (low + high) / 2
      match s.ranges[middle]? with
      | none => false
      | some (a, b) =>
        if n < a then search s n fuel low middle
        else if b < n then search s n fuel (middle + 1) high
        else true

def hasCode (s : CharSet) (n : Nat) : Bool := s.search n 32 0 s.ranges.size

def has (s : CharSet) (c : Char) : Bool := s.hasCode c.toNat

/-- The numbers of a text, whatever stands between them. -/
def numbers (text : String) : Array Nat :=
  let (read, last) := text.foldl
    (fun (state : Array Nat × Option Nat) c =>
      let (read, current) := state
      if c.isDigit then (read, some (current.getD 0 * 10 + (c.toNat - 48)))
      else match current with
        | some n => (read.push n, none)
        | none => state)
    (#[], none)
  match last with
  | some n => read.push n
  | none => read

/-- The set that a table describes. -/
def ofGaps (text : String) : CharSet :=
  let (ranges, _, _) := (numbers text).foldl
    (fun (state : Array (Nat × Nat) × Nat × Option Nat) n =>
      let (ranges, position, start) := state
      match start with
      | none => (ranges, position, some (position + n))
      | some first => (ranges.push (first, first + n - 1), first + n, none))
    (#[], 0, none)
  ⟨ranges⟩

/-- Joins ranges that overlap or touch, in a list sorted by their starts. -/
def join : List (Nat × Nat) → List (Nat × Nat)
  | [] => []
  | r :: rest =>
    let (done, last) := rest.foldl
      (fun (state : List (Nat × Nat) × (Nat × Nat)) next =>
        let (done, (a, b)) := state
        if next.1 ≤ b + 1 then (done, (a, max b next.2)) else ((a, b) :: done, next))
      ([], r)
    (last :: done).reverse

def ofRanges (ranges : List (Nat × Nat)) : CharSet :=
  ⟨(join (ranges.mergeSort (fun a b => a.1 ≤ b.1))).toArray⟩

def toList (s : CharSet) : List (Nat × Nat) := s.ranges.toList

def empty : CharSet := ⟨#[]⟩

def single (c : Char) : CharSet := ⟨#[(c.toNat, c.toNat)]⟩

def lastCode : Nat := 0x10FFFF

def all : CharSet := ⟨#[(0, lastCode)]⟩

def union (s t : CharSet) : CharSet := ofRanges (s.toList ++ t.toList)

/-- The ranges between those of a sorted list, from `start` on. -/
def gapsFrom (start : Nat) : List (Nat × Nat) → List (Nat × Nat)
  | [] => if start ≤ lastCode then [(start, lastCode)] else []
  | (a, b) :: rest =>
    if start < a then (start, a - 1) :: gapsFrom (b + 1) rest else gapsFrom (b + 1) rest

def complement (s : CharSet) : CharSet := ⟨(gapsFrom 0 s.toList).toArray⟩

def inter (s t : CharSet) : CharSet := (s.complement.union t.complement).complement

def diff (s t : CharSet) : CharSet := s.inter t.complement

def symmDiff (s t : CharSet) : CharSet := (s.diff t).union (t.diff s)

def isAscii (s : CharSet) : Bool := s.ranges.all (·.2 < 0x80)

end CharSet
end LinkShot.Text

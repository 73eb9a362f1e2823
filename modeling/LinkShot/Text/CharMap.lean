import LinkShot.Text.CharSet

/-! Maps from characters to short texts, written as tables: runs with one image for each character,
and single characters with several. -/
namespace LinkShot.Text

/-- Runs are four numbers, first, count, step and the image of the first. Specials are a character,
how many images it has, and the images. -/
structure CharMap where
  runs : List Nat
  specials : List Nat

namespace CharMap

def ofTables (runs specials : String) : CharMap :=
  ⟨(CharSet.numbers runs).toList, (CharSet.numbers specials).toList⟩

def findRun (n : Nat) : List Nat → Option Nat
  | first :: count :: step :: image :: rest =>
    if first ≤ n ∧ n < first + count * step ∧ (n - first) % step = 0 then some (image + (n - first))
    else findRun n rest
  | _ => none

/-- Looks for an entry; the fuel is the count of numbers. -/
def findSpecial (n : Nat) : Nat → List Nat → Option (List Nat)
  | fuel + 1, c :: count :: rest =>
    if c = n then some (rest.take count) else findSpecial n fuel (rest.drop count)
  | _, _ => none

/-- The text that a character is mapped to, if the map has one. -/
def image? (m : CharMap) (c : Char) : Option (List Char) :=
  match findSpecial c.toNat m.specials.length m.specials with
  | some images => some (images.map Char.ofNat)
  | none => (findRun c.toNat m.runs).map fun image => [Char.ofNat image]

end CharMap
end LinkShot.Text

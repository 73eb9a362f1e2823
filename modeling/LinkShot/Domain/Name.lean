import LinkShot.Domain.Direction
import LinkShot.Domain.Joiner
import LinkShot.Domain.Mapping
import LinkShot.Domain.Punycode
import LinkShot.Regex.Classes
import LinkShot.Text.Split

/-!
Domain names. A name in any script becomes labels in ASCII; nothing comes of a name that has a
character, a label or a direction that names may not have.
-/
namespace LinkShot.Domain

open Text (CharSet)

/-- Characters that a host may not have: controls, the blank, and those that end or divide an
address. -/
def isForbidden (c : Char) : Bool :=
  c.toNat ≤ 0x20 || c.toNat = 0x7F || "%#/:<>?@[\\]^|".toList.contains c

def isAscii (c : Char) : Bool := c.toNat < 0x80

/-- Marks, which may not begin a label. -/
def marks : CharSet := (Regex.category? "m").getD .empty

def codedPrefix : List Char := "xn--".toList

/-- The characters of a label that stands for others; it has some outside of ASCII, and they stand
for themselves. -/
def decodeLabel? (label : List Char) : Option (List Char) :=
  if codedPrefix.isPrefixOf label then
    if label.all isAscii then
      match Punycode.decode? (label.drop codedPrefix.length) with
      | some cs =>
        if !cs.all isAscii && cs.all validSet.has && composed cs == cs then some cs else none
      | none => none
    else none
  else some label

def startsWithMark : List Char → Bool
  | c :: _ => marks.has c
  | [] => false

def isLabel (label : List Char) : Bool := !startsWithMark label && joinersFit [] label

def encodeLabel (label : List Char) : List Char :=
  if label.all isAscii then label else codedPrefix ++ Punycode.encode label

/-- The characters of a name as they stand, in composed form. -/
def mapName? (name : List Char) : Option (List Char) :=
  (name.mapM mapped?).map fun images => composed images.flatten

/-- The labels of a name. -/
def labels? (name : List Char) : Option (List (List Char)) := do
  let labels ← (Text.splitOn '.' (← mapName? name)).mapM decodeLabel?
  if labels.all isLabel && areReadable labels && !labels.any (·.any isForbidden) then some labels
  else none

/-- The name in ASCII. -/
def toAscii? (name : List Char) : Option (List Char) :=
  (labels? name).map fun labels => (labels.map encodeLabel).intersperse ['.'] |>.flatten

end LinkShot.Domain

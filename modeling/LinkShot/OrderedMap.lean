/-!
String maps in order of first insertion. Arguments and headers are such maps: the order of their
entries is the order of query parameters, form parts and headers.
-/
namespace LinkShot

structure OrderedMap where
  entries : List (String × String)
  deriving DecidableEq, Repr, Inhabited

namespace OrderedMap

def empty : OrderedMap := ⟨[]⟩

/-- Puts `entry` in the place of the first entry whose key is `same`, or at the end. -/
def place (same : String → Bool) (entry : String × String) :
    List (String × String) → Option String × List (String × String)
  | [] => (none, [entry])
  | (k, v) :: rest =>
    if same k then (some v, entry :: rest)
    else
      let (old, placed) := place same entry rest
      (old, (k, v) :: placed)

/-- The value that `key` had before, and the map after. A known key keeps its place. -/
def exchange (m : OrderedMap) (key value : String) : Option String × OrderedMap :=
  let (old, entries) := place (· == key) (key, value) m.entries
  (old, ⟨entries⟩)

def insert (m : OrderedMap) (key value : String) : OrderedMap := (m.exchange key value).2

/-- Equal names as header names compare: ASCII letters of either case are the same. -/
def sameName (a b : String) : Bool := a.toList.map Char.toLower == b.toList.map Char.toLower

/-- Like `exchange` with header names for keys; the stored key takes the new spelling. -/
def exchangeName (m : OrderedMap) (key value : String) : Option String × OrderedMap :=
  let (old, entries) := place (sameName · key) (key, value) m.entries
  (old, ⟨entries⟩)

def insertName (m : OrderedMap) (key value : String) : OrderedMap := (m.exchangeName key value).2

def get? (m : OrderedMap) (key : String) : Option String := m.entries.lookup key

def size (m : OrderedMap) : Nat := m.entries.length

def isEmpty (m : OrderedMap) : Bool := m.entries.isEmpty

def ofList (pairs : List (String × String)) : OrderedMap :=
  pairs.foldl (fun m p => m.insert p.1 p.2) empty

def keys (m : OrderedMap) : List String := m.entries.map (·.1)

end OrderedMap
end LinkShot

import LinkShot.Binary64

/-!
TOML documents as trees. A table remembers how it was written, because that decides what may still
be added to it.
-/
namespace LinkShot.Toml

inductive Real where
  | finite (x : Binary64)
  | infinite (negative : Bool)
  | notNumber
  deriving DecidableEq, Repr

/-- Dates and times keep their text. -/
inductive Scalar where
  | text (s : String)
  | integer (i : Int)
  | real (r : Real)
  | bool (b : Bool)
  | moment (text : String)
  deriving DecidableEq, Repr

/-- A table has a header of its own, or only the headers of tables below it, or was made by a dotted
key, or is written between braces. -/
inductive TableKind where
  | headed
  | ancestor
  | dotted
  | inline
  deriving DecidableEq, Repr

inductive Node where
  | scalar (s : Scalar)
  | list (items : List Node)
  | table (kind : TableKind) (members : List (String × Node))
  | tables (items : List (List (String × Node)))
  deriving Repr, Inhabited

abbrev Members := List (String × Node)

/-- Puts the node that `change` makes of the old one, or nothing if it refuses. -/
def alter (key : String) (change : Option Node → Option Node) : Members → Option Members
  | [] => (change none).map fun new => [(key, new)]
  | (k, old) :: rest =>
    if k = key then (change (some old)).map fun new => (k, new) :: rest
    else (alter key change rest).map ((k, old) :: ·)

/-- Changes the last item of a list. -/
def alterLast {α : Type} (change : α → Option α) : List α → Option (List α)
  | [] => none
  | [a] => (change a).map ([·])
  | a :: rest => (alterLast change rest).map (a :: ·)

/-- What a header does to the node under its last key. -/
def openTable : Option Node → Option Node
  | none => some (.table .headed [])
  | some (.table .ancestor members) => some (.table .headed members)
  | some _ => none

def appendTable : Option Node → Option Node
  | none => some (.tables [[]])
  | some (.tables items) => some (.tables (items ++ [[]]))
  | some _ => none

/-- Goes along a header's keys, through the last table of a list of tables, and changes what is
under the last key. Tables on the way that are not there become ancestors. -/
def descend (change : Option Node → Option Node) : List String → Members → Option Members
  | [], _ => none
  | [key], members => alter key change members
  | key :: rest, members =>
    alter key (fun old => match old with
      | none => (descend change rest []).map (.table .ancestor)
      | some (.table .inline _) => none
      | some (.table kind inner) => (descend change rest inner).map (.table kind)
      | some (.tables items) => (alterLast (descend change rest) items).map .tables
      | some (.scalar _) | some (.list _) => none) members

/-- Adds a node under a dotted key. `grows` says whether the table that is reached may get members
here: the current one may, and those that dotted keys have made. -/
def insertDotted (new : Node) (grows : Bool) : List String → Members → Option Members
  | [], _ => none
  | [key], members =>
    if grows then alter key (fun old => if old.isNone then some new else none) members else none
  | key :: rest, members =>
    alter key (fun old => match old with
      | none => (insertDotted new true rest []).map (.table .dotted)
      | some (.table .dotted inner) => (insertDotted new true rest inner).map (.table .dotted)
      | some (.table .ancestor inner) => (insertDotted new false rest inner).map (.table .ancestor)
      | some (.tables items) => (alterLast (insertDotted new false rest) items).map .tables
      | some (.table .headed _) | some (.table .inline _) | some (.scalar _) | some (.list _) =>
        none) members

/-- Changes the members of the table that a header has opened. -/
def within (change : Members → Option Members) : List String → Members → Option Members
  | [], members => change members
  | key :: rest, members =>
    alter key (fun old => match old with
      | some (.table kind inner) => (within change rest inner).map (.table kind)
      | some (.tables items) => (alterLast (within change rest) items).map .tables
      | some (.scalar _) | some (.list _) | none => none) members

end LinkShot.Toml

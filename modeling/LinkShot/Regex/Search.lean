import LinkShot.Regex.Engine
import LinkShot.Regex.Parser
import LinkShot.Regex.Program
import LinkShot.Regex.Size

/-!
The leftmost match, and among the matches that start there the preferred one. All alternatives are
followed side by side, in order of preference, so the time is the size of the program times the
length of the text.
-/
namespace LinkShot.Regex

/-- The positions noted so far, the start and the end of each group. -/
abbrev Slots := Array (Option Nat)

structure Thread where
  counter : Nat
  slots : Slots

/-- A place in the text with the characters around it. -/
structure Place where
  position : Nat
  before : Option Char
  after : Option Char

def isWord (ascii : Bool) : Option Char → Bool
  | none => false
  | some c => if ascii then asciiWord.has c else wordCharacters.has c

def Look.holds (place : Place) : Look → Bool
  | .start => place.before.isNone
  | .stop => place.after.isNone
  | .startLine => place.before.isNone || place.before == some '\n'
  | .endLine => place.after.isNone || place.after == some '\n'
  | .startLineCr =>
    place.before.isNone || place.before == some '\n' ||
      (place.before == some '\r' && place.after != some '\n')
  | .endLineCr =>
    place.after.isNone || place.after == some '\r' ||
      (place.after == some '\n' && place.before != some '\r')
  | .wordEdge ascii => isWord ascii place.before != isWord ascii place.after
  | .notWordEdge ascii => isWord ascii place.before == isWord ascii place.after
  | .wordStart ascii => !isWord ascii place.before && isWord ascii place.after
  | .wordEnd ascii => isWord ascii place.before && !isWord ascii place.after
  | .wordStartHalf ascii => !isWord ascii place.before
  | .wordEndHalf ascii => !isWord ascii place.after

/-- Follows instructions that read nothing, depth first, each at most once. Every instruction that
is visited adds at most two to the stack, which bounds the fuel. -/
def follow (p : Program) (place : Place) :
    Nat → List Thread → Array Bool → List Thread → List Thread
  | 0, _, _, reached => reached.reverse
  | _ + 1, [], _, reached => reached.reverse
  | fuel + 1, t :: stack, visited, reached =>
    if visited.getD t.counter true then follow p place fuel stack visited reached
    else
      let visited := visited.setIfInBounds t.counter true
      match p.getD t.counter .done with
      | .split a b => follow p place fuel (⟨a, t.slots⟩ :: ⟨b, t.slots⟩ :: stack) visited reached
      | .look l next =>
        let stack := if l.holds place then ⟨next, t.slots⟩ :: stack else stack
        follow p place fuel stack visited reached
      | .save slot next =>
        let slots := t.slots.setIfInBounds slot (some place.position)
        follow p place fuel (⟨next, slots⟩ :: stack) visited reached
      | .read _ _ | .done => follow p place fuel stack visited (t :: reached)

/-- Takes threads in order of preference over a character. A thread that is done has matched, and
the less preferred ones are dropped. -/
def advance (p : Program) (after : Option Char) :
    List Thread → List Thread → Option Slots → List Thread × Option Slots
  | [], next, best => (next.reverse, best)
  | t :: rest, next, best =>
    match p.getD t.counter .done with
    | .read s target =>
      match after with
      | some c =>
        if s.has c then advance p after rest (⟨target, t.slots⟩ :: next) best
        else advance p after rest next best
      | none => advance p after rest next best
    | _ => (next.reverse, some t.slots)

/-- Searches from a place on. While nothing has matched, a new attempt starts at every place. -/
def searchFrom (p : Program) (start : Nat) (fresh : Slots) (position : Nat)
    (before : Option Char) (threads : List Thread) (best : Option Slots) :
    List Char → Option Slots
  | [] =>
    let stack := threads ++ if best.isNone then [⟨start, fresh⟩] else []
    let place := ⟨position, before, none⟩
    let reached := follow p place (stack.length + 2 * p.size + 1) stack (.replicate p.size false) []
    (advance p none reached [] best).2
  | c :: rest =>
    let stack := threads ++ if best.isNone then [⟨start, fresh⟩] else []
    if stack.isEmpty then best
    else
      let place := ⟨position, before, some c⟩
      let fuel := stack.length + 2 * p.size + 1
      let reached := follow p place fuel stack (.replicate p.size false) []
      let (threads, best) := advance p (some c) reached [] best
      searchFrom p start fresh (position + 1) (some c) threads best rest

/-- A compiled pattern. -/
structure Pattern where
  groups : Nat
  start : Nat
  program : Program

/-- The pattern of a text; nothing if it is no regular expression or too large a one. -/
def compile (pattern : String) : Option Pattern :=
  match parse pattern.toList with
  | none => none
  | some node =>
    if node.fits then
      let (start, program) := node.program
      some ⟨node.groupCount, start, program⟩
    else none

/-- The text of every group of a match; a group that took no part has none. -/
def groupTexts (text : List Char) (slots : Slots) (count : Nat) : List (Option String) :=
  (List.range count).map fun i =>
    match slots.getD (2 * i) none, slots.getD (2 * i + 1) none with
    | some a, some b => some (String.ofList ((text.drop a).take (b - a)))
    | _, _ => none

/-- The groups of the first match, the whole match in front. -/
def Pattern.groups? (p : Pattern) (text : String) : Option (List (Option String)) :=
  let cs := text.toList
  let fresh : Slots := .replicate (2 * p.groups) none
  (searchFrom p.program p.start fresh 0 none [] none cs).map fun slots =>
    groupTexts cs slots p.groups

instance : Engine where
  compile pattern := (compile pattern).map Pattern.groups?

end LinkShot.Regex

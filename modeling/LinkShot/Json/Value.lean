import LinkShot.Json.Reader

/-!
JSON values. An object keeps its keys in order of first occurrence, each with the value of its last.
-/
namespace LinkShot.Json

open Text (Bytes)

inductive Value where
  | null
  | bool (b : Bool)
  | number (n : Number)
  | string (s : String)
  | array (items : List Value)
  | object (members : List (String × Value))
  deriving Repr, Inhabited

/-- Sets a member, in its place if the key is there already. -/
def setMember (key : String) (value : Value) : List (String × Value) → List (String × Value)
  | [] => [(key, value)]
  | (k, v) :: rest =>
    if k = key then (k, value) :: rest else (k, v) :: setMember key value rest

/-- How many lists and objects may be nested. -/
def depthLimit : Nat := 127

def endFault : Option Break → Except Fault Unit
  | none => .ok ()
  | some b => .error b.fault

mutual

/-- The value of a tree, with room for so many levels of nesting. -/
def Tree.value (room : Nat) : Tree → Except Fault Value
  | .null => .ok .null
  | .bool b => .ok (.bool b)
  | .number t => t.number.map .number
  | .string l => l.text.map .string
  | .array items ending => match room with
    | 0 => .error .tooDeep
    | room + 1 => do
      let items ← itemValues room items
      endFault ending
      return .array items
  | .object members ending => match room with
    | 0 => .error .tooDeep
    | room + 1 => do
      let members ← memberValues room [] members
      endFault ending
      return .object members
  | .broken b => .error b.fault

def itemValues (room : Nat) : List Tree → Except Fault (List Value)
  | [] => .ok []
  | item :: rest => do
    let value ← item.value room
    let values ← itemValues room rest
    return value :: values

/-- Adds the members to those read so far. -/
def memberValues (room : Nat) (read : List (String × Value)) :
    List (Literal × Tree) → Except Fault (List (String × Value))
  | [] => .ok read
  | (key, tree) :: rest => do
    let key ← key.text
    let value ← tree.value room
    memberValues room (setMember key value read) rest

end

/-- What `read` makes of the text's tree, if nothing follows it. -/
def readWith {α : Type} (read : Tree → Except Fault α) (bs : Bytes) : Except Fault α :=
  let (tree, trailing) := readText bs
  match read tree with
  | .error f => .error f
  | .ok a => if trailing then .error .trailingCharacters else .ok a

def Value.read (bs : Bytes) : Except Fault Value := readWith (·.value depthLimit) bs

namespace Value

def asList? : Value → Option (List Value)
  | .array items => some items
  | _ => none

def asNumber? : Value → Option Number
  | .number n => some n
  | _ => none

/-- The member of an object. -/
def get? (v : Value) (key : String) : Option Value :=
  match v with
  | .object members => members.lookup key
  | _ => none

end Value
end LinkShot.Json

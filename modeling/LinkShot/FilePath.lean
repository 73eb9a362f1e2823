import LinkShot.Text.Split
import LinkShot.Text.Utf8

/-!
Paths as bytes. Joining, the parent and the extension are read off the bytes alone; no file is
looked at. The bytes need not be a text.
-/
namespace LinkShot

structure FilePath where
  bytes : Text.Bytes
  deriving DecidableEq, Repr

namespace FilePath

open Text (Bytes)

def ofText (text : String) : FilePath := ⟨Text.encode text⟩

/-- A path as it is shown, in which ill-formed parts are replaced. -/
def text (path : FilePath) : String := Text.decodeLossy path.bytes

instance : Coe String FilePath := ⟨ofText⟩

instance : Coe FilePath String := ⟨text⟩

instance {α β : Type} [Coe α β] : Coe (List α) (List β) := ⟨List.map (↑·)⟩

def slash : UInt8 := 0x2F

def dot : UInt8 := 0x2E

/-- The name that stays in a folder. -/
def stay : FilePath := ⟨[dot]⟩

/-- The name that goes up from a folder. -/
def up : FilePath := ⟨[dot, dot]⟩

/-- The names between the slashes. An empty name stands for the folder that it is reached from. -/
def names (path : FilePath) : List FilePath := (Text.splitOn slash path.bytes).map FilePath.mk

def isAbsolute (path : FilePath) : Bool := path.bytes.head? == some slash

/-- A path taken from a folder. An absolute path forgets the folder. -/
def join (folder path : FilePath) : FilePath :=
  if isAbsolute path || folder.bytes = [] then path
  else if folder.bytes.getLast? = some slash then ⟨folder.bytes ++ path.bytes⟩
  else ⟨folder.bytes ++ slash :: path.bytes⟩

/-- A setting that begins with `~/` is taken from the home folder. -/
def expandHome (home : FilePath) (setting : String) : FilePath :=
  match setting.toList with
  | '~' :: '/' :: rest => join home (ofText (String.ofList rest))
  | _ => ofText setting

/-- Drops slashes and names of a single dot from the end of a reversed path, the path's first byte
apart. -/
def trimReversed : Bytes → Bytes
  | [] => []
  | [b] => [b]
  | b :: c :: rest =>
    if b = slash ∨ b = dot ∧ c = slash then trimReversed (c :: rest) else b :: c :: rest

/-- The path of the folder that the path's last name stands in; nothing for a path without a
name. -/
def parent? (path : FilePath) : Option FilePath :=
  let trimmed := trimReversed path.bytes.reverse
  if trimmed = [] ∨ trimmed = [slash] then none
  else some ⟨(trimReversed (trimmed.dropWhile (· ≠ slash))).reverse⟩

/-- What follows the last dot of a file name, unless only that dot's name would be left. -/
def extension? (name : FilePath) : Option Bytes :=
  match name.bytes.reverse.span (· ≠ dot) with
  | (_, []) | (_, [_]) => none
  | (ending, _) => if name = up then none else some ending.reverse

end FilePath
end LinkShot

import LinkShot.FilePath

/-!
Folders, files and links as a value. A place is a list of names from the root; a path is walked name
by name, through the links on its way.
-/
namespace LinkShot

/-- A locked file may neither be read nor be written. -/
inductive FileTree where
  | file (contents : Text.Bytes)
  | locked
  | folder (entries : List (FilePath × FileTree))
  | link (target : FilePath)

namespace FileTree

inductive Error where
  | notFound
  | denied
  | notFolder
  | isFolder
  | exists
  | tooManyLinks
  deriving DecidableEq, Repr

def Error.text : Error → String
  | .notFound => "No such file or directory (os error 2)"
  | .denied => "Permission denied (os error 13)"
  | .exists => "File exists (os error 17)"
  | .notFolder => "Not a directory (os error 20)"
  | .isFolder => "Is a directory (os error 21)"
  | .tooManyLinks => "Too many levels of symbolic links (os error 40)"

def empty : FileTree := .folder []

/-- The entries of a folder; other trees have none. -/
def entries : FileTree → List (FilePath × FileTree)
  | .folder entries => entries
  | .file _ | .locked | .link _ => []

def isFile : FileTree → Bool
  | .file _ | .locked => true
  | .folder _ | .link _ => false

/-- What stands at a place, a list of names from the root. Links are not followed. -/
def get? (t : FileTree) : List FilePath → Option FileTree
  | [] => some t
  | name :: rest => (t.entries.lookup name).bind (get? · rest)

def setEntry (name : FilePath) (new : Option FileTree) (entries : List (FilePath × FileTree)) :
    List (FilePath × FileTree) :=
  let others := entries.filter (·.1 ≠ name)
  match new with
  | some t => others ++ [(name, t)]
  | none => others

/-- Puts a tree at a place, or takes away what is there. Folders on the way are made. -/
def set (t : FileTree) (new : Option FileTree) : List FilePath → FileTree
  | [] => new.getD empty
  | [name] => .folder (setEntry name new t.entries)
  | name :: rest =>
    .folder (setEntry name (some (set ((t.entries.lookup name).getD empty) new rest)) t.entries)

/-- The names of a path, a single dot for an empty one. -/
def steps (path : FilePath) : List FilePath :=
  path.names.map fun name => if name.bytes = [] then .stay else name

/-- The folder that a path is walked from: the root if it is absolute. -/
def start (here : List FilePath) (path : FilePath) : List FilePath :=
  if path.isAbsolute then [] else here

/-- Where a walk ended: at a tree, or in a folder that does not have the last name. -/
inductive Found where
  | present (place : List FilePath)
  | absent (parent : List FilePath) (name : FilePath)

/-- Walks from the folder `here`, following at most `links` links. Whether a link that is the last
name is followed says `follow`. -/
def walk (t : FileTree) (follow : Bool) (links : Nat) (here path : List FilePath) :
    Except Error Found :=
  match path with
  | [] => .ok (.present here)
  | name :: rest =>
    if name = .stay then walk t follow links here rest
    else if name = .up then walk t follow links here.dropLast rest
    else
      match t.get? (here ++ [name]) with
      | none => if rest.isEmpty then .ok (.absent here name) else .error .notFound
      | some (.folder _) => walk t follow links (here ++ [name]) rest
      | some (.file _) | some .locked =>
        if rest.isEmpty then .ok (.present (here ++ [name])) else .error .notFolder
      | some (.link target) =>
        if rest.isEmpty && !follow then .ok (.present (here ++ [name]))
        else
          match links with
          | 0 => .error .tooManyLinks
          | links + 1 =>
            if target.bytes = [] then .error .notFound
            else walk t follow links (start here target) (steps target ++ rest)
  termination_by (links, path.length)

end FileTree
end LinkShot

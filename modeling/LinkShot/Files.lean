import LinkShot.FileTree

/-! Files as a program sees them, by their paths. -/
namespace LinkShot

open FileTree (Error Found)

/-- The tree of all files, and the folder in which the program works. -/
structure Files where
  root : FileTree
  here : List FilePath

namespace Files

/-- As many links are followed as the system follows. -/
def maxLinks : Nat := 40

/-- Where a path leads. -/
def find (f : Files) (path : FilePath) : Except Error Found :=
  if path.bytes = [] then .error .notFound
  else f.root.walk true maxLinks (FileTree.start f.here path) (FileTree.steps path)

/-- The tree that a path leads to. -/
def resolve (f : Files) (path : FilePath) : Except Error FileTree :=
  match f.find path with
  | .error e => .error e
  | .ok (.absent ..) => .error .notFound
  | .ok (.present place) => match f.root.get? place with
    | some found => .ok found
    | none => .error .notFound

def exists? (f : Files) (path : FilePath) : Bool := (f.resolve path).toBool

def read (f : Files) (path : FilePath) : Except Error Text.Bytes :=
  match f.resolve path with
  | .ok (.file contents) => .ok contents
  | .ok .locked => .error .denied
  | .ok (.folder _) => .error .isFolder
  | .ok (.link _) => .error .notFound
  | .error e => .error e

def list (f : Files) (path : FilePath) : Except Error (List FilePath) :=
  match f.resolve path with
  | .ok (.folder entries) => .ok (entries.map (·.1))
  | .ok (.file _) | .ok .locked | .ok (.link _) => .error .notFolder
  | .error e => .error e

def isFile (f : Files) (path : FilePath) : Bool :=
  match f.resolve path with
  | .ok found => found.isFile
  | .error _ => false

/-- Puts a tree at a place of the root, or takes away what is there. -/
def set (f : Files) (new : Option FileTree) (place : List FilePath) : Files :=
  { f with root := f.root.set new place }

/-- Makes the folders on the way `rest`, which goes on from `done`, unless they are there. -/
def makeFoldersFrom (f : Files) (done : List FilePath) : List FilePath → Except Error Files
  | [] => .ok f
  | name :: rest =>
    match f.root.walk false maxLinks [] (done ++ [name]) with
    | .error e => .error e
    | .ok (.absent parent name') =>
      makeFoldersFrom (f.set (some .empty) (parent ++ [name'])) (done ++ [name]) rest
    | .ok (.present _) =>
      match f.root.walk true maxLinks [] (done ++ [name, .stay]) with
      | .ok (.present _) => makeFoldersFrom f (done ++ [name]) rest
      | .ok (.absent ..) | .error _ => .error .exists

/-- Makes the folders on the way to a path and at its end. -/
def makeFolders (f : Files) (path : FilePath) : Except Error Files :=
  makeFoldersFrom f (FileTree.start f.here path) (FileTree.steps path)

/-- Adds to the end of a file, which is made unless it is there. -/
def append (f : Files) (path : FilePath) (new : Text.Bytes) : Except Error Files :=
  match f.find path with
  | .error e => .error e
  | .ok (.absent parent name) => .ok (f.set (some (.file new)) (parent ++ [name]))
  | .ok (.present place) => match f.root.get? place with
    | some (.file old) => .ok (f.set (some (.file (old ++ new))) place)
    | some .locked => .error .denied
    | some (.folder _) => .error .isFolder
    | some (.link _) | none => .error .notFound

end Files
end LinkShot

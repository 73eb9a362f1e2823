import LinkShot.Files
import LinkShot.Provider.Definition

/-!
The providers of a folder. Every definition file gives one entry, a provider or an error, in the
order of the file names; a broken file never hides another.
-/
namespace LinkShot

/-- A definition file that gave no provider. -/
structure Registry.Skipped where
  path : FilePath
  error : Provider.Error
  deriving DecidableEq, Repr

structure Registry where
  providers : List Provider
  skipped : List Registry.Skipped
  deriving DecidableEq, Repr

namespace Registry

def empty : Registry := ⟨[], []⟩

def ofProviders (providers : List Provider) : Registry := ⟨providers, []⟩

/-- The lower-case form of an ASCII letter; other bytes stay. -/
def lowerByte (b : UInt8) : UInt8 := if 0x41 ≤ b && b ≤ 0x5A then b + 0x20 else b

/-- Definition files have the extension `json`, in letters of either case. -/
def isDefinitionName (name : FilePath) : Bool :=
  match name.extension? with
  | some ending => ending.map lowerByte == Text.encode "json"
  | none => false

/-- The provider that a file's contents describe, with its path as source. -/
def parseFile (path : FilePath) (contents : Text.Bytes) : Except Provider.Error Provider :=
  match Text.decode? contents with
  | none => .error (.io "stream did not contain valid UTF-8")
  | some _ => match Provider.parse contents with
    | .ok provider => .ok { provider with source := some path }
    | .error e => .error e

def loadFile (files : Files) (path : FilePath) : Except Provider.Error Provider :=
  match files.read path with
  | .ok contents => parseFile path contents
  | .error e => .error (.io e.text)

/-- The paths of the definition files among a folder's names, in the order of their bytes. -/
def definitionPaths (files : Files) (folder : FilePath) (names : List FilePath) : List FilePath :=
  let chosen := names.filter fun name => isDefinitionName name && files.isFile (folder.join name)
  (chosen.mergeSort fun a b => decide (a.bytes ≤ b.bytes)).map folder.join

def loadFiles (files : Files) : List FilePath → Registry
  | [] => empty
  | path :: rest =>
    let loaded := loadFiles files rest
    match loadFile files path with
    | .ok provider => { loaded with providers := provider :: loaded.providers }
    | .error error => { loaded with skipped := ⟨path, error⟩ :: loaded.skipped }

/-- The providers of a folder. A folder that is missing has none; one that cannot be listed is an
error. -/
def load (files : Files) (folder : FilePath) : Except Provider.Error Registry :=
  if files.exists? folder then
    match files.list folder with
    | .ok names => .ok (loadFiles files (definitionPaths files folder names))
    | .error e => .error (.io e.text)
  else .ok empty

def inGroup (r : Registry) (group : MenuGroup) : List Provider :=
  r.providers.filter (·.menuGroup == group)

def uploads (r : Registry) : List Provider := r.inGroup .upload

/-- The tools of both groups together, in file order. -/
def tools (r : Registry) : List Provider := r.providers.filter (!·.isUpload)

/-- The first provider of a name. -/
def find? (r : Registry) (name : String) : Option Provider := r.providers.find? (·.name == name)

def size (r : Registry) : Nat := r.providers.length

end Registry
end LinkShot

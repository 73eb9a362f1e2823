import LinkShot.Cli.Run

/-!
The command line program. It reads the settings and the providers before it does anything; other
programs and the network are out of its reach, so a run ends where it would need them.
-/
namespace LinkShot

/-- What a file holds, unless it may not be read. -/
def readContents (path : String) : IO FileTree := do
  try return .file (← IO.FS.readBinFile path).toList
  catch _ => return .locked

/-- A file, or a folder with its files, as it is on the disk. -/
def readTree (path : String) : IO (Option FileTree) := do
  let place := (← IO.currentDir) / path
  if ← place.isDir then
    let entries ← place.readDir
    let trees ← entries.toList.mapM fun entry => do
      if ← entry.path.isDir then return (entry.fileName, FileTree.empty)
      else return (entry.fileName, ← readContents entry.path.toString)
    return some (.folder trees)
  else if ← place.pathExists then return some (← readContents place.toString)
  else return none

/-- The names on the way to a path, without the steps that stay or go up. -/
def placeOf (files : Files) (path : FilePath) : List FilePath :=
  (FileTree.steps path).foldl
    (fun place name =>
      if name = .stay then place else if name = .up then place.dropLast else place ++ [name])
    (FileTree.start files.here path)

/-- Copies what is on the disk at a path. -/
def copyFrom (files : Files) (path : FilePath) : IO Files := do
  match ← readTree path.text with
  | some tree => return files.set (some tree) (placeOf files path)
  | none => return files

def drawWord : IO Action.RandomWord := do
  let picks ← (List.range 8).mapM fun _ => IO.rand 0 61
  return .ofPicks fun i => Fin.ofNat 62 (picks.getD i 0)

/-- The desktop of the program's user. -/
def userDesktop : IO Desktop := do
  return {
    home := (← IO.getEnv "HOME").getD ""
    session := (← IO.getEnv "WAYLAND_DISPLAY").isSome
    tools := fun _ => .notStarted FileTree.Error.notFound.text
    network := fun _ => none
    time := ⟨0, 0⟩
    word := ← drawWord }

/-- The files that a command line needs. -/
def neededFiles (d : Desktop) (arguments : List String) : IO Files := do
  let here := (FileTree.steps (← IO.currentDir).toString).filter (· ≠ .stay)
  let files ← copyFrom ⟨.empty, here⟩ (Config.path d.home)
  match Cli.parse arguments with
  | .error _ => return files
  | .ok given => match Cli.settings d files given with
    | .error _ => return files
    | .ok config => copyFrom files (config.providersFolder d.home)

end LinkShot

def main (arguments : List String) : IO UInt32 := do
  let d ← LinkShot.userDesktop
  let files ← LinkShot.neededFiles d arguments
  let (report, _) := (LinkShot.Cli.run d arguments).run ⟨files, [], []⟩
  IO.print report.output
  IO.eprint report.errors
  return report.code.toUInt32

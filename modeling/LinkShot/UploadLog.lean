import LinkShot.Calendar
import LinkShot.Files

/-! The log of results, to which every result adds one entry. -/
namespace LinkShot.UploadLog

inductive Error where
  | noFolder (path : FilePath)
  | notOpened (path : FilePath)
  deriving DecidableEq, Repr

def Error.message : Error → String
  | .noFolder path => "failed to create log directory " ++ path.text
  | .notOpened path => "failed to open upload log " ++ path.text

/-- For instance `[Monday, October 19, 2026 14:03:22] https://x.test/a`. -/
def entry (result : String) (time : Moment) : String :=
  "[" ++ Calendar.dateText time ++ " " ++ Calendar.timeText time ++ "] " ++ result

/-- Makes the folder of the log, unless it is the current one. -/
def makeFolder (files : Files) (path : FilePath) : Except Error Files :=
  match path.parent? with
  | none | some ⟨[]⟩ => .ok files
  | some parent => match files.makeFolders parent with
    | .ok files => .ok files
    | .error _ => .error (.noFolder parent)

/-- Adds an entry and a line feed to the log. -/
def append (files : Files) (path : FilePath) (result : String) (time : Moment) :
    Except Error Files :=
  match makeFolder files path with
  | .error e => .error e
  | .ok files => match files.append path (Text.encode (entry result time ++ "\n")) with
    | .ok files => .ok files
    | .error _ => .error (.notOpened path)

end LinkShot.UploadLog

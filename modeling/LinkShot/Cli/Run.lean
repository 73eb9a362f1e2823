import LinkShot.Cli.Arguments
import LinkShot.Cli.Help
import LinkShot.Config.File
import LinkShot.Desktop
import LinkShot.Job
import LinkShot.Regex.Search
import LinkShot.Registry

/-!
From a command line to what is written. The settings are loaded first, whatever is asked for; a
daemon goes before a list, and a list before a run.
-/
namespace LinkShot.Cli

/-- The end of the program. -/
structure Report where
  code : Nat
  output : String
  errors : String
  deriving DecidableEq, Repr

def Report.success (output : String) : Report := ⟨0, output, ""⟩

def Report.failure (message : String) : Report := ⟨1, "", "Error: " ++ message ++ "\n"⟩

def Stop.report : Stop → Report
  | .help long => .success (helpText long)
  | .version long => .success (versionText long)
  | .error e => ⟨2, "", "error: " ++ e.message ++ "\n"⟩

def providerLine (p : Provider) : String :=
  "  " ++ p.name ++ " (" ++ p.method.text ++ " " ++ p.address ++ ")"

def skippedLine (s : Registry.Skipped) : String := "  " ++ s.path.text ++ ": " ++ s.error.message

/-- The providers by kind, and the files that are none. -/
def listText (r : Registry) : String :=
  unlines <|
    "Uploads:" :: r.uploads.map providerLine ++ "Tools:" :: r.tools.map providerLine ++
      if r.skipped.isEmpty then [] else "Skipped:" :: r.skipped.map skippedLine

/-- The job that a name and perhaps a capture mode ask for. -/
def job? (r : Registry) (name : String) (mode : Option Capture.Mode) : Option Job :=
  (r.find? name).map fun provider => .ofProvider provider (mode.getD .full)

/-- A daemon needs a desktop session with a tray; there is none that it could start in. -/
def startDaemon (d : Desktop) (config : Config) : Report :=
  if !d.session then .failure "Wayland environment required"
  else match Request.checkAgent config.request.userAgent with
    | .error _ => .failure "Failed to set up request transport"
    | .ok () => .failure "Failed to start system tray"

/-- The settings that hold for a command line. -/
def settings (d : Desktop) (files : Files) (given : Arguments) : Except Config.Error Config :=
  (Config.load files d.home (Config.path d.home)).map fun config =>
    { config with folder := given.folder.getD config.folder }

/-- Runs one provider by its name. -/
def runProvider (d : Desktop) (config : Config) (r : Registry) (name : String)
    (mode : Option Capture.Mode) : Desktop.Run Report := do
  match job? r name mode with
  | none => return .failure (Action.Error.unknownProvider name).message
  | some job =>
    match Request.checkAgent config.request.userAgent with
    | .error e => return .failure e.message
    | .ok () =>
      match ← d.perform config (Action.perform job.provider job.trigger) with
      | .error e => return .failure e.message
      | .ok result => return .success (result ++ "\n")

/-- Does what a command line asks for, with the settings that hold. -/
def execute (d : Desktop) (config : Config) (given : Arguments) : Desktop.Run Report := do
  let files := (← get).files
  let folder := config.providersFolder d.home
  if given.daemon then return startDaemon d config
  match given.list, given.run with
  | true, _ => match Registry.load files folder with
    | .ok registry => return .success (listText registry)
    | .error e => return .failure e.message
  | false, some name => match Registry.load files folder with
    | .ok registry => runProvider d config registry name given.capture
    | .error e => return .failure e.message
  | false, none => return .success (usageText folder.text)

/-- The whole program. -/
def run (d : Desktop) (arguments : List String) : Desktop.Run Report := do
  match parse arguments with
  | .error stop => return stop.report
  | .ok given => match settings d (← get).files given with
    | .error _ => return .failure "Failed to load configuration"
    | .ok config => execute d config given

end LinkShot.Cli

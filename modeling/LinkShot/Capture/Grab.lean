import LinkShot.Capture.Geometry
import LinkShot.Capture.Mode
import LinkShot.Json.Path
import LinkShot.Text.Blank
import LinkShot.Tool

/-!
Taking a screenshot with external programs: one that grabs the screen, one that lets the user select
a region, and one that knows the windows and the monitors.
-/
namespace LinkShot.Capture

open Json (Value)
open Text (Bytes)
open Tool (Run)

/-- The commands of the three programs. -/
structure Commands where
  grab : String
  select : String
  windows : String
  deriving DecidableEq, Repr

/-- The output of a program that ends with success. -/
def output (tools : Tools) (command : String) (arguments : List String) :
    ExceptT Error Run Bytes := do
  match ← Tool.run tools ⟨command, arguments, []⟩ with
  | .notStarted reason => throw (.spawn command reason)
  | .ended true out _ => return out
  | .ended false _ errors => throw (.toolFailed command (Text.trim (Text.decodeLossy errors)))

def fail {α : Type} (text : String) : ExceptT Error Run α := throw (.invalidResponse text)

/-- The rectangle that the user selects, as the selecting program writes it. -/
def selectRegion (tools : Tools) (command : String) : ExceptT Error Run String := do
  let out ← output tools command ["-f", "%x,%y %wx%h"]
  match Text.decodeOrFlaw out with
  | .error flaw => fail ("Invalid " ++ command ++ " output: " ++ flaw.message)
  | .ok text =>
    let geometry := Text.trim text
    if geometry = "" then fail (command ++ " returned empty geometry") else return geometry

/-- The scale of the window's monitor, one if the window or the monitor does not tell. -/
def monitorScale (tools : Tools) (command : String) (window : Value) :
    ExceptT Error Run Binary64 := do
  match monitorOf window with
  | none => return Binary64.one
  | some monitor =>
    let out ← output tools command ["monitors", "-j"]
    match Value.read out with
    | .error fault => fail ("Failed to parse " ++ command ++ " monitors: " ++ fault.message)
    | .ok monitors => return (scaleOf monitors monitor).getD .one

/-- The rectangle of the active window. A scale that cannot be read is taken to be one. -/
def activeWindow (tools : Tools) (command : String) : ExceptT Error Run String := do
  let out ← output tools command ["activewindow", "-j"]
  match Value.read out with
  | .error fault => fail ("Failed to parse " ++ command ++ " output: " ++ fault.message)
  | .ok window =>
    let geometry ← Geometry.ofWindow window
    let factor ← tryCatch (monitorScale tools command window) fun _ => return Binary64.one
    return geometry.text factor

/-- The rectangle that a mode grabs; the whole screen has none. -/
def area (tools : Tools) (commands : Commands) : Mode → ExceptT Error Run (Option String)
  | .full => return none
  | .region => return some (← selectRegion tools commands.select)
  | .window => return some (← activeWindow tools commands.windows)

def grabArguments : Option String → List String
  | none => ["-"]
  | some geometry => ["-g", geometry, "-"]

/-- The image of a screenshot. -/
def grab (tools : Tools) (commands : Commands) (mode : Mode) : ExceptT Error Run Bytes := do
  let geometry ← area tools commands mode
  let image ← output tools commands.grab (grabArguments geometry)
  if image.isEmpty then throw (.emptyImage commands.grab) else return image

end LinkShot.Capture

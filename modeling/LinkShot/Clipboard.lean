import LinkShot.Text.Blank
import LinkShot.Tool

/-!
The clipboard, reached through its two command line programs. Where there is no desktop session
nothing stands behind them.
-/
namespace LinkShot.Clipboard

structure Error where
  text : String
  deriving DecidableEq, Repr

def Error.message (e : Error) : String := "Clipboard operation failed: " ++ e.text

def copyCommand : String := "wl-copy"

/-- Hands the text to the copying program. -/
def copy (tools : Tools) (text : String) : Tool.Run (Except Error Unit) := do
  match ← Tool.run tools ⟨copyCommand, [], Text.encode text⟩ with
  | .ended true .. => return .ok ()
  | .ended false _ errors =>
    return .error ⟨"wl-copy failed: " ++ Text.trim (Text.decodeLossy errors)⟩
  | .notStarted reason =>
    return .error ⟨"Failed to spawn wl-copy (is it installed?): " ++ reason⟩

/-- Sets the clipboard's text. The error names the program's own. -/
def setText (tools : Tools) (text : String) : Tool.Run (Except Error Unit) := do
  match ← copy tools text with
  | .ok () => return .ok ()
  | .error e => return .error ⟨"wl-copy failed: " ++ e.message⟩

/-- The clipboard's text, if there is any. -/
def getText (tools : Tools) : Tool.Run (Option String) := do
  match ← Tool.run tools ⟨"wl-paste", ["--no-newline", "--type", "text"], []⟩ with
  | .ended true out _ => return some (Text.decodeLossy out)
  | .ended false .. | .notStarted _ => return none

end LinkShot.Clipboard

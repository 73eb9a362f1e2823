import LinkShot.Capture.Grab
import LinkShot.FilePath

/-! The settings of the program, with what holds when a setting is left out. -/
namespace LinkShot
namespace Config

structure Request where
  timeoutSeconds : Nat
  userAgent : String
  deriving DecidableEq, Repr

structure Notifications where
  enabled : Bool
  timeoutMilliseconds : Int
  deriving DecidableEq, Repr

structure Log where
  enabled : Bool
  path : String
  deriving DecidableEq, Repr

structure Hotkey where
  provider : Option String
  capture : Option String
  deriving DecidableEq, Repr

end Config

/-- `folder` is where the providers are, and `dialog` is the command that asks the user. -/
structure Config where
  folder : String
  request : Config.Request
  capture : Capture.Commands
  dialog : String
  notifications : Config.Notifications
  log : Config.Log
  hotkey : Config.Hotkey
  deriving DecidableEq, Repr

namespace Config

def configFolder (home : FilePath) : FilePath := home.join ".config/wayshare"

def dataFolder (home : FilePath) : FilePath := home.join ".local/share/wayshare"

/-- The path of the settings file. -/
def path (home : FilePath) : FilePath := (configFolder home).join "config.toml"

def default (home : FilePath) : Config where
  folder := ((configFolder home).join "providers").text
  request := ⟨30, "wayshare"⟩
  capture := ⟨"grim", "slurp", "hyprctl"⟩
  dialog := "zenity"
  notifications := ⟨true, 3000⟩
  log := ⟨true, ((dataFolder home).join "upload.txt").text⟩
  hotkey := ⟨none, none⟩

/-- Settings out of their range move to its nearer end, and an unknown capture mode becomes the full
one. -/
def clamp (c : Config) : Config :=
  { c with
    request := { c.request with timeoutSeconds := max 1 (min 600 c.request.timeoutSeconds) }
    notifications := { c.notifications with
      timeoutMilliseconds := max 500 (min 60000 c.notifications.timeoutMilliseconds) }
    hotkey := { c.hotkey with
      capture := c.hotkey.capture.map fun word =>
        if (Capture.Mode.ofWord? word).isSome then word else Capture.Mode.full.word } }

def providersFolder (c : Config) (home : FilePath) : FilePath := home.expandHome c.folder

def logPath (c : Config) (home : FilePath) : FilePath := home.expandHome c.log.path

/-- The mode of the hotkey for an upload provider. -/
def hotkeyMode (c : Config) : Capture.Mode := .ofSetting c.hotkey.capture

end Config
end LinkShot

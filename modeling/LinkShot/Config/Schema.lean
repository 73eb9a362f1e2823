import LinkShot.Config.Settings
import LinkShot.Json.Schema

/-! The schema of the settings file. Its defaults are those of a home folder. -/
namespace LinkShot.Config

open Json (Value)
open Json.Schema (Field Kind Shape)

def described (name description : String) (kind : Kind) (default : Value) : Field :=
  ⟨name, some description, kind, false, some default⟩

def plain (name : String) (kind : Kind) (default : Value) : Field :=
  ⟨name, none, kind, false, some default⟩

def nullable (name description : String) : Field :=
  ⟨name, some description, .text, true, some .null⟩

/-- The sections of the file, each with its fields. -/
def sections (d : Config) : List (String × Shape) := [
  ("providers", ⟨"ProvidersConfig", "Where provider definitions are read from.", [
    described "directory" "Directory of `*.json` provider definitions (`~` is expanded)" .text
      (.string d.folder)]⟩),
  ("request", ⟨"RequestConfig", "HTTP request settings.", [
    described "timeout_secs" "Per-request timeout in seconds (valid range: 1 - 600)" .unsigned64
      (.number (.int d.request.timeoutSeconds)),
    described "user_agent" "User-Agent product name; the version is appended automatically" .text
      (.string d.request.userAgent)]⟩),
  ("capture", ⟨"CaptureConfig", "External screenshot tools.", [
    plain "grim_command" .text (.string d.capture.grab),
    plain "slurp_command" .text (.string d.capture.select),
    described "hyprctl_command" "Used to find the focused window for window captures" .text
      (.string d.capture.windows)]⟩),
  ("prompt", ⟨"PromptConfig", "Input dialog shown for `$input$` placeholders.", [
    described "command" "zenity-compatible dialog program" .text (.string d.dialog)]⟩),
  ("notifications", ⟨"NotificationConfig", "Desktop notification settings.", [
    plain "enabled" .bool (.bool d.notifications.enabled),
    described "timeout_ms"
      "How long notifications stay visible in milliseconds (valid range: 500 - 60000)" .signed32
      (.number (.int d.notifications.timeoutMilliseconds))]⟩),
  ("log", ⟨"LogConfig", "Append-only log of successful results.", [
    plain "enabled" .bool (.bool d.log.enabled),
    described "path" "Log file path (`~` is expanded)" .text (.string d.log.path)]⟩),
  ("daemon", ⟨"DaemonConfig", "Daemon behaviour.", [
    nullable "hotkey_provider"
      "Provider run when the daemon receives SIGUSR1 (e.g. from a compositor keybinding)",
    nullable "hotkey_capture"
      ("Capture mode for the hotkey when the provider is an uploader: "
        ++ "\"full\", \"region\" or \"window\"")]⟩)]

def schemaDescription : String := "Root configuration, deserialized from TOML.

 # Example TOML
 ```toml
 [providers]
 directory = \"~/.config/wayshare/providers\"

 [request]
 timeout_secs = 30

 [notifications]
 enabled = true
 timeout_ms = 3000

 [log]
 path = \"~/.local/share/wayshare/upload.txt\"

 [daemon]
 hotkey_provider = \"Imgur\"
 hotkey_capture = \"region\"
 ```"

def schema (home : FilePath) : Value :=
  Json.Schema.documentOf "Config" schemaDescription (sections (default home))

end LinkShot.Config

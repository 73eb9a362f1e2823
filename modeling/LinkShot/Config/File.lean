import LinkShot.Config.Settings
import LinkShot.Files
import LinkShot.Toml.Document

/-!
From the settings file to the settings. Unknown keys are passed over; a known key with a value of
the wrong type makes the whole file invalid.
-/
namespace LinkShot.Config

open Toml (Members Node)

/-- What is wrong with a settings file, by its path. -/
inductive Error where
  | notRead (path : FilePath)
  | notParsed (path : FilePath)
  deriving DecidableEq, Repr

def Error.message : Error → String
  | .notRead path => "Failed to read config from " ++ path.text
  | .notParsed path => "Failed to parse config from " ++ path.text

/-- The values of a section in the order of its keys. A section may be a list of its values, and a
date is a section without any. -/
def section? (keys : List String) : Option Node → Option (List (Option Node))
  | none | some (.scalar (.moment _)) => some (keys.map fun _ => none)
  | some (.table _ members) => some (keys.map (members.lookup ·))
  | some (.list items) => some ((List.range keys.length).map (items[·]?))
  | some (.tables items) =>
    some ((List.range keys.length).map fun i => (items[i]?).map (.table .headed))
  | some (.scalar _) => none

def text? (default : String) : Option Node → Option String
  | none => some default
  | some (.scalar (.text s)) => some s
  | some _ => none

def optionalText? : Option Node → Option (Option String)
  | none => some none
  | some (.scalar (.text s)) => some (some s)
  | some _ => none

def bool? (default : Bool) : Option Node → Option Bool
  | none => some default
  | some (.scalar (.bool b)) => some b
  | some _ => none

def integerIn? (low high default : Int) : Option Node → Option Int
  | none => some default
  | some (.scalar (.integer i)) => if low ≤ i && i ≤ high then some i else none
  | some _ => none

/-- The settings that a document gives, the rest as in `d`. -/
def ofMembers (d : Config) (root : Members) : Option Config := do
  let values := fun name keys => section? keys (root.lookup name)
  let [folder] ← values "providers" ["directory"] | none
  let [timeout, agent] ← values "request" ["timeout_secs", "user_agent"] | none
  let [grab, select, windows] ←
    values "capture" ["grim_command", "slurp_command", "hyprctl_command"] | none
  let [dialog] ← values "prompt" ["command"] | none
  let [notify, shown] ← values "notifications" ["enabled", "timeout_ms"] | none
  let [logged, path] ← values "log" ["enabled", "path"] | none
  let [provider, mode] ← values "daemon" ["hotkey_provider", "hotkey_capture"] | none
  let seconds ← integerIn? 0 (UInt64.size - 1) d.request.timeoutSeconds timeout
  return {
    folder := ← text? d.folder folder
    request := ⟨seconds.toNat, ← text? d.request.userAgent agent⟩
    capture := ⟨← text? d.capture.grab grab, ← text? d.capture.select select,
      ← text? d.capture.windows windows⟩
    dialog := ← text? d.dialog dialog
    notifications := ⟨← bool? d.notifications.enabled notify,
      ← integerIn? (-2147483648) 2147483647 d.notifications.timeoutMilliseconds shown⟩
    log := ⟨← bool? d.log.enabled logged, ← text? d.log.path path⟩
    hotkey := ⟨← optionalText? provider, ← optionalText? mode⟩ }

/-- The settings of a text, moved into their ranges. -/
def parse? (home : FilePath) (text : String) : Option Config :=
  ((Toml.read text).bind (ofMembers (default home))).map clamp

/-- The settings of a file, the default ones if it is missing. -/
def load (files : Files) (home path : FilePath) : Except Error Config :=
  if files.exists? path then
    match (files.read path).toOption.bind Text.decode? with
    | none => .error (.notRead path)
    | some text => match parse? home text with
      | some c => .ok c
      | none => .error (.notParsed path)
  else .ok (default home)

end LinkShot.Config

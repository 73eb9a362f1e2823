import LinkShot.Menu

/-!
The daemon between its menu and its action manager. The registry is replaced as a whole, and only by
a load that succeeds.
-/
namespace LinkShot

open LinkShot.Action (Trigger)

/-- `commands` are those that the tray has sent; there are none once nothing receives them. -/
structure Daemon where
  folder : FilePath
  hotkeyProvider : Option String
  hotkeyCapture : Option String
  registry : Registry
  commands : Option (List Command)
  quit : Bool
  menuDirty : Bool

namespace Daemon

/-- A daemon starts without providers when its folder cannot be listed. -/
def start (files : Files) (folder : FilePath) (hotkeyProvider hotkeyCapture : Option String) :
    Daemon where
  folder
  hotkeyProvider
  hotkeyCapture
  registry := match Registry.load files folder with
    | .ok registry => registry
    | .error _ => .empty
  commands := some []
  quit := false
  menuDirty := false

def menu (d : Daemon) : List Menu.Item := Menu.ofRegistry d.registry

def send (d : Daemon) (command : Command) : Daemon :=
  { d with commands := d.commands.map (· ++ [command]) }

/-- Chooses an entry of a menu. One without an effect does nothing. -/
def activate (d : Daemon) (e : Menu.Entry) : Daemon :=
  match e.effect with
  | none => d
  | some (.send command) => d.send command
  | some .quit => { d with quit := true }

/-- Loads the folder again; whether that succeeded, and the daemon after. -/
def reload (d : Daemon) (files : Files) : Bool × Daemon :=
  match Registry.load files d.folder with
  | .ok registry => (true, { d with registry, menuDirty := true })
  | .error _ => (false, d)

/-- The next command, and the daemon without it. -/
def receive (d : Daemon) : Option (Command × Daemon) :=
  match d.commands with
  | some (command :: rest) => some (command, { d with commands := some rest })
  | some [] | none => none

/-- All commands that wait, and the daemon without them. -/
def receiveAll (d : Daemon) : List Command × Daemon :=
  (d.commands.getD [], { d with commands := d.commands.map fun _ => [] })

/-- Whether the menu changed since the last time. -/
def takeMenuDirty (d : Daemon) : Bool × Daemon := (d.menuDirty, { d with menuDirty := false })

/-- What the hotkey runs. -/
def hotkeyJob (d : Daemon) : Option Job := do
  let provider ← d.registry.find? (← d.hotkeyProvider)
  return .ofProvider provider (.ofSetting d.hotkeyCapture)

end Daemon
end LinkShot

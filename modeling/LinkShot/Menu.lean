import LinkShot.Manager.Basic
import LinkShot.Registry

/-!
The tray menu. Every entry carries the whole command that it stands for, so an entry of a menu that
was built before a reload still runs the provider that it shows.
-/
namespace LinkShot

/-- What the tray asks the daemon for. -/
inductive Command where
  | run (job : Job)
  | cancelPending
  | reload
  deriving DecidableEq, Repr

namespace Menu

inductive Effect where
  | send (command : Command)
  | quit
  deriving DecidableEq, Repr

/-- A line that can be chosen, unless it has no effect. -/
structure Entry where
  label : String
  icon : String
  effect : Option Effect
  deriving DecidableEq, Repr

def Entry.enabled (e : Entry) : Bool := e.effect.isSome

inductive Item where
  | entry (e : Entry)
  | submenu (label : String) (entries : List Entry)
  | separator
  deriving DecidableEq, Repr

open LinkShot.Action (Trigger)

def providerEntry (trigger : Trigger) (provider : Provider) : Entry :=
  ⟨provider.name, "", some (.send (.run ⟨provider, trigger⟩))⟩

/-- One entry for each provider, or one that says that there is none. -/
def providerEntries (none? : String) (trigger : Trigger) (providers : List Provider) :
    List Entry :=
  if providers.isEmpty then [⟨none?, "", none⟩] else providers.map (providerEntry trigger)

def captureMenu (r : Registry) (mode : Capture.Mode) : Item :=
  .submenu mode.menuLabel (providerEntries "No upload providers" (.capture mode) r.uploads)

def toolMenu (r : Registry) : Item :=
  .submenu "Tools" (providerEntries "No tools" .tool r.tools)

/-- The menu for the providers that are loaded. -/
def ofRegistry (r : Registry) : List Item :=
  Capture.Mode.all.map (captureMenu r) ++ [
    toolMenu r,
    .separator,
    .entry ⟨"Cancel Pending Request", "process-stop", some (.send .cancelPending)⟩,
    .entry ⟨"Reload Providers", "view-refresh", some (.send .reload)⟩,
    .separator,
    .entry ⟨"Quit", "window-close", some .quit⟩]

/-- What stands at a position of a menu. -/
inductive Choice where
  | entry (e : Entry)
  | noItem
  | noSubmenu
  | notEntry
  deriving DecidableEq, Repr

/-- The item at a position, or the entry at a position of that item's submenu. -/
def choose (menu : List Item) (position : Nat) : Option Nat → Choice
  | none => match menu[position]? with
    | some (.entry e) => .entry e
    | some (.submenu ..) | some .separator => .notEntry
    | none => .noItem
  | some inner => match menu[position]? with
    | some (.submenu _ entries) => match entries[inner]? with
      | some e => .entry e
      | none => .noItem
    | some (.entry _) | some .separator => .noSubmenu
    | none => .noItem

end Menu
end LinkShot

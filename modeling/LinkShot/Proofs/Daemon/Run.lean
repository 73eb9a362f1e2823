import LinkShot.Daemon.Session
import LinkShot.Proofs.Menu

/-!
Runs of a daemon: the files change, menus are built and stay open, entries of any of them are
chosen, commands are carried out, the hotkey is pressed.
-/
namespace LinkShot.Daemon

/-- What happens in a step. -/
inductive Label where
  | files (files : Files)
  | menu (items : List Menu.Item)
  | choose (e : Menu.Entry)
  | carry (command : Command)
  | hotkey (job : Option Job)
  | reload (loaded : Bool)
  | refresh (dirty : Bool)
  | deafen
  | actions

/-- The entries that a step has brought on the screen. -/
def Label.entries : Label → List Menu.Entry
  | .menu items => items.flatMap Menu.Item.entries
  | _ => []

/-- The job that a step hands to the action manager. -/
def Label.job? : Label → Option Job
  | .carry (.run job) => some job
  | .hotkey job => job
  | _ => none

def shown (ls : List Label) : List Menu.Entry := ls.flatMap Label.entries

def started (ls : List Label) : List Job := ls.filterMap Label.job?

/-- The commands that wait to be carried out. -/
def waiting (d : Daemon) : List Command := d.commands.getD []

variable {s t : Session} {d : Daemon} {e : Menu.Entry} {command : Command}

theorem shown_snoc (ls : List Label) (l : Label) : shown (ls ++ [l]) = shown ls ++ l.entries := by
  simp [shown]

theorem started_snoc (ls : List Label) (l : Label) :
    started (ls ++ [l]) = started ls ++ l.job?.toList := by
  rw [started, started, List.filterMap_append]
  cases hl : l.job? <;> simp [hl]

theorem hotkeyJob_eq_some_iff {job : Job} : d.hotkeyJob = some job ↔
    ∃ name p, d.hotkeyProvider = some name ∧ d.registry.find? name = some p ∧
      job = .ofProvider p (.ofSetting d.hotkeyCapture) := by
  unfold hotkeyJob
  cases hn : d.hotkeyProvider with
  | none => simp
  | some name =>
    cases hp : d.registry.find? name with
    | none => simp [hp]
    | some p => simp [hp, eq_comm]

/-- The waiting commands grow by the command of the entry, unless nothing receives it. -/
theorem waiting_activate (hc : command ∈ waiting (d.activate e)) :
    command ∈ waiting d ∨ e.effect = some (.send command) := by
  obtain ⟨folder, hotkeyProvider, hotkeyCapture, registry, commands, quit, menuDirty⟩ := d
  obtain ⟨label, icon, effect⟩ := e
  rcases effect with _ | (sent | _)
  · exact .inl hc
  · cases commands with
    | none => simp [waiting, activate, send] at hc
    | some commands =>
      rcases List.mem_append.mp hc with hold | hnew
      · exact .inl hold
      · rw [List.mem_singleton.mp hnew]
        exact .inr rfl
  · exact .inl hc

theorem waiting_reload (d : Daemon) (files : Files) : waiting (d.reload files).2 = waiting d := by
  unfold reload
  split <;> rfl

/-- A load replaces the registry as a whole and marks the menu, or it leaves both as they are. -/
inductive Reloaded (files : Files) (d : Daemon) : Bool → Daemon → Prop where
  | fresh {r : Registry} : Registry.load files d.folder = .ok r →
      Reloaded files d true { d with registry := r, menuDirty := true }
  | kept {e : Provider.Error} : Registry.load files d.folder = .error e → Reloaded files d false d

/-- All that the steps do to the files and to the daemon, whatever becomes of the actions. -/
inductive Moves (files : Files) (d : Daemon) : Label → Files → Daemon → Prop where
  | files (new : Files) : Moves files d (.files new) new d
  | send {e : Menu.Entry} {command : Command} : e.effect = some (.send command) →
      Moves files d (.choose e) files (d.send command)
  | other {e : Menu.Entry} (quit : Bool) : (∀ command, e.effect ≠ some (.send command)) →
      Moves files d (.choose e) files { d with quit }
  | carry {command : Command} {rest : List Command} :
      d.commands = some (command :: rest) → command ≠ .reload →
      Moves files d (.carry command) files { d with commands := some rest }
  | carryReload {rest : List Command} {loaded : Bool} {d' : Daemon} :
      d.commands = some (.reload :: rest) →
      Reloaded files { d with commands := some rest } loaded d' →
      Moves files d (.carry .reload) files d'
  | reload {loaded : Bool} {d' : Daemon} :
      Reloaded files d loaded d' → Moves files d (.reload loaded) files d'
  | refresh (dirty : Bool) : Moves files d (.refresh dirty) files { d with menuDirty := false }
  | deafen : Moves files d .deafen files { d with commands := none }
  | menu : Moves files d (.menu d.menu) files d
  | hotkey : Moves files d (.hotkey d.hotkeyJob) files d
  | actions : Moves files d .actions files d

theorem reloaded (files : Files) (d : Daemon) :
    Reloaded files d (d.reload files).1 (d.reload files).2 := by
  unfold reload
  split
  · exact .fresh ‹_›
  · exact .kept ‹_›

theorem moves_of_activate (files : Files) (d : Daemon) (e : Menu.Entry) :
    Moves files d (.choose e) files (d.activate e) := by
  unfold activate
  split
  · exact .other d.quit (by simp [*])
  · exact .send ‹_›
  · exact .other true (by simp [*])

variable [Regex.Engine]

/-- An entry may be chosen once it has been shown, however long ago; the action manager goes its own
way. -/
inductive Step (shown : List Menu.Entry) : Session → Label → Session → Prop where
  | files {s : Session} (files : Files) : Step shown s (.files files) { s with files }
  | menu {s : Session} : Step shown s (.menu s.daemon.menu) s
  | choose {s : Session} {e : Menu.Entry} :
      e ∈ shown → Step shown s (.choose e) { s with daemon := s.daemon.activate e }
  | carry {s t : Session} {command : Command} :
      s.pump = (some command, t) → Step shown s (.carry command) t
  | hotkey {s : Session} : Step shown s (.hotkey s.daemon.hotkeyJob) s.runHotkey
  | reload {s : Session} : Step shown s (.reload s.reload.1) s.reload.2
  | refresh {s : Session} :
      Step shown s (.refresh s.daemon.takeMenuDirty.1) { s with daemon := s.daemon.takeMenuDirty.2 }
  | deafen {s : Session} :
      Step shown s .deafen { s with daemon := { s.daemon with commands := none } }
  | actions {s : Session} (actions : Manager.Session) : Step shown s .actions { s with actions }

/-- What has happened since a session was begun, and where that led. -/
inductive Reached (first : Session) : List Label → Session → Prop where
  | start : Reached first [] first
  | step {ls : List Label} {l : Label} {s t : Session} :
      Reached first ls s → Step (shown ls) s l t → Reached first (ls ++ [l]) t

theorem waiting_handle (s : Session) (command : Command) :
    waiting (s.handle command).daemon = waiting s.daemon := by
  cases command with
  | run job =>
    simp only [Session.handle]
    split <;> rfl
  | cancelPending => rfl
  | reload => exact waiting_reload _ _

theorem waiting_hotkey (s : Session) : waiting s.runHotkey.daemon = waiting s.daemon := by
  unfold Session.runHotkey
  split
  · exact waiting_handle _ _
  · rfl

/-- The first of the waiting commands is carried out, and the others go on waiting. -/
theorem waiting_pump (hp : s.pump = (some command, t)) :
    waiting s.daemon = command :: waiting t.daemon := by
  unfold Session.pump at hp
  split at hp
  · rename_i next daemon hr
    cases hp
    rw [waiting_handle]
    unfold receive at hr
    split at hr
    · rename_i hc
      cases hr
      simp [waiting, hc]
    · cases hr
    · cases hr
  · cases hp

/-- A job that is handed over changes nothing but the actions. -/
theorem handle_run (s : Session) (job : Job) :
    ∃ actions, s.handle (.run job) = { s with actions } := by
  simp only [Session.handle]
  split
  · exact ⟨_, rfl⟩
  · exact ⟨s.actions, rfl⟩

theorem moves_of_pump (hp : s.pump = (some command, t)) :
    Moves s.files s.daemon (.carry command) t.files t.daemon := by
  unfold Session.pump at hp
  split at hp
  · rename_i next daemon hr
    cases hp
    obtain ⟨rest, hc, rfl⟩ : ∃ rest, s.daemon.commands = some (command :: rest) ∧
        daemon = { s.daemon with commands := some rest } := by
      unfold receive at hr
      split at hr
      · cases hr
        exact ⟨_, ‹_›, rfl⟩
      · cases hr
      · cases hr
    cases command with
    | run job =>
      obtain ⟨actions, ha⟩ :=
        handle_run { s with daemon := { s.daemon with commands := some rest } } job
      rw [ha]
      exact .carry hc (by simp)
    | cancelPending => exact .carry hc (by simp)
    | reload => exact .carryReload hc (reloaded _ _)
  · cases hp

theorem moves_of_hotkey (s : Session) :
    Moves s.files s.daemon (.hotkey s.daemon.hotkeyJob) s.runHotkey.files s.runHotkey.daemon := by
  unfold Session.runHotkey
  split
  · obtain ⟨actions, ha⟩ := handle_run s ‹_›
    rw [ha]
    exact .hotkey
  · exact .hotkey

theorem moves_of_step {l : Label} {shown : List Menu.Entry} (hs : Step shown s l t) :
    Moves s.files s.daemon l t.files t.daemon := by
  cases hs with
  | files files => exact .files files
  | menu => exact .menu
  | choose => exact moves_of_activate _ _ _
  | carry hp => exact moves_of_pump hp
  | hotkey => exact moves_of_hotkey s
  | reload => exact .reload (reloaded _ _)
  | refresh => exact .refresh _
  | deafen => exact .deafen
  | actions => exact .actions

/-- What is not yet the last step has already happened. -/
theorem reached_before {first : Session} {l : Label} {before after : List Label}
    (hr : Reached first (before ++ l :: after) t) :
    ∃ s u, Reached first before s ∧ Step (shown before) s l u := by
  generalize hls : before ++ l :: after = ls at hr
  induction hr generalizing after with
  | start => simp at hls
  | step hr hs ih =>
    rcases List.eq_nil_or_concat after with rfl | ⟨after, last, rfl⟩
    · obtain ⟨rfl, hl⟩ := List.append_inj' hls rfl
      cases hl
      exact ⟨_, _, hr, hs⟩
    · rw [List.concat_eq_append, ← List.cons_append, ← List.append_assoc] at hls
      exact ih (List.append_inj' hls rfl).1

end LinkShot.Daemon

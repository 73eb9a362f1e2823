import LinkShot.Proofs.Daemon.Run

/-!
Which files the registry of a daemon tells of: always those of the last load that succeeded, all of
them and no others.
-/
namespace LinkShot.Daemon

variable {first s t : Session} {d d' : Daemon} {l : Label} {ls : List Label} {files files' : Files}
  {folder : FilePath} {provider capture : Option String} {r : Registry} {seen : List Files}

/-- A step that loads the folder again, whether that succeeds or not. -/
def Label.isLoad : Label → Bool
  | .reload _ | .carry .reload => true
  | _ => false

/-- The files as they stand, and as they stood at every load so far. -/
structure Loads where
  now : Files
  seen : List Files

def Loads.next (r : Loads) : Label → Loads
  | .files files => { r with now := files }
  | .reload _ | .carry .reload => { r with seen := r.seen ++ [r.now] }
  | _ => r

/-- The loads of a daemon that was started with these files; the start is the first of them. -/
def loads (files : Files) (ls : List Label) : Loads := ls.foldl Loads.next ⟨files, [files]⟩

/-- What the last load that succeeded has found, and nothing if none has. -/
def lastLoaded (folder : FilePath) (seen : List Files) : Registry :=
  (seen.filterMap fun files => (Registry.load files folder).toOption).getLast?.getD .empty

/-- The registry that is due to a daemon of this folder after these steps. -/
def registryAfter (files : Files) (folder : FilePath) (ls : List Label) : Registry :=
  lastLoaded folder (loads files ls).seen

/-- What the user has set for a daemon. -/
def settings (d : Daemon) : FilePath × Option String × Option String :=
  (d.folder, d.hotkeyProvider, d.hotkeyCapture)

theorem loads_snoc (files : Files) (ls : List Label) (l : Label) :
    loads files (ls ++ [l]) = (loads files ls).next l := by
  simp [loads]

theorem lastLoaded_of_ok (hl : Registry.load files folder = .ok r) :
    lastLoaded folder (seen ++ [files]) = r := by
  simp [lastLoaded, hl, Except.toOption]

theorem lastLoaded_of_error {e : Provider.Error} (hl : Registry.load files folder = .error e) :
    lastLoaded folder (seen ++ [files]) = lastLoaded folder seen := by
  simp [lastLoaded, hl, Except.toOption]

theorem settings_of_moves (hm : Moves files d l files' d') : settings d' = settings d := by
  cases hm with
  | carryReload _ hr | reload hr => cases hr <;> rfl
  | files | send | other | carry | refresh | deafen | menu | hotkey | actions => rfl

theorem registry_of_reloaded {loaded : Bool} (hr : Reloaded files d loaded d')
    (hd : d.registry = lastLoaded d.folder seen) :
    d'.registry = lastLoaded d.folder (seen ++ [files]) := by
  cases hr with
  | fresh hl => exact (lastLoaded_of_ok hl).symm
  | kept hl => rw [lastLoaded_of_error hl, hd]

/-- Whatever a step is, it keeps the registry at what the loads so far have found. -/
theorem registry_of_moves {r : Loads} (hm : Moves r.now d l files' d')
    (hd : d.registry = lastLoaded d.folder r.seen) :
    files' = (r.next l).now ∧ d'.registry = lastLoaded d.folder (r.next l).seen := by
  cases hm with
  | carryReload _ hr =>
    have hnew := registry_of_reloaded hr hd
    exact ⟨rfl, hnew⟩
  | reload hr => exact ⟨rfl, registry_of_reloaded hr hd⟩
  | @carry command _ _ hne =>
    cases command with
    | reload => exact absurd rfl hne
    | run | cancelPending => exact ⟨rfl, hd⟩
  | files | send | other | refresh | deafen | menu | hotkey | actions => exact ⟨rfl, hd⟩

/-- Only a load changes the registry. -/
theorem registry_of_other (hm : Moves files d l files' d') (hl : l.isLoad = false) :
    d'.registry = d.registry := by
  cases hm with
  | carryReload | reload => cases hl
  | files | send | other | carry | refresh | deafen | menu | hotkey | actions => rfl

/-- A load puts what it finds into the place of the registry and marks the menu, or it fails and
leaves both alone. -/
theorem registry_of_load (hm : Moves files d l files' d') (hl : l.isLoad = true) :
    (∃ r, Registry.load files d.folder = .ok r ∧ d'.registry = r ∧ d'.menuDirty = true) ∨
      (∃ e, Registry.load files d.folder = .error e) ∧ d'.registry = d.registry ∧
        d'.menuDirty = d.menuDirty := by
  cases hm with
  | carryReload _ hr | reload hr =>
    cases hr with
    | fresh hload => exact .inl ⟨_, hload, rfl, rfl⟩
    | kept hload => exact .inr ⟨⟨_, hload⟩, rfl, rfl⟩
  | @carry command _ _ hne => cases command <;> simp_all [Label.isLoad]
  | files | send | other | refresh | deafen | menu | hotkey | actions => cases hl

/-- A reload says whether the folder could be listed. -/
theorem loaded_iff {loaded : Bool} (hm : Moves files d (.reload loaded) files' d') :
    loaded = true ↔ ∃ r, Registry.load files d.folder = .ok r := by
  cases hm with
  | reload hr =>
    cases hr with
    | fresh hl => simp [hl]
    | kept hl => simp [hl]

theorem registry_start (files : Files) (folder : FilePath) (provider capture : Option String) :
    (Daemon.start files folder provider capture).registry = registryAfter files folder [] := by
  change _ = lastLoaded folder ([] ++ [files])
  cases hl : Registry.load files folder with
  | ok r =>
    rw [lastLoaded_of_ok hl]
    simp [Daemon.start, hl]
  | error e =>
    rw [lastLoaded_of_error hl]
    simp [Daemon.start, hl, lastLoaded]

variable [Regex.Engine]

theorem settings_reached (hr : Reached first ls s) : settings s.daemon = settings first.daemon := by
  induction hr with
  | start => rfl
  | step _ hs ih => exact (settings_of_moves (moves_of_step hs)).trans ih

/-- The registry is always what the last load that succeeded has found. -/
theorem registry_reached (hf : first.daemon = .start first.files folder provider capture)
    (hr : Reached first ls s) :
    s.files = (loads first.files ls).now ∧
      s.daemon.registry = registryAfter first.files folder ls := by
  induction hr with
  | start =>
    rw [hf]
    exact ⟨rfl, registry_start _ _ _ _⟩
  | @step ls l s t hr hs ih =>
    obtain ⟨hfiles, hregistry⟩ := ih
    have hfolder : s.daemon.folder = folder := by
      have hsettings := settings_reached hr
      rw [hf] at hsettings
      exact congrArg Prod.fst hsettings
    have hm := moves_of_step hs
    rw [hfiles] at hm
    rw [← hfolder] at hregistry
    obtain ⟨hnow, hnext⟩ := registry_of_moves hm hregistry
    rw [registryAfter, loads_snoc, ← hfolder]
    exact ⟨hnow, hnext⟩

end LinkShot.Daemon

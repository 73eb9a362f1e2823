import LinkShot.Proofs.Daemon.Loading
import LinkShot.Proofs.Manager.Session
import LinkShot.Proofs.Registry
import LinkShot.Regex.Search

/-!
Reloads do not mix the generations of the folder. The registry is replaced as a whole; a command
keeps the provider that the menu showed or the hotkey found, and is queued with it in the order in
which the commands were sent.
-/
namespace LinkShot.Daemon

variable {first s t : Session} {d d' : Daemon} {l : Label} {ls before after : List Label}
  {files files' : Files} {folder : FilePath} {provider capture : Option String} {e : Menu.Entry}
  {job : Job}

/-- The command that an entry sends when it is chosen. -/
def command? (e : Menu.Entry) : Option Command :=
  match e.effect with
  | some (.send command) => some command
  | some .quit | none => none

/-- The command that a step sends to the daemon. -/
def Label.sent? : Label → Option Command
  | .choose e => command? e
  | _ => none

def Label.carried? : Label → Option Command
  | .carry command => some command
  | _ => none

/-- The commands of the entries that were chosen, in order. -/
def sent (ls : List Label) : List Command := ls.filterMap Label.sent?

/-- The commands that were carried out, in order. -/
def carried (ls : List Label) : List Command := ls.filterMap Label.carried?

/-- Commands are carried out in the order in which they were sent; the others wait, as long as
anything receives them. -/
structure Ordered (ls : List Label) (d : Daemon) : Prop where
  begins : carried ls <+: sent ls
  waiting : ∀ commands, d.commands = some commands → sent ls = carried ls ++ commands

theorem command?_eq_some_iff {command : Command} :
    command? e = some command ↔ e.effect = some (.send command) := by
  unfold command?
  split <;> simp [*]

theorem sent_snoc (ls : List Label) (l : Label) : sent (ls ++ [l]) = sent ls ++ l.sent?.toList := by
  cases hl : l.sent? <;> simp [sent, hl]

theorem carried_snoc (ls : List Label) (l : Label) :
    carried (ls ++ [l]) = carried ls ++ l.carried?.toList := by
  cases hl : l.carried? <;> simp [carried, hl]

/-- A step that sends no command and carries none out. -/
theorem ordered_quiet (ho : Ordered ls d) (hs : l.sent? = none) (hc : l.carried? = none)
    (hd : ∀ commands, d'.commands = some commands → d.commands = some commands) :
    Ordered (ls ++ [l]) d' := by
  constructor
  · simpa [sent_snoc, carried_snoc, hs, hc] using ho.begins
  · intro commands hcommands
    simpa [sent_snoc, carried_snoc, hs, hc] using ho.waiting commands (hd commands hcommands)

theorem ordered_send {command : Command} (ho : Ordered ls d)
    (he : e.effect = some (.send command)) :
    Ordered (ls ++ [.choose e]) (d.send command) := by
  have hsent : sent (ls ++ [.choose e]) = sent ls ++ [command] := by
    simp [sent_snoc, Label.sent?, command?_eq_some_iff.mpr he]
  have hcarried : carried (ls ++ [.choose e]) = carried ls := by
    simp [carried_snoc, Label.carried?]
  constructor
  · rw [hsent, hcarried]
    exact ho.begins.trans (List.prefix_append _ _)
  · intro commands hcommands
    obtain ⟨earlier, hearlier, rfl⟩ := Option.map_eq_some_iff.mp hcommands
    rw [hsent, hcarried, ho.waiting earlier hearlier, List.append_assoc]

theorem ordered_carry {command : Command} {rest : List Command} (ho : Ordered ls d)
    (hc : d.commands = some (command :: rest)) (hd : d'.commands = some rest) :
    Ordered (ls ++ [.carry command]) d' := by
  have hsent : sent (ls ++ [.carry command]) = sent ls := by
    simp [sent_snoc, Label.sent?]
  have hcarried : carried (ls ++ [.carry command]) = carried ls ++ [command] := by
    simp [carried_snoc, Label.carried?]
  have hall : sent ls = carried ls ++ [command] ++ rest := by
    rw [ho.waiting _ hc, List.append_assoc]
    rfl
  constructor
  · rw [hsent, hcarried, hall]
    exact List.prefix_append _ _
  · intro commands hcommands
    rw [hd] at hcommands
    cases hcommands
    rw [hsent, hcarried, hall]

theorem commands_of_reloaded {loaded : Bool} (hr : Reloaded files d loaded d') :
    d'.commands = d.commands := by
  cases hr <;> rfl

theorem ordered_moves (ho : Ordered ls d) (hm : Moves files d l files' d') :
    Ordered (ls ++ [l]) d' := by
  cases hm with
  | send he => exact ordered_send ho he
  | carry hc => exact ordered_carry ho hc rfl
  | carryReload hc hr => exact ordered_carry ho hc (commands_of_reloaded hr)
  | other quit hn =>
    refine ordered_quiet ho ?_ rfl fun _ h => h
    rw [Label.sent?, Option.eq_none_iff_forall_ne_some]
    intro command hc
    exact hn command (command?_eq_some_iff.mp hc)
  | reload hr =>
    refine ordered_quiet ho rfl rfl fun _ h => ?_
    rwa [commands_of_reloaded hr] at h
  | deafen => exact ordered_quiet ho rfl rfl (by simp)
  | files | refresh | menu | hotkey | actions => exact ordered_quiet ho rfl rfl fun _ h => h

section

variable [Regex.Engine]

theorem ordered_reached (hf : first.daemon = .start first.files folder provider capture)
    (hr : Reached first ls s) : Ordered ls s.daemon := by
  induction hr with
  | start =>
    refine ⟨List.nil_prefix, ?_⟩
    intro commands hc
    rw [hf] at hc
    cases hc
    rfl
  | step _ hs ih => exact ordered_moves ih (moves_of_step hs)

/-- An entry that is chosen stands in a menu that was built before, from the registry of that
time. -/
theorem menu_of_chosen (hf : first.daemon = .start first.files folder provider capture)
    (hr : Reached first (before ++ .choose e :: after) t) :
    ∃ earlier later, before = earlier ++
        .menu (Menu.ofRegistry (registryAfter first.files folder earlier)) :: later ∧
      ∃ item ∈ Menu.ofRegistry (registryAfter first.files folder earlier), e ∈ item.entries := by
  obtain ⟨s, u, hs, hstep⟩ := reached_before hr
  cases hstep with
  | choose hshown =>
    obtain ⟨l, hl, he⟩ := List.mem_flatMap.mp hshown
    cases l with
    | menu items =>
      obtain ⟨item, hi, hin⟩ := List.mem_flatMap.mp he
      obtain ⟨earlier, later, rfl⟩ := List.append_of_mem hl
      obtain ⟨s', u', hs', hbuilt⟩ := reached_before hs
      have hregistry := (registry_reached hf hs').2
      cases hbuilt with
      | menu =>
        rw [menu, hregistry] at hi ⊢
        exact ⟨earlier, later, rfl, item, hi, hin⟩
    | files | choose | carry | hotkey | reload | refresh | deafen | actions => cases he

/-- What the hotkey finds, it finds in the registry of the moment. -/
theorem job_of_hotkey (hf : first.daemon = .start first.files folder provider capture)
    (hr : Reached first (before ++ .hotkey (some job) :: after) t) :
    ∃ name p, provider = some name ∧
      (registryAfter first.files folder before).find? name = some p ∧
      job = .ofProvider p (.ofSetting capture) := by
  obtain ⟨s, u, hs, hstep⟩ := reached_before hr
  have hregistry := (registry_reached hf hs).2
  have hsettings := settings_reached hs
  rw [hf] at hsettings
  simp only [settings, Daemon.start, Prod.mk.injEq] at hsettings
  generalize hl : Label.hotkey (some job) = l at hstep
  cases hstep with
  | hotkey =>
    have hjob := (Label.hotkey.inj hl).symm
    obtain ⟨name, p, hname, hp, rfl⟩ := hotkeyJob_eq_some_iff.mp hjob
    rw [hsettings.2.1] at hname
    rw [hregistry] at hp
    rw [hsettings.2.2]
    exact ⟨name, p, hname, hp, rfl⟩
  | files | menu | choose | carry | reload | refresh | deafen | actions => cases hl

/-- A job that is handed over is accepted as it is, and nothing else with it. -/
theorem queued_of_handle (s : Session) (job : Job) :
    (s.actions.manager.gone = true → (s.handle (.run job)).actions = s.actions) ∧
    ∀ ms, Manager.Reached ms s.actions.manager → s.actions.manager.gone = false →
      Manager.Quietly (ms ++ [.request job]) (s.handle (.run job)).actions.manager := by
  constructor
  · intro hgone
    simp [Session.handle, Manager.Session.request, Manager.request, hgone, Except.map]
  · intro ms hr hgone
    have hrequest : s.actions.manager.request job =
        .ok { s.actions.manager with queue := s.actions.manager.queue ++ [job] } := by
      simp [Manager.request, hgone]
    have hsettled : (s.handle (.run job)).actions =
        ({ s.actions with manager :=
          { s.actions.manager with queue := s.actions.manager.queue ++ [job] } }).settle := by
      simp [Session.handle, Manager.Session.request, hrequest, Except.map]
    have hnext := hr.step (.request hrequest)
    rw [hsettled]
    exact Manager.quietly_settle (Manager.quietly_refl hnext)

theorem actions_of_pump {command : Command} (hp : s.pump = (some command, t)) :
    t.actions = (s.handle command).actions := by
  unfold Session.pump at hp
  split at hp
  · cases hp
    cases command with
    | run job =>
      simp only [Session.handle]
      split <;> rfl
    | cancelPending | reload => rfl
  · cases hp

/-- The step that hands a job over does to the actions what handling the job does. -/
theorem actions_of_job {shown : List Menu.Entry} (hs : Step shown s l t) (hj : l.job? = some job) :
    t.actions = (s.handle (.run job)).actions := by
  cases hs with
  | @carry _ command hp =>
    cases command with
    | run job' =>
      cases hj
      exact actions_of_pump hp
    | cancelPending | reload => cases hj
  | hotkey =>
    have hjob : s.daemon.hotkeyJob = some job := hj
    simp only [Session.runHotkey, hjob]
  | files | menu | choose | reload | refresh | deafen | actions => cases hj

/-- However the folder changes, however often it is loaded again, and whatever is chosen, pressed
and carried out meanwhile: the registry is what the last load that succeeded has found. A load that
succeeds replaces it and marks the menu, one that fails changes neither, and nothing else changes
the registry. Commands are carried out in the order in which their entries were chosen. A job that
was chosen has the provider that its entry shows, from the registry of the time when the menu was
built; a job of the hotkey has the provider that was found when the hotkey was pressed. Handing a
job over queues it as it is. -/
theorem reloads_keep_generations (hf : first.daemon = .start first.files folder provider capture)
    (hr : Reached first ls s) :
    s.daemon.registry = registryAfter first.files folder ls ∧
    (∀ l t, Step (shown ls) s l t →
      (l.isLoad = true →
        (∃ r, Registry.load s.files folder = .ok r ∧ t.daemon.registry = r ∧
          t.daemon.menuDirty = true) ∨
        (∃ e, Registry.load s.files folder = .error e) ∧
          t.daemon.registry = s.daemon.registry ∧ t.daemon.menuDirty = s.daemon.menuDirty) ∧
      (∀ loaded, l = .reload loaded →
        (loaded = true ↔ ∃ r, Registry.load s.files folder = .ok r)) ∧
      (l.isLoad = false → t.daemon.registry = s.daemon.registry) ∧
      ∀ job, l.job? = some job →
        (s.actions.manager.gone = true → t.actions = s.actions) ∧
        ∀ ms, Manager.Reached ms s.actions.manager → s.actions.manager.gone = false →
          Manager.Quietly (ms ++ [.request job]) t.actions.manager) ∧
    carried ls <+: sent ls ∧
    (∀ commands, s.daemon.commands = some commands → sent ls = carried ls ++ commands) ∧
    (∀ before e after job, ls = before ++ .choose e :: after → e.job? = some job →
      ∃ earlier later r, before = earlier ++ .menu (Menu.ofRegistry r) :: later ∧
        r = registryAfter first.files folder earlier ∧
        (∃ item ∈ Menu.ofRegistry r, e ∈ item.entries) ∧
        job.provider ∈ r.providers ∧ e = Menu.providerEntry job.trigger job.provider) ∧
    ∀ before job after, ls = before ++ .hotkey (some job) :: after →
      ∃ name p, provider = some name ∧
        (registryAfter first.files folder before).find? name = some p ∧
        job = .ofProvider p (.ofSetting capture) := by
  have hordered := ordered_reached hf hr
  have hfolder : s.daemon.folder = folder := by
    have hsettings := settings_reached hr
    rw [hf] at hsettings
    exact congrArg Prod.fst hsettings
  refine ⟨(registry_reached hf hr).2, ?_, hordered.begins, hordered.waiting, ?_, ?_⟩
  · intro l t hs
    have hm := moves_of_step hs
    refine ⟨?_, ?_, registry_of_other hm, ?_⟩
    · intro hl
      exact hfolder ▸ registry_of_load hm hl
    · rintro loaded rfl
      exact hfolder ▸ loaded_iff hm
    · intro job hj
      rw [actions_of_job hs hj]
      exact queued_of_handle s job
  · rintro before e after job rfl hj
    obtain ⟨earlier, later, hbefore, item, hi, he⟩ := menu_of_chosen hf hr
    obtain ⟨hp, hentry⟩ := Menu.entry_of_job hi he hj
    exact ⟨earlier, later, _, hbefore, rfl, ⟨item, hi, he⟩, hp, hentry⟩
  · rintro before job after rfl
    exact job_of_hotkey hf hr

end

/-- A session that begins with the tool of a folder. -/
def openedSession : Session where
  files := Registry.mixed
  daemon := .start Registry.mixed "p" none none
  actions := .start ⟨[], [], none, [], .copied, none, .ofPicks fun _ => 0, none⟩ false

/-- A file in the place of the folder, which therefore cannot be listed. -/
def replacedFolder : Files := ⟨.folder [("p", .file [])], []⟩

theorem reload_replacedFolder (hd : d.folder = "p") : d.reload replacedFolder = (false, d) := by
  have hfind : replacedFolder.find "p" = .ok (.present ["p"]) :=
    Files.find_name (by decide) (.file (by decide) rfl rfl)
  have hresolve : replacedFolder.resolve "p" = .ok (.file []) :=
    Files.resolve_iff.mpr ⟨["p"], hfind, rfl⟩
  simp [reload, Registry.load, Files.exists?, Files.list, hd, hresolve, Except.toBool]

/-- The tool is chosen before a reload finds a file in the place of its folder, and queued after
it. -/
theorem reloads_keep_generations_late :
    ∃ ls s, openedSession.daemon = .start openedSession.files "p" none none ∧
      Reached openedSession ls s ∧ ls.getLast? = some (.carry (.run ⟨Registry.mixedTool, .tool⟩)) ∧
      s.daemon.registry = registryAfter openedSession.files "p" ls ∧ carried ls <+: sent ls ∧
      ∃ r, Registry.mixedTool ∈ r.providers ∧
        Menu.providerEntry .tool Registry.mixedTool ∈ shown [.menu (Menu.ofRegistry r)] := by
  let job : Job := ⟨Registry.mixedTool, .tool⟩
  let e := Menu.providerEntry .tool Registry.mixedTool
  have hstart : openedSession.daemon.registry = Registry.mixedRegistry := by
    simp [openedSession, Daemon.start, Registry.load_mixed]
  let chosen : Session := { openedSession with daemon := openedSession.daemon.activate e }
  let replaced : Session := { chosen with files := replacedFolder }
  have hshown : e ∈ shown ([] ++ [.menu openedSession.daemon.menu]) := by
    rw [menu, hstart]
    decide
  have hreload : replaced.reload = (false, replaced) := by
    rw [Session.reload, reload_replacedFolder rfl]
  have hreplaced := ((Reached.start.step .menu).step (.choose hshown)).step (.files replacedFolder)
  have hreloaded := hreplaced.step .reload
  change Reached _ (_ ++ [.reload replaced.reload.1]) replaced.reload.2 at hreloaded
  rw [hreload] at hreloaded
  have hpump : replaced.pump = (some (.run job), replaced.pump.2) := rfl
  have hcarried := hreloaded.step (.carry hpump)
  obtain ⟨hregistry, -, hbegins, -, hchosen, -⟩ := reloads_keep_generations rfl hcarried
  obtain ⟨_, _, r, -, -, ⟨item, hi, he⟩, hr, -⟩ :=
    hchosen [.menu openedSession.daemon.menu] e [.files replacedFolder, .reload false,
      .carry (.run job)] job rfl rfl
  exact ⟨_, _, rfl, hcarried, rfl, hregistry, hbegins, r, hr,
    List.mem_flatMap.mpr ⟨_, List.mem_singleton_self _, List.mem_flatMap.mpr ⟨item, hi, he⟩⟩⟩

end LinkShot.Daemon

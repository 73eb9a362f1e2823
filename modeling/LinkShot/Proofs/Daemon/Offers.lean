import LinkShot.Cli.Run
import LinkShot.Proofs.Daemon.Run
import LinkShot.Regex.Search

/-!
What the menu, the hotkey and the command line can start: jobs whose trigger fits their provider,
all of them, and nothing else. An entry of an old menu is no exception.
-/
namespace LinkShot

open LinkShot.Action (Exchange Error Trigger perform)
open Daemon (Label Reached Session Step shown started waiting)

variable {r : Registry} {d : Daemon} {job : Job} {name : String} {mode : Option Capture.Mode}
  {first s t : Session} {ls : List Label} {l : Label}

/-- The jobs that a user can ask for. -/
inductive Offered (job : Job) : Prop where
  | menu {r : Registry} {item : Menu.Item} {e : Menu.Entry} :
      item ∈ Menu.ofRegistry r → e ∈ item.entries → e.job? = some job → Offered job
  | hotkey {d : Daemon} : d.hotkeyJob = some job → Offered job
  | commandLine {r : Registry} {name : String} {mode : Option Capture.Mode} :
      Cli.job? r name mode = some job → Offered job

theorem fits_of_hotkey (hj : d.hotkeyJob = some job) : job.Fits := by
  obtain ⟨_, provider, _, _, rfl⟩ := Daemon.hotkeyJob_eq_some_iff.mp hj
  exact Job.fits_ofProvider _ _

theorem fits_of_commandLine (hj : Cli.job? r name mode = some job) : job.Fits := by
  obtain ⟨provider, _, rfl⟩ := Option.map_eq_some_iff.mp hj
  exact Job.fits_ofProvider _ _

theorem offered_iff_fits : Offered job ↔ job.Fits := by
  constructor
  · intro ho
    cases ho with
    | menu hi he hj => exact Menu.fits_of_mem hi he hj
    | hotkey hj => exact fits_of_hotkey hj
    | commandLine hj => exact fits_of_commandLine hj
  · intro hf
    have hp : job.provider ∈ (Registry.ofProviders [job.provider]).providers :=
      List.mem_singleton_self _
    obtain ⟨item, hi, e, he, hj⟩ := Menu.exists_mem_of_fits hp hf
    exact .menu hi he hj

/-- Everything that is on its way to the action manager fits. -/
structure Fitting (ls : List Label) (s : Session) : Prop where
  shown : ∀ e ∈ shown ls, ∀ job, e.job? = some job → job.Fits
  waiting : ∀ job, .run job ∈ waiting s.daemon → job.Fits
  started : ∀ job ∈ started ls, job.Fits

theorem fits_of_shown_menu :
    ∀ e ∈ (Label.menu d.menu).entries, ∀ job, e.job? = some job → job.Fits := by
  intro e he job hj
  obtain ⟨item, hi, he⟩ := List.mem_flatMap.mp he
  exact Menu.fits_of_mem hi he hj

theorem shown_of_quiet (hi : Fitting ls s) (he : l.entries = []) :
    ∀ e ∈ shown (ls ++ [l]), ∀ job, e.job? = some job → job.Fits := by
  simpa [Daemon.shown_snoc, he] using hi.shown

theorem started_of_quiet (hi : Fitting ls s) (hj : l.job? = none) :
    ∀ job ∈ started (ls ++ [l]), job.Fits := by
  simpa [Daemon.started_snoc, hj] using hi.started

/-- A step that shows no entry, makes no command wait and starts no job changes nothing. -/
theorem fitting_quiet (hi : Fitting ls s) (he : l.entries = []) (hj : l.job? = none)
    (hw : waiting t.daemon = waiting s.daemon) : Fitting (ls ++ [l]) t where
  shown := shown_of_quiet hi he
  waiting := hw ▸ hi.waiting
  started := started_of_quiet hi hj

section

variable [Regex.Engine]

theorem fitting_step (hs : Step (shown ls) s l t) (hi : Fitting ls s) : Fitting (ls ++ [l]) t := by
  cases hs with
  | files | refresh | actions => exact fitting_quiet hi rfl rfl rfl
  | reload => exact fitting_quiet hi rfl rfl (Daemon.waiting_reload _ _)
  | menu =>
    refine ⟨?_, hi.waiting, started_of_quiet hi rfl⟩
    rw [Daemon.shown_snoc]
    intro e he
    rcases List.mem_append.mp he with hold | hnew
    · exact hi.shown e hold
    · exact fits_of_shown_menu e hnew
  | choose he =>
    refine ⟨shown_of_quiet hi rfl, ?_, started_of_quiet hi rfl⟩
    intro job hw
    rcases Daemon.waiting_activate hw with hold | hnew
    · exact hi.waiting job hold
    · exact hi.shown _ he job (by simp [Menu.Entry.job?, hnew])
  | deafen =>
    refine ⟨shown_of_quiet hi rfl, ?_, started_of_quiet hi rfl⟩
    simp [waiting]
  | @carry _ command hp =>
    have hw := Daemon.waiting_pump hp
    refine ⟨shown_of_quiet hi rfl, ?_, ?_⟩
    · intro job hin
      exact hi.waiting job (hw ▸ List.mem_cons_of_mem _ hin)
    · rw [Daemon.started_snoc]
      intro job hin
      rcases List.mem_append.mp hin with hold | hnew
      · exact hi.started job hold
      · cases command with
        | run job' =>
          have hsame : job = job' := by simpa [Label.job?] using hnew
          exact hi.waiting job (by simp [hw, hsame])
        | cancelPending | reload => simp [Label.job?] at hnew
  | hotkey =>
    refine ⟨shown_of_quiet hi rfl, ?_, ?_⟩
    · rw [Daemon.waiting_hotkey]
      exact hi.waiting
    · rw [Daemon.started_snoc]
      intro job hin
      rcases List.mem_append.mp hin with hold | hnew
      · exact hi.started job hold
      · exact fits_of_hotkey (by simpa [Label.job?] using hnew)

theorem fitting_of_reached (hr : Reached first ls s) (hf : waiting first.daemon = []) :
    Fitting ls s := by
  induction hr with
  | start => exact ⟨by simp [Daemon.shown], by simp [hf], by simp [Daemon.started]⟩
  | step _ hs ih => exact fitting_step hs ih

/-- Exactly the jobs that fit can be asked for, and every entry below a submenu that may be chosen
is one of them. However long a daemon runs and whatever is reloaded meanwhile, it starts no other
job. A job that fits is not refused for its trigger, and one that does not fit ends at once with
that error and without any event. -/
theorem only_fitting_jobs_start :
    (∀ job, Offered job ↔ job.Fits) ∧
    (∀ (r : Registry) (label : String) (entries : List Menu.Entry),
      .submenu label entries ∈ Menu.ofRegistry r → ∀ e ∈ entries, e.enabled = true →
        ∃ job, e.job? = some job ∧ job.provider ∈ r.providers ∧ job.Fits) ∧
    (∀ first ls s, waiting first.daemon = [] → Reached first ls s → ∀ job ∈ started ls, job.Fits) ∧
    ∀ (job : Job) (h : List Exchange) (outcome : Except Error String),
      (job.Fits → (perform job.provider job.trigger).Returns h outcome →
        ∀ name trigger, outcome ≠ .error (.wrongTrigger name trigger)) ∧
      (¬ job.Fits → ((perform job.provider job.trigger).Returns h outcome ↔
        h = [] ∧ outcome = .error (.wrongTrigger job.provider.name job.trigger))) := by
  refine ⟨fun job => offered_iff_fits, fun r label entries hs e he hen => ?_,
    fun first ls s hf hr => (fitting_of_reached hr hf).started, fun job h outcome => ⟨?_, ?_⟩⟩
  · exact Menu.fits_of_submenu hs he hen
  · exact Job.not_refused_of_fits
  · exact Job.returns_of_not_fits

end

/-- A tool that has a file field, which no GET request can fill. -/
def fieldedTool : Provider where
  name := "Shorten"
  method := .get
  address := "https://short.test"
  fileField := some "image"
  dataOnly := false
  multiline := false
  arguments := ⟨[("url", "$input$")]⟩
  headers := .empty
  patterns := []
  template := none
  source := none

/-- A session with that tool alone, and with a folder that is nowhere. -/
def fieldedSession : Session where
  files := ⟨.empty, []⟩
  daemon := ⟨"", none, none, .ofProviders [fieldedTool], some [], false, false⟩
  actions := .start ⟨[], [], none, [], .copied, none, .ofPicks fun _ => 0, none⟩ false

/-- The tool is chosen in a menu that was built before a reload dropped it. -/
theorem only_fitting_jobs_start_late :
    ∃ ls s, waiting fieldedSession.daemon = [] ∧ Reached fieldedSession ls s ∧
      s.daemon.registry = .empty ∧
      ⟨fieldedTool, .tool⟩ ∈ started ls ∧ (⟨fieldedTool, .tool⟩ : Job).Fits := by
  let job : Job := ⟨fieldedTool, .tool⟩
  let e := Menu.providerEntry .tool fieldedTool
  have run : ∃ s, Reached fieldedSession
      ([] ++ [.menu fieldedSession.daemon.menu] ++ [.reload fieldedSession.reload.1] ++
        [.choose e] ++ [.carry (.run job)]) s ∧ s.daemon.registry = .empty :=
    ⟨_, (((Reached.start.step .menu).step .reload).step (.choose (by decide))).step (.carry rfl),
      rfl⟩
  obtain ⟨s, hr, hempty⟩ := run
  exact ⟨_, s, rfl, hr, hempty, by simp [started, Label.job?, job],
    only_fitting_jobs_start.2.2.1 _ _ s rfl hr job (by simp [started, Label.job?, job])⟩

end LinkShot

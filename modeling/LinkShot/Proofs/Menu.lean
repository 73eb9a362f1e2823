import LinkShot.Menu
import LinkShot.Proofs.Job

/-! The jobs that stand in a menu: providers under the triggers that fit them. -/
namespace LinkShot

open LinkShot.Action (Trigger)

variable {r : Registry} {provider : Provider} {trigger : Trigger} {job : Job} {none? label : String}
  {providers : List Provider} {e : Menu.Entry} {item : Menu.Item}

theorem Capture.Mode.mem_all (mode : Capture.Mode) : mode ∈ Capture.Mode.all := by
  cases mode <;> decide

theorem Provider.menuGroup_eq_upload_iff :
    provider.menuGroup = .upload ↔ provider.isUpload = true := by
  unfold menuGroup
  split
  · simp [*]
  · cases provider.method <;> simp [*]

theorem Registry.mem_uploads :
    provider ∈ r.uploads ↔ provider ∈ r.providers ∧ provider.isUpload = true := by
  simp [uploads, inGroup, Provider.menuGroup_eq_upload_iff]

theorem Registry.mem_tools :
    provider ∈ r.tools ↔ provider ∈ r.providers ∧ provider.isUpload = false := by
  simp [tools]

namespace Menu

/-- The lines of an item that may be chosen. -/
def Item.entries : Item → List Entry
  | .entry e => [e]
  | .submenu _ entries => entries
  | .separator => []

/-- The job that an entry stands for. -/
def Entry.job? (e : Entry) : Option Job :=
  match e.effect with
  | some (.send (.run job)) => some job
  | _ => none

theorem mem_providerEntries (he : e ∈ providerEntries none? trigger providers) :
    e.enabled = false ∨ ∃ provider ∈ providers, e = providerEntry trigger provider := by
  unfold providerEntries at he
  split at he
  · rw [List.mem_singleton.mp he]
    exact .inl rfl
  · obtain ⟨provider, hp, rfl⟩ := List.mem_map.mp he
    exact .inr ⟨provider, hp, rfl⟩

theorem providerEntry_mem (hp : provider ∈ providers) :
    providerEntry trigger provider ∈ providerEntries none? trigger providers := by
  have hne : providers.isEmpty = false := List.isEmpty_eq_false_iff.mpr (List.ne_nil_of_mem hp)
  rw [providerEntries, hne]
  exact List.mem_map_of_mem hp

/-- Only the submenus hold jobs. -/
theorem mem_ofRegistry (hi : item ∈ ofRegistry r) :
    (∃ mode, item = captureMenu r mode) ∨ item = toolMenu r ∨ item = .separator ∨
      ∃ e, item = .entry e ∧ e.job? = none := by
  rcases List.mem_append.mp hi with hcapture | hrest
  · obtain ⟨mode, _, rfl⟩ := List.mem_map.mp hcapture
    exact .inl ⟨mode, rfl⟩
  · simp only [List.mem_cons, List.not_mem_nil, or_false] at hrest
    rcases hrest with rfl | rfl | rfl | rfl | rfl | rfl
    · exact .inr (.inl rfl)
    · exact .inr (.inr (.inl rfl))
    · exact .inr (.inr (.inr ⟨_, rfl, rfl⟩))
    · exact .inr (.inr (.inr ⟨_, rfl, rfl⟩))
    · exact .inr (.inr (.inl rfl))
    · exact .inr (.inr (.inr ⟨_, rfl, rfl⟩))

theorem job_of_providerEntries (he : e ∈ providerEntries none? trigger providers)
    (hen : e.enabled = true) : ∃ provider ∈ providers, e.job? = some ⟨provider, trigger⟩ := by
  rcases mem_providerEntries he with hdis | ⟨provider, hp, rfl⟩
  · simp [hen] at hdis
  · exact ⟨provider, hp, rfl⟩

theorem enabled_of_job (hj : e.job? = some job) : e.enabled = true := by
  unfold Entry.job? at hj
  split at hj
  · simp [Entry.enabled, *]
  · cases hj

/-- Whatever can be chosen below a submenu is the job of a provider that is loaded, and fits it. -/
theorem fits_of_submenu {label : String} {entries : List Entry}
    (hs : .submenu label entries ∈ ofRegistry r) (he : e ∈ entries) (hen : e.enabled = true) :
    ∃ job, e.job? = some job ∧ job.provider ∈ r.providers ∧ job.Fits := by
  rcases mem_ofRegistry hs with ⟨mode, heq⟩ | heq | heq | ⟨_, heq, _⟩
  · cases heq
    obtain ⟨provider, hp, hj⟩ := job_of_providerEntries he hen
    obtain ⟨hin, hup⟩ := Registry.mem_uploads.mp hp
    exact ⟨_, hj, hin, Job.fits_capture hup⟩
  · cases heq
    obtain ⟨provider, hp, hj⟩ := job_of_providerEntries he hen
    obtain ⟨hin, htool⟩ := Registry.mem_tools.mp hp
    exact ⟨_, hj, hin, Job.fits_tool htool⟩
  · cases heq
  · cases heq

theorem fits_of_mem (hi : item ∈ ofRegistry r) (he : e ∈ item.entries) (hj : e.job? = some job) :
    job.Fits := by
  cases item with
  | submenu label entries =>
    obtain ⟨job', hj', _, hf⟩ := fits_of_submenu hi he (enabled_of_job hj)
    rw [hj] at hj'
    cases hj'
    exact hf
  | entry line =>
    rcases mem_ofRegistry hi with ⟨mode, heq⟩ | heq | heq | ⟨_, heq, hnone⟩
    · cases heq
    · cases heq
    · cases heq
    · cases heq
      rw [List.mem_singleton.mp he, hnone] at hj
      cases hj
  | separator => simp [Item.entries] at he

/-- An entry that stands for a job shows the provider of that job, one of those that are loaded. -/
theorem entry_of_job (hi : item ∈ ofRegistry r) (he : e ∈ item.entries) (hj : e.job? = some job) :
    job.provider ∈ r.providers ∧ e = providerEntry job.trigger job.provider := by
  have hen := enabled_of_job hj
  rcases mem_ofRegistry hi with ⟨mode, rfl⟩ | rfl | rfl | ⟨line, rfl, hnone⟩
  · rcases mem_providerEntries he with hdis | ⟨provider, hp, rfl⟩
    · simp [hen] at hdis
    · cases hj
      exact ⟨(Registry.mem_uploads.mp hp).1, rfl⟩
  · rcases mem_providerEntries he with hdis | ⟨provider, hp, rfl⟩
    · simp [hen] at hdis
    · cases hj
      exact ⟨(Registry.mem_tools.mp hp).1, rfl⟩
  · cases he
  · rw [List.mem_singleton.mp he, hnone] at hj
    cases hj

/-- Every job that fits stands in the menu of a registry that has its provider. -/
theorem exists_mem_of_fits (hp : job.provider ∈ r.providers) (hf : job.Fits) :
    ∃ item ∈ ofRegistry r, ∃ e ∈ item.entries, e.job? = some job := by
  obtain ⟨provider, trigger⟩ := job
  cases trigger with
  | capture mode =>
    have hup : provider ∈ r.uploads := Registry.mem_uploads.mpr ⟨hp, hf.mp ⟨mode, rfl⟩⟩
    refine ⟨captureMenu r mode, ?_, providerEntry (.capture mode) provider, ?_, rfl⟩
    · exact List.mem_append_left _ (List.mem_map_of_mem mode.mem_all)
    · exact providerEntry_mem hup
  | tool =>
    have hnot : provider.isUpload = false := by simpa [Job.Fits] using hf
    have htool : provider ∈ r.tools := Registry.mem_tools.mpr ⟨hp, hnot⟩
    refine ⟨toolMenu r, ?_, providerEntry .tool provider, ?_, rfl⟩
    · exact List.mem_append_right _ List.mem_cons_self
    · exact providerEntry_mem htool

end Menu
end LinkShot

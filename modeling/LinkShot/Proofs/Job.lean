import LinkShot.Job
import LinkShot.Proofs.Action.Course

/-!
Jobs whose trigger fits their provider: captures start upload providers, and the tool trigger starts
the others. An action asks for nothing else before it begins, and one that asks in vain does
nothing.
-/
namespace LinkShot.Job

open LinkShot.Action (Exchange Error Trigger accepts perform perform_returns_iff)

variable {job : Job} {provider : Provider} {trigger : Trigger} {mode : Capture.Mode}
  {h : List Exchange} {outcome : Except Error String}

/-- Captures go with upload providers, and with no others. -/
def Fits (job : Job) : Prop := (∃ mode, job.trigger = .capture mode) ↔ job.provider.isUpload = true

theorem fits_iff_accepts : job.Fits ↔ accepts job.provider job.trigger = true := by
  obtain ⟨provider, trigger⟩ := job
  cases trigger with
  | capture mode => simp [Fits, accepts]
  | tool => simp [Fits, accepts]

theorem fits_capture (hp : provider.isUpload = true) : Fits ⟨provider, .capture mode⟩ := by
  simp [Fits, hp]

theorem fits_tool (hp : provider.isUpload = false) : Fits ⟨provider, .tool⟩ := by
  simp [Fits, hp]

theorem fits_ofProvider (provider : Provider) (mode : Capture.Mode) :
    (Job.ofProvider provider mode).Fits := by
  unfold Job.ofProvider
  split
  · rename_i hp
    exact fits_capture hp
  · rename_i hp
    exact fits_tool (by simpa using hp)

variable [Regex.Engine]

/-- A job that does not fit is refused at once, before anything is asked or seen. -/
theorem returns_of_not_fits (hn : ¬ job.Fits) :
    (perform job.provider job.trigger).Returns h outcome ↔
      h = [] ∧ outcome = .error (.wrongTrigger job.provider.name job.trigger) := by
  rw [fits_iff_accepts, Bool.not_eq_true] at hn
  rw [perform_returns_iff]
  constructor
  · intro hc
    cases hc with
    | wrongTrigger => exact ⟨rfl, rfl⟩
    | captureFailed ha => simp [hn] at ha
    | submitted ha => simp [hn] at ha
  · rintro ⟨rfl, rfl⟩
    exact .wrongTrigger hn

/-- One that fits is never refused for its trigger, whatever becomes of it. -/
theorem not_refused_of_fits (hf : job.Fits)
    (hr : (perform job.provider job.trigger).Returns h outcome)
    (name : String) (trigger : Trigger) : outcome ≠ .error (.wrongTrigger name trigger) := by
  rw [fits_iff_accepts] at hf
  cases perform_returns_iff.mp hr with
  | wrongTrigger ha => simp [hf] at ha
  | captureFailed => simp
  | submitted _ _ hs => cases hs <;> simp

end LinkShot.Job

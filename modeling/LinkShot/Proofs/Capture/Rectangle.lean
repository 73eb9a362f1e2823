import LinkShot.Proofs.Binary64
import LinkShot.Proofs.Capture.Calls

/-!
The rectangle that the grabber is asked for when a window is captured. That a window has a positive
size is found out before the size is turned into whole pixels, so that the rectangle can be empty.
-/
namespace LinkShot.Capture

open Json (Value)
open Text (Bytes)
open Tool (Call Outcome answer)

/-- A rectangle in whole pixels. -/
structure Rectangle where
  x : Int
  y : Int
  width : Int
  height : Int
  deriving DecidableEq, Repr

/-- A rectangle as the grabber takes it. -/
def Rectangle.text (r : Rectangle) : String :=
  toString r.x ++ "," ++ toString r.y ++ " " ++ toString r.width ++ "x" ++ toString r.height

/-- The text of a number tells the number. -/
theorem eq_of_repr {i j : Int} (h : i.repr.toList = j.repr.toList) : i = j := by
  have hdigits {m n : Nat} (h : Nat.toDigits 10 m = Nat.toDigits 10 n) : m = n := by
    rw [← Nat.ofDigitChars_ten_toDigits (n := m), h, Nat.ofDigitChars_ten_toDigits]
  have hsign {m n : Nat} : Nat.toDigits 10 m ≠ '-' :: Nat.toDigits 10 n := by
    intro h
    have hminus : '-' ∈ Nat.toDigits 10 m := by simp [h]
    have hdigit := Nat.isDigit_of_mem_toDigits (by decide) (by decide) hminus
    cases hdigit
  rw [Int.repr_eq_if, Int.repr_eq_if] at h
  split_ifs at h with hi hj hj
  · have := hdigits (by simpa using h)
    omega
  · exact absurd (by simpa using h) hsign
  · exact absurd (by simpa using h.symm) hsign
  · have := hdigits (by simpa using h)
    omega

theorem notMem_repr {c : Char} (hdigit : c.isDigit = false) (hsign : c ≠ '-') (i : Int) :
    c ∉ i.repr.toList := by
  have hdigits (n : Nat) : c ∉ Nat.toDigits 10 n := by
    intro hc
    rw [Nat.isDigit_of_mem_toDigits (by decide) (by decide) hc] at hdigit
    cases hdigit
  rw [Int.repr_eq_if]
  split <;> simp [hdigits, hsign]

/-- The marks between the numbers are no part of a number, so that the text tells the rectangle. -/
theorem Rectangle.text_injective {r r' : Rectangle} (h : r.text = r'.text) : r = r' := by
  have hcomma := notMem_repr (c := ',') (by decide) (by decide)
  have hspace := notMem_repr (c := ' ') (by decide) (by decide)
  have htimes := notMem_repr (c := 'x') (by decide) (by decide)
  have htext (r : Rectangle) : r.text.toList = r.x.repr.toList ++ ',' ::
      (r.y.repr.toList ++ ' ' :: (r.width.repr.toList ++ 'x' :: r.height.repr.toList)) := by
    simp [Rectangle.text]
  rw [← String.toList_inj, htext, htext] at h
  obtain ⟨hx, -, h⟩ := (List.append_cons_inj_of_notMem (hcomma _) (by simp [hcomma])).mp h
  obtain ⟨hy, -, h⟩ := (List.append_cons_inj_of_notMem (hspace _) (by simp [hspace])).mp h
  obtain ⟨hwidth, -, hheight⟩ := (List.append_cons_inj_of_notMem (htimes _) (htimes _)).mp h
  cases r
  cases r'
  congr 1
  · exact eq_of_repr hx
  · exact eq_of_repr hy
  · exact eq_of_repr hwidth
  · exact eq_of_repr hheight

def wholePosition (s : Scaled) : Int := wholeIn (-2147483648) 2147483647 s

def wholeSize (s : Scaled) : Int := wholeIn 0 4294967295 s

namespace Geometry

/-- The rectangle in pixels. -/
def rectangle (g : Geometry) (factor : Binary64) : Rectangle :=
  ⟨wholePosition (scale g.x factor), wholePosition (scale g.y factor),
    wholeSize (scale g.width factor), wholeSize (scale g.height factor)⟩

theorem text_eq (g : Geometry) (factor : Binary64) :
    g.text factor = (g.rectangle factor).text := rfl

end Geometry

/-- A size comes to a pixel or more. The product is rounded before it is turned into a whole number,
so that one that misses half a pixel by no more than `2^-55` counts as half a pixel. -/
def Reaches (size factor : Binary64) : Prop :=
  if factor.isNearOne then 1 / 2 ≤ size.value else 1 / 2 - 1 / 2 ^ 55 ≤ size.value * factor.value

/-- What the sizes of a window are multiplied by: the scale of its monitor, or one without a
monitor. -/
inductive Scales (tools : Tools) (commands : Commands) (window : Value) : Binary64 → Prop
  | unmonitored : (∀ monitor, ¬ OnMonitor window monitor) → Scales tools commands window .one
  | monitored {monitor : Int} : OnMonitor window monitor →
      Scales tools commands window (factorOf monitor (answer tools (monitorsCall commands)))

variable {tools : Tools} {commands : Commands} {size factor : Binary64} {s : Scaled}
  {window : Value}
  {g : Geometry} {text : String}

theorem one_le_wholeSize_some {x : Binary64} (h : s.value = some x) :
    1 ≤ wholeSize s ↔ 1 / 2 ≤ x.value := by
  rw [wholeSize, wholeIn, h, ← Binary64.one_le_roundAway_iff]
  dsimp only
  omega

theorem one_le_wholeSize_none (h : s.value = none) : 1 ≤ wholeSize s ↔ s.negative = false := by
  rw [wholeSize, wholeIn, h]
  cases s.negative <;> decide

theorem wholeSize_nonneg (s : Scaled) : 0 ≤ wholeSize s := by
  unfold wholeSize wholeIn
  split
  · omega
  · split <;> decide

theorem one_le_wholeSize_iff (size factor : Binary64) :
    1 ≤ wholeSize (scale size factor) ↔ Reaches size factor := by
  unfold scale Reaches
  split
  · exact one_le_wholeSize_some rfl
  · cases h : size.mul factor with
    | some x => rw [one_le_wholeSize_some rfl, Binary64.half_le_mul_iff h]
    | none =>
      have hhalf := Binary64.half_le_of_mul_overflow h
      rw [one_le_wholeSize_none rfl, Binary64.value_mul]
      cases size.negative != factor.negative with
      | true =>
        simp
        linarith
      | false =>
        simp
        linarith

/-- A size of at least one is not lost on a monitor whose scale is at least a half. -/
theorem reaches_of_le (hsize : 1 ≤ size.value) (hfactor : 1 / 2 ≤ factor.value) :
    Reaches size factor := by
  unfold Reaches
  split
  · linarith
  · have hproduct : 1 * (1 / 2) ≤ size.value * factor.value := by gcongr
    norm_num at hproduct ⊢
    linarith

theorem not_reaches_of_nonpos (hsize : 0 < size.value) (hfactor : factor.value ≤ 0) :
    ¬ Reaches size factor := by
  unfold Reaches
  split
  · rename_i hone
    exact absurd (Binary64.value_pos_of_isNearOne hone) hfactor.not_gt
  · have hproduct := mul_nonpos_of_nonneg_of_nonpos hsize.le hfactor
    norm_num
    linarith

theorem positive_of_ofWindow (h : Geometry.ofWindow window = .ok g) :
    0 < g.width.value ∧ 0 < g.height.value := by
  unfold Geometry.ofWindow at h
  cases hat : Geometry.pair window "at" with
  | error e =>
    rw [hat] at h
    cases h
  | ok position =>
    cases hsize : Geometry.pair window "size" with
    | error e =>
      rw [hat, hsize] at h
      cases h
    | ok size =>
      simp only [hat, hsize, bind, Except.bind] at h
      split at h
      · rename_i hpositive
        cases h
        rw [Bool.and_eq_true] at hpositive
        exact ⟨Binary64.value_pos hpositive.1, Binary64.value_pos hpositive.2⟩
      · cases h

/-- A rectangle that the grabber is asked for is that of the active window in pixels. -/
theorem asked_for_window
    (h : grabCall commands (some text) ∈ ((grab tools commands .window).run.run []).2) :
    ∃ out errors window g factor, answer tools (windowCall commands) = .ended true out errors ∧
      Value.read out = .ok window ∧ Geometry.ofWindow window = .ok g ∧
      Scales tools commands window factor ∧ text = (g.rectangle factor).text := by
  obtain ⟨calls, area, hlocated, harea⟩ := area_makes tools commands .window
  obtain ⟨result, hresult, -⟩ := grab_makes harea
  rw [hresult] at h
  simp only [List.nil_append, List.mem_filter, List.mem_append] at h
  have hcalls : grabCall commands (some text) ∉ calls := by
    cases hlocated <;> simp [grabCall, grabArguments, windowCall, monitorsCall]
  have hgrab := h.1.resolve_left hcalls
  cases hlocated with
  | queryFails | notJson | unusable => cases hgrab
  | unmonitored hout hread hg hnone =>
    obtain rfl : text = _ := by simpa [grabCalls, grabCall, grabArguments] using hgrab
    exact ⟨_, _, _, _, _, hout, hread, hg, .unmonitored hnone, Geometry.text_eq _ _⟩
  | monitored hout hread hg hon =>
    obtain rfl : text = _ := by simpa [grabCalls, grabCall, grabArguments] using hgrab
    exact ⟨_, _, _, _, _, hout, hread, hg, .monitored hon, Geometry.text_eq _ _⟩

/-- The grabber is asked for as many pixels as the sizes of the window come to, which is none where
a scaled size does not reach half a pixel. No window that is a unit wide and high gets lost on a
monitor whose scale is at least a half, and all are on a monitor whose scale is not positive. -/
theorem window_in_pixels (tools : Tools) (commands : Commands) (text : String)
    (h : grabCall commands (some text) ∈ ((grab tools commands .window).run.run []).2) :
    ∃ out errors window g factor r, answer tools (windowCall commands) = .ended true out errors ∧
      Value.read out = .ok window ∧ Geometry.ofWindow window = .ok g ∧
      Scales tools commands window factor ∧
      (∀ r' : Rectangle, text = r'.text ↔ r' = r) ∧ 0 ≤ r.width ∧ 0 ≤ r.height ∧
      (1 ≤ r.width ↔ Reaches g.width factor) ∧ (1 ≤ r.height ↔ Reaches g.height factor) ∧
      (1 ≤ g.width.value → 1 ≤ g.height.value → 1 / 2 ≤ factor.value → 1 ≤ r.width ∧ 1 ≤ r.height) ∧
      (factor.value ≤ 0 → r.width = 0 ∧ r.height = 0) := by
  obtain ⟨out, errors, window, g, factor, hout, hread, hg, hfactor, rfl⟩ := asked_for_window h
  have hwidth : 1 ≤ (g.rectangle factor).width ↔ _ := one_le_wholeSize_iff g.width factor
  have hheight : 1 ≤ (g.rectangle factor).height ↔ _ := one_le_wholeSize_iff g.height factor
  have hwidth' : 0 ≤ (g.rectangle factor).width := wholeSize_nonneg _
  have hheight' : 0 ≤ (g.rectangle factor).height := wholeSize_nonneg _
  refine ⟨out, errors, window, g, factor, g.rectangle factor, hout, hread, hg, hfactor, ?_,
    hwidth', hheight', hwidth, hheight, ?_, ?_⟩
  · intro r'
    refine ⟨fun h => Rectangle.text_injective h.symm, ?_⟩
    rintro rfl
    rfl
  · intro hw hh hscale
    exact ⟨hwidth.mpr (reaches_of_le hw hscale), hheight.mpr (reaches_of_le hh hscale)⟩
  · intro hscale
    obtain ⟨hw, hh⟩ := positive_of_ofWindow hg
    have hnone := mt hwidth.mp (not_reaches_of_nonpos hw hscale)
    have hnone' := mt hheight.mp (not_reaches_of_nonpos hh hscale)
    omega

/-- Programs that tell a window and the monitors, and grab an image of one byte. -/
def telling (window monitors : String) : Tools := fun call =>
  if call.arguments = ["activewindow", "-j"] then .ended true (Text.encode window) []
  else if call.arguments = ["monitors", "-j"] then .ended true (Text.encode monitors) []
  else .ended true [0] []

def usualCommands : Commands := ⟨"grim", "slurp", "hyprctl"⟩

/-- A window on a monitor that has two pixels for a unit. -/
def doubled : Tools := telling "\x7b\"at\":[0,0],\"size\":[8,6],\"monitor\":1\x7d"
  "[\x7b\"id\":1,\"scale\":2\x7d]"

theorem window_in_pixels_doubled :
    grabCall usualCommands (some "0,0 16x12") ∈
        ((grab doubled usualCommands .window).run.run []).2 ∧
      ∃ out errors window g factor r,
        answer doubled (windowCall usualCommands) = .ended true out errors ∧
        Value.read out = .ok window ∧ Geometry.ofWindow window = .ok g ∧
        Scales doubled usualCommands window factor ∧
        (∀ r' : Rectangle, "0,0 16x12" = r'.text ↔ r' = r) ∧ 0 ≤ r.width ∧ 0 ≤ r.height ∧
        (1 ≤ r.width ↔ Reaches g.width factor) ∧ (1 ≤ r.height ↔ Reaches g.height factor) ∧
        (1 ≤ g.width.value → 1 ≤ g.height.value → 1 / 2 ≤ factor.value →
          1 ≤ r.width ∧ 1 ≤ r.height) ∧
        (factor.value ≤ 0 → r.width = 0 ∧ r.height = 0) := by
  have hasked : grabCall usualCommands (some "0,0 16x12") ∈
      ((grab doubled usualCommands .window).run.run []).2 := by
    decide +kernel
  exact ⟨hasked, window_in_pixels doubled usualCommands "0,0 16x12" hasked⟩

/-- A window whose width is positive, but less than half a pixel. -/
theorem narrow_window_is_empty :
    ¬ ∀ (tools : Tools) (commands : Commands) (text : String),
      grabCall commands (some text) ∈ ((grab tools commands .window).run.run []).2 →
        ∃ r : Rectangle, text = r.text ∧ 1 ≤ r.width ∧ 1 ≤ r.height := by
  intro h
  obtain ⟨r, htext, hwidth, -⟩ := h (telling "\x7b\"at\":[0,0],\"size\":[0.3,10]\x7d" "[]")
    usualCommands "0,0 0x10" (by decide +kernel)
  have hempty : (⟨0, 0, 0, 10⟩ : Rectangle).text = "0,0 0x10" := by decide
  obtain rfl := Rectangle.text_injective (htext.symm.trans hempty.symm)
  cases hwidth

end LinkShot.Capture

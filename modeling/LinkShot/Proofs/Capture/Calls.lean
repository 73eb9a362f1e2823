import LinkShot.Capture.Grab
import LinkShot.Proofs.Json.Within
import LinkShot.Proofs.Tool

/-!
The programs that a capture calls. First the area is found out, which for the whole screen takes no
program, for a region one and for a window one or two; then the grabber is called, if there is an
area.
-/
namespace LinkShot.Capture

open Json (Value)
open Text (Bytes)
open Tool (Call Outcome Makes answer makes_pure makes_throw makes_run makes_lift
  makes_bind makes_bind_error makes_map makes_recover)

def selectCall (commands : Commands) : Call := ⟨commands.select, ["-f", "%x,%y %wx%h"], []⟩

def windowCall (commands : Commands) : Call := ⟨commands.windows, ["activewindow", "-j"], []⟩

def monitorsCall (commands : Commands) : Call := ⟨commands.windows, ["monitors", "-j"], []⟩

def grabCall (commands : Commands) (area : Option String) : Call :=
  ⟨commands.grab, grabArguments area, []⟩

/-- A program that does not start, or ends without success. -/
inductive Fails (command : String) : Outcome → Error → Prop
  | notStarted {reason : String} : Fails command (.notStarted reason) (.spawn command reason)
  | ended {out errors : Bytes} : Fails command (.ended false out errors)
      (.toolFailed command (Text.trim (Text.decodeLossy errors)))

/-- The window tells its monitor by an integer of 64 bits with a sign. -/
def OnMonitor (window : Value) (monitor : Int) : Prop :=
  window.get? "monitor" = some (.number (.int monitor)) ∧
    -9223372036854775808 ≤ monitor ∧ monitor < 9223372036854775808

/-- The scale of a monitor by the answer to the question for monitors: one whatever is wrong with
it. -/
def factorOf (monitor : Int) : Outcome → Binary64
  | .ended true out _ => ((Value.read out).toOption.bind (scaleOf · monitor)).getD .one
  | _ => .one

/-- The calls by which the area of a capture is found out, with the area or the error that ends the
capture. -/
inductive Located (tools : Tools) (commands : Commands) :
    Mode → List Call → Except Error (Option String) → Prop
  | screen : Located tools commands .full [] (.ok none)
  | selectorFails {e : Error} : Fails commands.select (answer tools (selectCall commands)) e →
      Located tools commands .region [selectCall commands] (.error e)
  | notText {out errors : Bytes} {flaw : Text.Flaw} :
      answer tools (selectCall commands) = .ended true out errors →
      Text.decodeOrFlaw out = .error flaw →
      Located tools commands .region [selectCall commands]
        (.error (.invalidResponse ("Invalid " ++ commands.select ++ " output: " ++ flaw.message)))
  | nothingSelected {out errors : Bytes} {text : String} :
      answer tools (selectCall commands) = .ended true out errors →
      Text.decodeOrFlaw out = .ok text → Text.trim text = "" →
      Located tools commands .region [selectCall commands]
        (.error (.invalidResponse (commands.select ++ " returned empty geometry")))
  | selected {out errors : Bytes} {text : String} :
      answer tools (selectCall commands) = .ended true out errors →
      Text.decodeOrFlaw out = .ok text → Text.trim text ≠ "" →
      Located tools commands .region [selectCall commands] (.ok (some (Text.trim text)))
  | queryFails {e : Error} : Fails commands.windows (answer tools (windowCall commands)) e →
      Located tools commands .window [windowCall commands] (.error e)
  | notJson {out errors : Bytes} {fault : Json.Fault} :
      answer tools (windowCall commands) = .ended true out errors →
      Value.read out = .error fault →
      Located tools commands .window [windowCall commands]
        (.error (.invalidResponse
          ("Failed to parse " ++ commands.windows ++ " output: " ++ fault.message)))
  | unusable {out errors : Bytes} {window : Value} {e : Error} :
      answer tools (windowCall commands) = .ended true out errors →
      Value.read out = .ok window → Geometry.ofWindow window = .error e →
      Located tools commands .window [windowCall commands] (.error e)
  | unmonitored {out errors : Bytes} {window : Value} {g : Geometry} :
      answer tools (windowCall commands) = .ended true out errors →
      Value.read out = .ok window → Geometry.ofWindow window = .ok g →
      (∀ monitor, ¬ OnMonitor window monitor) →
      Located tools commands .window [windowCall commands] (.ok (some (g.text .one)))
  | monitored {out errors : Bytes} {window : Value} {g : Geometry} {monitor : Int} :
      answer tools (windowCall commands) = .ended true out errors →
      Value.read out = .ok window → Geometry.ofWindow window = .ok g → OnMonitor window monitor →
      Located tools commands .window [windowCall commands, monitorsCall commands]
        (.ok (some (g.text (factorOf monitor (answer tools (monitorsCall commands))))))

/-- The grabber is called once there is an area. -/
def grabCalls (commands : Commands) : Except Error (Option String) → List Call
  | .ok area => [grabCall commands area]
  | .error _ => []

/-- What the answer of the grabber comes to. -/
inductive Grabbed (command : String) : Outcome → Except Error Bytes → Prop
  | fails {outcome : Outcome} {e : Error} : Fails command outcome e →
      Grabbed command outcome (.error e)
  | blank {errors : Bytes} : Grabbed command (.ended true [] errors) (.error (.emptyImage command))
  | image {image errors : Bytes} : image ≠ [] →
      Grabbed command (.ended true image errors) (.ok image)

variable {tools : Tools} {commands : Commands} {command : String} {arguments : List String}
  {outcome : Outcome} {out errors : Bytes} {e : Error} {window : Value} {g : Geometry}
  {monitor : Int} {mode : Mode} {calls : List Call} {area : Except Error (Option String)}

theorem fails_or_ends (command : String) (outcome : Outcome) :
    (∃ e, Fails command outcome e) ∨ ∃ out errors, outcome = .ended true out errors := by
  cases outcome with
  | notStarted reason => exact .inl ⟨_, .notStarted⟩
  | ended success out errors =>
    cases success with
    | false => exact .inl ⟨_, .ended⟩
    | true => exact .inr ⟨out, errors, rfl⟩

theorem makes_output_fails (h : Fails command (answer tools ⟨command, arguments, []⟩) e) :
    Makes (output tools command arguments) [⟨command, arguments, []⟩] (.error e) := by
  refine makes_bind (makes_run tools _) ?_
  generalize answer tools ⟨command, arguments, []⟩ = outcome at h
  cases h with
  | notStarted => exact makes_throw _
  | ended => exact makes_throw _

theorem makes_output (h : answer tools ⟨command, arguments, []⟩ = .ended true out errors) :
    Makes (output tools command arguments) [⟨command, arguments, []⟩] (.ok out) := by
  refine makes_bind (makes_run tools _) ?_
  rw [h]
  exact makes_pure out

theorem selectRegion_makes (tools : Tools) (commands : Commands) :
    ∃ r, Located tools commands .region [selectCall commands] (r.map some) ∧
    Makes (selectRegion tools commands.select) [selectCall commands] r := by
  rcases fails_or_ends commands.select (answer tools (selectCall commands)) with
    ⟨e, hfails⟩ | ⟨out, errors, hout⟩
  · exact ⟨.error e, .selectorFails hfails, makes_bind_error (makes_output_fails hfails)⟩
  · cases hd : Text.decodeOrFlaw out with
    | error flaw =>
      refine ⟨.error _, .notText hout hd, makes_bind (makes_output hout) ?_⟩
      rw [hd]
      exact makes_throw _
    | ok text =>
      by_cases ht : Text.trim text = ""
      · refine ⟨.error _, .nothingSelected hout hd ht, makes_bind (makes_output hout) ?_⟩
        simp only [hd, ht, if_true]
        exact makes_throw _
      · refine ⟨.ok _, .selected hout hd ht, makes_bind (makes_output hout) ?_⟩
        simp only [hd, ht, if_false]
        exact makes_pure _

theorem monitorOf_eq_some_iff (h : Value.read out = .ok window) :
    monitorOf window = some monitor ↔ OnMonitor window monitor := by
  unfold monitorOf OnMonitor
  cases hw : window.get? "monitor" with
  | none => simp
  | some found =>
    cases found with
    | number n =>
      cases n with
      | int i =>
        have hlow := (Json.int_of_member h hw).1
        simp [int64?, Value.asNumber?, Json.Number.toInt64?]
        grind
      | real x => simp [int64?, Value.asNumber?, Json.Number.toInt64?]
    | _ => simp [int64?, Value.asNumber?]

theorem factorOf_fails (h : Fails command outcome e) : factorOf monitor outcome = .one := by
  cases h <;> rfl

/-- Whatever the question for monitors comes to, the scale that is gone on with is told by its
answer. -/
theorem monitorScale_makes (tools : Tools) (commands : Commands)
    (hm : monitorOf window = some monitor) :
    ∃ r, Makes (monitorScale tools commands.windows window) [monitorsCall commands] r ∧
      r.toOption.getD .one = factorOf monitor (answer tools (monitorsCall commands)) := by
  simp only [monitorScale, hm]
  rcases fails_or_ends commands.windows (answer tools (monitorsCall commands)) with
    ⟨e, hfails⟩ | ⟨out, errors, hout⟩
  · rw [factorOf_fails hfails]
    exact ⟨.error e, makes_bind_error (makes_output_fails hfails), rfl⟩
  · rw [hout, factorOf]
    cases hread : Value.read out with
    | error fault =>
      refine ⟨_, makes_bind (makes_output hout) (by rw [hread]; exact makes_throw _), ?_⟩
      simp [Except.toOption]
    | ok monitors =>
      refine ⟨_, makes_bind (makes_output hout) (by rw [hread]; exact makes_pure _), ?_⟩
      simp [Except.toOption]

/-- A window with a usable rectangle is located by one more question just if it tells its
monitor. -/
theorem located_window (hout : answer tools (windowCall commands) = .ended true out errors)
    (hread : Value.read out = .ok window) (hg : Geometry.ofWindow window = .ok g) :
    ∃ calls factor, Located tools commands .window (windowCall commands :: calls)
        (.ok (some (g.text factor))) ∧
      Makes (tryCatch (monitorScale tools commands.windows window) fun _ => pure Binary64.one)
        calls (.ok factor) := by
  cases hm : monitorOf window with
  | none =>
    have hnone (monitor : Int) : ¬ OnMonitor window monitor := by
      rw [← monitorOf_eq_some_iff hread, hm]
      nofun
    refine ⟨[], .one, .unmonitored hout hread hg hnone, ?_⟩
    simp only [monitorScale, hm]
    exact makes_recover _ (makes_pure _)
  | some monitor =>
    obtain ⟨r, hr, hfactor⟩ := monitorScale_makes tools commands hm
    have hon := (monitorOf_eq_some_iff hread).mp hm
    refine ⟨_, _, .monitored hout hread hg hon, ?_⟩
    rw [← hfactor]
    exact makes_recover _ hr

theorem activeWindow_makes (tools : Tools) (commands : Commands) :
    ∃ calls r, Located tools commands .window calls (r.map some) ∧
    Makes (activeWindow tools commands.windows) calls r := by
  rcases fails_or_ends commands.windows (answer tools (windowCall commands)) with
    ⟨e, hfails⟩ | ⟨out, errors, hout⟩
  · exact ⟨_, .error e, .queryFails hfails, makes_bind_error (makes_output_fails hfails)⟩
  · cases hread : Value.read out with
    | error fault =>
      refine ⟨_, .error _, .notJson hout hread, makes_bind (makes_output hout) ?_⟩
      rw [hread]
      exact makes_throw _
    | ok window =>
      cases hg : Geometry.ofWindow window with
      | error e =>
        refine ⟨_, .error e, .unusable hout hread hg, makes_bind (makes_output hout) ?_⟩
        simp only [hread, hg]
        exact makes_bind_error (makes_lift _)
      | ok g =>
        obtain ⟨calls, factor, hlocated, hfactor⟩ := located_window hout hread hg
        refine ⟨_, .ok (g.text factor), hlocated, makes_bind (makes_output hout) ?_⟩
        simp only [hread, hg]
        exact makes_bind (makes_lift _) (makes_map _ hfactor)

theorem area_makes (tools : Tools) (commands : Commands) (mode : Mode) :
    ∃ calls area, Located tools commands mode calls area ∧
      Makes (Capture.area tools commands mode) calls area := by
  cases mode with
  | full => exact ⟨_, _, .screen, makes_pure none⟩
  | region =>
    obtain ⟨r, hlocated, hr⟩ := selectRegion_makes tools commands
    exact ⟨_, _, hlocated, makes_map some hr⟩
  | window =>
    obtain ⟨calls, r, hlocated, hr⟩ := activeWindow_makes tools commands
    exact ⟨_, _, hlocated, makes_map some hr⟩

theorem fails_unique {e' : Error} (h : Fails command outcome e) (h' : Fails command outcome e') :
    e' = e := by
  cases h <;> cases h' <;> rfl

theorem not_fails_of_ended (h : outcome = .ended true out errors) : ¬ Fails command outcome e := by
  subst h
  nofun

theorem located_unique {calls' : List Call} {area' : Except Error (Option String)}
    (h : Located tools commands mode calls area) (h' : Located tools commands mode calls' area') :
    calls' = calls ∧ area' = area := by
  cases h <;> cases h' <;> grind [fails_unique, not_fails_of_ended, OnMonitor]

theorem grabbed_image_iff {result : Except Error Bytes} {image : Bytes}
    (h : Grabbed command outcome result) : result = .ok image ↔
      ∃ errors, outcome = .ended true image errors ∧ image ≠ [] := by
  cases h with
  | fails hfails =>
    refine ⟨nofun, ?_⟩
    rintro ⟨errors, hout, -⟩
    exact absurd hfails (not_fails_of_ended hout)
  | blank => simp
  | image hne =>
    constructor
    · intro h
      cases h
      exact ⟨_, rfl, hne⟩
    · rintro ⟨errors, h, -⟩
      cases h
      rfl

/-- The grabber is called where there is an area, and its answer is what the capture comes to. -/
theorem grab_makes_area {area : Option String}
    (h : Makes (Capture.area tools commands mode) calls (.ok area)) :
    ∃ result, Grabbed commands.grab (answer tools (grabCall commands area)) result ∧
      Makes (grab tools commands mode) (calls ++ [grabCall commands area]) result := by
  rcases fails_or_ends commands.grab (answer tools (grabCall commands area)) with
    ⟨e, hfails⟩ | ⟨image, errors, hout⟩
  · exact ⟨_, .fails hfails, makes_bind h (makes_bind_error (makes_output_fails hfails))⟩
  · rw [hout]
    cases image with
    | nil => exact ⟨_, .blank, makes_bind h (makes_bind (makes_output hout) (makes_throw _))⟩
    | cons b image =>
      have hne : b :: image ≠ [] := List.cons_ne_nil b image
      exact ⟨_, .image hne, makes_bind h (makes_bind (makes_output hout) (makes_pure _))⟩

theorem grab_makes (h : Makes (Capture.area tools commands mode) calls area) :
    ∃ result, Makes (grab tools commands mode) (calls ++ grabCalls commands area) result ∧
      (∀ e, area = .error e → result = .error e) ∧
      ∀ place, area = .ok place →
        Grabbed commands.grab (answer tools (grabCall commands place)) result := by
  cases area with
  | error e =>
    refine ⟨.error e, ?_, by simp, nofun⟩
    rw [grabCalls, List.append_nil]
    exact makes_bind_error h
  | ok area =>
    obtain ⟨result, hgrabbed, hresult⟩ := grab_makes_area h
    refine ⟨result, hresult, nofun, ?_⟩
    intro place hplace
    cases hplace
    exact hgrabbed

/-- A capture finds its area out by the calls that its mode takes, which are the same whatever has
been called before, and then calls the grabber just if there is an area. Without one it comes to the
error that came up; an image is what the grabber put out, if that is anything at all. -/
theorem captures_in_order (tools : Tools) (commands : Commands) (mode : Mode) :
    ∃ calls area result,
      (∀ calls' area', Located tools commands mode calls' area' ↔ calls' = calls ∧ area' = area) ∧
      (∀ log, (grab tools commands mode).run.run log =
        (result, log ++ (calls ++ grabCalls commands area).filter Call.canStart)) ∧
      (∀ e, area = .error e → result = .error e) ∧
      (∀ place, area = .ok place →
        Grabbed commands.grab (answer tools (grabCall commands place)) result) ∧
      ∀ image, result = .ok image ↔ ∃ place errors, area = .ok place ∧
        answer tools (grabCall commands place) = .ended true image errors ∧ image ≠ [] := by
  obtain ⟨calls, area, hlocated, harea⟩ := area_makes tools commands mode
  obtain ⟨result, hresult, hnone, hsome⟩ := grab_makes harea
  refine ⟨calls, area, result, ?_, hresult, hnone, hsome, ?_⟩
  · intro calls' area'
    refine ⟨located_unique hlocated, ?_⟩
    rintro ⟨rfl, rfl⟩
    exact hlocated
  · intro image
    cases area with
    | error e => simp [hnone e rfl]
    | ok place =>
      rw [grabbed_image_iff (hsome place rfl)]
      simp

end LinkShot.Capture

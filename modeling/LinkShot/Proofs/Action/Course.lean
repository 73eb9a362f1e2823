import LinkShot.Proofs.Action.Run

/-!
The courses that an action can take from its trigger to its end: one for each exit of the pipeline,
with all that was exchanged until there.
-/
namespace LinkShot.Action

open Text (Bytes)
open Routine (Returns)

variable {provider : Provider} {trigger : Trigger} {h : List Exchange}
  {payload : Option Bytes} {arguments headers : OrderedMap} {result body : String}
  {outcome : Except Error String}

/-- The calls that resolving placeholders may make. -/
def Call.isAsking : Call → Bool
  | .clipboard | .prompt _ | .random => true
  | _ => false

def noticed (title message : String) : Exchange := ⟨.notify ⟨title, message⟩, ()⟩

/-- What a reply to a request means to the action that waits for it. -/
def verdict : SendReply → Except DispatchError String
  | .cancelled => .error .cancelled
  | .answered (.error e) => .error e
  | .answered (.ok body) => if body.isEmpty then .error .emptyResponse else .ok body

/-- The screenshot that comes first, and the payload that it gives. -/
inductive Taken : Trigger → List Exchange → Option Bytes → Prop where
  | image (mode : Capture.Mode) (image : Bytes) :
      Taken (.capture mode) [⟨.capture mode, .ok image⟩] (some image)
  | nothing : Taken .tool [] none

def sending (provider : Provider) (arguments headers : OrderedMap) (payload : Option Bytes)
    (reply : SendReply) : Exchange :=
  ⟨.send (Request.prepare provider arguments headers payload), reply⟩

/-- A result is copied, and logged unless copying crashed. -/
inductive Delivered (result : String) : List Exchange → Prop where
  | crashed : Delivered result [⟨.copy result, .crash⟩]
  | survived (copying : CopyReply) (logging : LogReply) :
      copying ≠ .crash → Delivered result [⟨.copy result, copying⟩, ⟨.log result, logging⟩]

theorem resolve_only {value key name : String} {multiline : Bool} :
    (resolve value key name multiline).Only Call.isAsking := by
  unfold resolve
  split
  · refine Routine.only_bind (Routine.only_call rfl) fun offered => ?_
    cases offered with
    | crash => trivial
    | text offered =>
      refine Routine.only_bind (Routine.only_call rfl) fun answer => ?_
      cases answer <;> trivial
  · split
    · exact Routine.only_bind (Routine.only_call rfl) fun word => trivial
    · trivial

theorem resolveEntries_only {name : String} {multiline : Bool} (entries : List (String × String)) :
    (resolveEntries name multiline entries).Only Call.isAsking := by
  induction entries with
  | nil => trivial
  | cons entry rest ih =>
    refine Routine.only_bind resolve_only fun resolved => ?_
    cases resolved with
    | none => trivial
    | some value =>
      refine Routine.only_bind ih fun found => ?_
      cases found <;> trivial

theorem resolveAll_only {map : OrderedMap} {name : String} {multiline : Bool} :
    (resolveAll map name multiline).Only Call.isAsking :=
  Routine.only_bind (resolveEntries_only _) fun _ => trivial

theorem resolveRequest_only : (resolveRequest provider).Only Call.isAsking := by
  refine Routine.only_bind resolveAll_only fun found => ?_
  cases found with
  | none => trivial
  | some arguments =>
    refine Routine.only_bind resolveAll_only fun found => ?_
    cases found <;> trivial

theorem deliver_returns_iff : (deliver result).Returns h () ↔ Delivered result h := by
  constructor
  · intro hr
    obtain ⟨reply, rest, rfl, hlog⟩ := Routine.returns_call_bind_iff.mp hr
    cases reply with
    | crash =>
      obtain ⟨rfl, _⟩ := Routine.returns_pure_iff.mp hlog
      exact .crashed
    | copied | failed =>
      obtain ⟨logging, rest, rfl, hend⟩ := Routine.returns_call_bind_iff.mp hlog
      obtain ⟨rfl, _⟩ := Routine.returns_pure_iff.mp hend
      exact .survived _ logging (by simp)
  · rintro (_ | ⟨copying, logging, hc⟩)
    · exact .answer (.refl _)
    · refine .answer ?_
      cases copying with
      | crash => exact absurd rfl hc
      | copied | failed => exact .answer (.refl _)

/-- From the request on, when there is one to be sent. -/
theorem dispatch_returns_iff {found : Except DispatchError String} :
    (dispatch provider arguments headers payload).Returns h found ↔
      (h = [⟨.poll, true⟩] ∧ found = .error .cancelled) ∨
      ∃ reply, h = [⟨.poll, false⟩, sending provider arguments headers payload reply] ∧
        found = verdict reply := by
  constructor
  · intro hr
    obtain ⟨cancelled, rest, rfl, hsend⟩ := Routine.returns_call_bind_iff.mp hr
    cases cancelled with
    | true =>
      obtain ⟨rfl, rfl⟩ := Routine.returns_pure_iff.mp hsend
      exact .inl ⟨rfl, rfl⟩
    | false =>
      obtain ⟨reply, rest, rfl, hend⟩ := Routine.returns_call_bind_iff.mp hsend
      have hd : rest = [] ∧ found = verdict reply := by
        rcases reply with (e | body) | _ <;> exact Routine.returns_pure_iff.mp hend
      obtain ⟨rfl, rfl⟩ := hd
      exact .inr ⟨reply, rfl, rfl⟩
  · rintro (⟨rfl, rfl⟩ | ⟨reply, rfl, rfl⟩)
    · exact .answer (.refl _)
    · refine .answer (.answer ?_)
      rcases reply with (e | body) | _ <;> exact .refl _

variable [Regex.Engine]

/-- What is exchanged from the payload on, and how that ends: one constructor for each exit. -/
inductive Submission (provider : Provider) (payload : Option Bytes) :
    List Exchange → Except Error String → Prop where
  | promptFailed {asked : List Exchange} :
      (resolveRequest provider).Returns asked none →
      Submission provider payload asked (.error .promptFailed)
  | unsent {asked : List Exchange} {arguments headers : OrderedMap} :
      (resolveRequest provider).Returns asked (some (arguments, headers)) →
      Submission provider payload (asked ++ [⟨.poll, true⟩]) (.error (.dispatch .cancelled))
  | givenUp {asked : List Exchange} {arguments headers : OrderedMap} {reply : SendReply} :
      (resolveRequest provider).Returns asked (some (arguments, headers)) →
      verdict reply = .error .cancelled →
      Submission provider payload
        (asked ++ [⟨.poll, false⟩, sending provider arguments headers payload reply])
        (.error (.dispatch .cancelled))
  | refused {asked : List Exchange} {arguments headers : OrderedMap} {reply : SendReply}
      {e : DispatchError} :
      (resolveRequest provider).Returns asked (some (arguments, headers)) →
      verdict reply = .error e → e ≠ .cancelled →
      Submission provider payload
        (asked ++ [⟨.poll, false⟩, sending provider arguments headers payload reply,
          noticed "Error" (sendErrorText provider payload)])
        (.error (.dispatch e))
  | unreadable {asked : List Exchange} {arguments headers : OrderedMap} {reply : SendReply}
      {body : String} {e : Template.Error} :
      (resolveRequest provider).Returns asked (some (arguments, headers)) →
      verdict reply = .ok body → Template.extract provider body = .error e →
      Submission provider payload
        (asked ++ [⟨.poll, false⟩, sending provider arguments headers payload reply,
          noticed "Error" ("Could not extract a result from " ++ provider.name)])
        (.error (.extraction e))
  | finished {asked delivered : List Exchange} {arguments headers : OrderedMap}
      {reply : SendReply} {body result : String} :
      (resolveRequest provider).Returns asked (some (arguments, headers)) →
      verdict reply = .ok body → Template.extract provider body = .ok result →
      Delivered result delivered →
      Submission provider payload
        (asked ++ [⟨.poll, false⟩, sending provider arguments headers payload reply] ++
          delivered ++ [noticed ("Response from " ++ provider.name) result])
        (.ok result)

/-- A whole action: what is exchanged, and how it ends. -/
inductive Course (provider : Provider) (trigger : Trigger) :
    List Exchange → Except Error String → Prop where
  | wrongTrigger : accepts provider trigger = false →
      Course provider trigger [] (.error (.wrongTrigger provider.name trigger))
  | captureFailed {mode : Capture.Mode} {e : Capture.Error} :
      accepts provider trigger = true → trigger = .capture mode →
      Course provider trigger
        [⟨.capture mode, .error e⟩, noticed "Error" "There was an error taking a screenshot"]
        (.error (.capture e))
  | submitted {taken rest : List Exchange} {payload : Option Bytes}
      {outcome : Except Error String} :
      accepts provider trigger = true → Taken trigger taken payload →
      Submission provider payload rest outcome → Course provider trigger (taken ++ rest) outcome

theorem conclude_returns_iff :
    (conclude provider body).Returns h outcome ↔
      (∃ e, Template.extract provider body = .error e ∧ outcome = .error (.extraction e) ∧
        h = [noticed "Error" ("Could not extract a result from " ++ provider.name)]) ∨
      ∃ result delivered, Template.extract provider body = .ok result ∧ outcome = .ok result ∧
        Delivered result delivered ∧
        h = delivered ++ [noticed ("Response from " ++ provider.name) result] := by
  unfold conclude
  cases he : Template.extract provider body with
  | error e =>
    constructor
    · intro hr
      obtain ⟨_, rest, rfl, hend⟩ := Routine.returns_call_bind_iff.mp hr
      obtain ⟨rfl, rfl⟩ := Routine.returns_pure_iff.mp hend
      exact .inl ⟨e, rfl, rfl, rfl⟩
    · rintro (⟨_, he, rfl, rfl⟩ | ⟨_, _, he, _⟩)
      · cases he
        exact .answer (.refl _)
      · cases he
  | ok result =>
    constructor
    · intro hr
      obtain ⟨_, delivered, _, rfl, hd, hnotify⟩ := Routine.returns_bind_iff.mp hr
      obtain ⟨_, rest, rfl, hend⟩ := Routine.returns_call_bind_iff.mp hnotify
      obtain ⟨rfl, rfl⟩ := Routine.returns_pure_iff.mp hend
      exact .inr ⟨result, delivered, rfl, rfl, deliver_returns_iff.mp hd, rfl⟩
    · rintro (⟨_, he, _⟩ | ⟨_, delivered, he, rfl, hd, rfl⟩)
      · cases he
      · cases he
        refine Routine.returns_bind_iff.mpr ⟨(), delivered, _, rfl, deliver_returns_iff.mpr hd, ?_⟩
        exact .answer (.refl _)

theorem settle_error {e : DispatchError} (hc : e ≠ .cancelled) :
    settle provider payload (.error e) = do
      notifyError (sendErrorText provider payload)
      return .error (.dispatch e) := by
  cases e with
  | cancelled => exact absurd rfl hc
  | _ => rfl

theorem submit_returns_iff :
    (submit provider payload).Returns h outcome ↔ Submission provider payload h outcome := by
  constructor
  · intro hr
    obtain ⟨resolved, asked, rest, rfl, hask, hsubmit⟩ := Routine.returns_bind_iff.mp hr
    rcases resolved with _ | ⟨arguments, headers⟩
    · obtain ⟨rfl, rfl⟩ := Routine.returns_pure_iff.mp hsubmit
      simpa using Submission.promptFailed hask
    obtain ⟨found, sent, rest, rfl, hsend, hend⟩ := Routine.returns_bind_iff.mp hsubmit
    rcases dispatch_returns_iff.mp hsend with ⟨rfl, rfl⟩ | ⟨reply, rfl, rfl⟩
    · obtain ⟨rfl, rfl⟩ := Routine.returns_pure_iff.mp hend
      exact .unsent hask
    cases hv : verdict reply with
    | error e =>
      rw [hv] at hend
      by_cases hc : e = .cancelled
      · subst hc
        obtain ⟨rfl, rfl⟩ := Routine.returns_pure_iff.mp hend
        exact .givenUp hask hv
      · rw [settle_error hc] at hend
        obtain ⟨⟨⟩, _, rfl, hnotice⟩ := Routine.returns_call_bind_iff.mp hend
        obtain ⟨rfl, rfl⟩ := Routine.returns_pure_iff.mp hnotice
        exact .refused hask hv hc
    | ok body =>
      rw [hv] at hend
      rcases conclude_returns_iff.mp hend with
        ⟨e, he, rfl, rfl⟩ | ⟨result, delivered, he, rfl, hd, rfl⟩
      · exact .unreadable hask hv he
      · simpa using Submission.finished hask hv he hd
  · have resolved {asked rest : List Exchange} {arguments headers : OrderedMap}
        (hask : (resolveRequest provider).Returns asked (some (arguments, headers)))
        (hrest : (dispatch provider arguments headers payload >>=
          settle provider payload).Returns rest outcome) :
        (submit provider payload).Returns (asked ++ rest) outcome :=
      Routine.returns_bind_iff.mpr ⟨_, asked, rest, rfl, hask, hrest⟩
    have replied {arguments headers : OrderedMap} {reply : SendReply} {rest : List Exchange}
        (hend : (settle provider payload (verdict reply)).Returns rest outcome) :
        (dispatch provider arguments headers payload >>= settle provider payload).Returns
          (⟨.poll, false⟩ :: sending provider arguments headers payload reply :: rest) outcome :=
      Routine.returns_bind_iff.mpr
        ⟨_, [_, _], rest, rfl, dispatch_returns_iff.mpr (.inr ⟨reply, rfl, rfl⟩), hend⟩
    intro hs
    cases hs with
    | promptFailed hask =>
      exact Routine.returns_bind_iff.mpr ⟨none, h, [], by simp, hask, .refl _⟩
    | unsent hask =>
      refine resolved hask (Routine.returns_bind_iff.mpr
        ⟨_, [_], [], rfl, dispatch_returns_iff.mpr (.inl ⟨rfl, rfl⟩), .refl _⟩)
    | givenUp hask hv =>
      refine resolved hask (replied ?_)
      rw [hv]
      exact .refl _
    | refused hask hv hc =>
      refine resolved hask (replied ?_)
      rw [hv, settle_error hc]
      exact .answer (.refl _)
    | unreadable hask hv he =>
      refine resolved hask (replied ?_)
      rw [hv]
      exact conclude_returns_iff.mpr (.inl ⟨_, he, rfl, rfl⟩)
    | finished hask hv he hd =>
      rw [List.append_assoc, List.append_assoc]
      refine resolved hask (replied ?_)
      rw [hv]
      exact conclude_returns_iff.mpr (.inr ⟨_, _, he, rfl, hd, rfl⟩)

/-- The runs of an action are exactly its courses. -/
theorem perform_returns_iff :
    (perform provider trigger).Returns h outcome ↔ Course provider trigger h outcome := by
  unfold perform
  cases ha : accepts provider trigger with
  | false =>
    constructor
    · intro hr
      obtain ⟨rfl, rfl⟩ := Routine.returns_pure_iff.mp hr
      exact .wrongTrigger ha
    · intro hc
      cases hc with
      | wrongTrigger => exact .refl _
      | captureFailed ht | submitted ht => simp [ha] at ht
  | true =>
    cases trigger with
    | tool =>
      constructor
      · intro hr
        change Course provider .tool ([] ++ h) outcome
        exact .submitted ha .nothing (submit_returns_iff.mp hr)
      · intro hc
        cases hc with
        | wrongTrigger hn => simp [ha] at hn
        | captureFailed _ ht => cases ht
        | submitted _ ht hs =>
          cases ht
          exact submit_returns_iff.mpr hs
    | capture mode =>
      constructor
      · intro hr
        obtain ⟨image, rest, rfl, hend⟩ := Routine.returns_call_bind_iff.mp hr
        cases image with
        | error e =>
          obtain ⟨_, _, rfl, hnotice⟩ := Routine.returns_call_bind_iff.mp hend
          obtain ⟨rfl, rfl⟩ := Routine.returns_pure_iff.mp hnotice
          exact .captureFailed ha rfl
        | ok image => exact .submitted ha (.image mode image) (submit_returns_iff.mp hend)
      · intro hc
        cases hc with
        | wrongTrigger hn => simp [ha] at hn
        | captureFailed _ ht =>
          cases ht
          exact .answer (.answer (.refl _))
        | submitted _ ht hs =>
          cases ht
          exact .answer (submit_returns_iff.mpr hs)

end LinkShot.Action

import LinkShot.Proofs.Action.Course
import LinkShot.Regex.Search

/-!
The order of an action's events, at every moment of every run: a screenshot, questions, one request,
one copy, one log entry. What is copied and logged is the result that the run ends with.
-/
namespace LinkShot.Action

open Text (Bytes)
open Routine (made)

variable {provider : Provider} {trigger : Trigger} {h : List Exchange}
  {r : Routine (Except Error String)} {payload : Option Bytes} {outcome : Except Error String}
  {result text : String} {request : Request.Prepared}

def Call.isNotice : Call → Bool
  | .notify _ => true
  | _ => false

def Call.isQuestion : Call → Bool
  | .clipboard | .prompt _ => true
  | _ => false

/-- The calls by which an action is felt outside: the request, the copy and the log entry. -/
def Call.isLate : Call → Bool
  | .send _ | .copy _ | .log _ => true
  | _ => false

/-- The events among calls, notifications left aside. -/
def deeds (cs : List Call) : List Call := cs.filter fun c => c.isEvent && !c.isNotice

/-- The screenshot that a trigger asks for: only upload providers take one. -/
def screenshot (provider : Provider) : Trigger → List Call
  | .capture mode => if provider.isUpload then [.capture mode] else []
  | .tool => []

theorem deeds_append (cs ds : List Call) : deeds (cs ++ ds) = deeds cs ++ deeds ds :=
  List.filter_append ..

theorem deeds_begins {cs ds : List Call} (hp : cs <+: ds) : deeds cs <+: deeds ds :=
  hp.filter _

theorem calls_append (h₁ h₂ : List Exchange) : calls (h₁ ++ h₂) = calls h₁ ++ calls h₂ :=
  List.map_append

theorem deeds_taken {taken : List Exchange} (ha : accepts provider trigger = true)
    (ht : Taken trigger taken payload) : deeds (calls taken) = screenshot provider trigger := by
  cases ht with
  | image mode image =>
    have hu : provider.isUpload = true := ha
    simp [screenshot, hu, deeds, calls, Call.isEvent, Call.isNotice]
  | nothing => rfl

theorem asking_of_asked {asked : List Exchange} {found : Option (OrderedMap × OrderedMap)}
    (hask : (resolveRequest provider).Returns asked found) :
    ∀ c ∈ calls asked, c.isAsking = true :=
  Routine.calls_of_only resolveRequest_only hask

theorem questions_of_asked {asked : List Exchange} {found : Option (OrderedMap × OrderedMap)}
    (hask : (resolveRequest provider).Returns asked found) :
    ∀ c ∈ deeds (calls asked), c.isQuestion = true := by
  intro c hc
  obtain ⟨hc, he⟩ := List.mem_filter.mp hc
  have hk := asking_of_asked hask c hc
  cases c <;> simp_all [Call.isAsking, Call.isEvent, Call.isQuestion]

/-- What may follow the questions: a request, a copy and a log entry, or only the first of them. -/
def Late (cs : List Call) : Prop :=
  ∃ request result, cs <+: [.send request, .copy result, .log result]

theorem late_nil : Late [] :=
  ⟨⟨.get, "", .empty, none⟩, "", List.nil_prefix⟩

theorem late_send : Late [.send request] := ⟨request, "", ⟨_, rfl⟩⟩

theorem late_delivered {delivered : List Exchange} (hd : Delivered result delivered) :
    Late (.send request :: deeds (calls delivered)) := by
  refine ⟨request, result, ?_⟩
  cases hd with
  | crashed => exact ⟨[.log result], rfl⟩
  | survived => exact ⟨[], rfl⟩

/-- Everything until the request is sent, for a payload and resolved arguments and headers. -/
inductive Opened (provider : Provider) (trigger : Trigger) (payload : Option Bytes)
    (arguments headers : OrderedMap) : List Exchange → Prop where
  | intro {taken asked : List Exchange} :
      accepts provider trigger = true → Taken trigger taken payload →
      (resolveRequest provider).Returns asked (some (arguments, headers)) →
      Opened provider trigger payload arguments headers (taken ++ asked)

theorem early_asked {asked : List Exchange} {found : Option (OrderedMap × OrderedMap)}
    (hask : (resolveRequest provider).Returns asked found) :
    ∀ c ∈ calls asked, c.isLate = false := by
  intro c hc
  have hk := asking_of_asked hask c hc
  cases c <;> simp_all [Call.isAsking, Call.isLate]

theorem early_taken {taken : List Exchange} (ht : Taken trigger taken payload) :
    ∀ c ∈ calls taken, c.isLate = false := by
  cases ht <;> simp [calls, Call.isLate]

theorem early_opened {arguments headers : OrderedMap} {opened : List Exchange}
    (ho : Opened provider trigger payload arguments headers opened) :
    ∀ c ∈ calls (opened ++ [⟨.poll, false⟩]), c.isLate = false := by
  obtain ⟨_, ht, hask⟩ := ho
  intro c hc
  simp only [calls_append, List.mem_append] at hc
  rcases hc with (hc | hc) | hc
  · exact early_taken ht c hc
  · exact early_asked hask c hc
  · simp_all [calls, Call.isLate]

theorem answered_of_verdict {reply : SendReply} {body : String} (hv : verdict reply = .ok body) :
    reply = .answered (.ok body) ∧ body ≠ "" := by
  rcases reply with (e | body') | _
  · simp [verdict] at hv
  · simp only [verdict] at hv
    split at hv
    · simp at hv
    · rename_i hb
      cases hv
      exact ⟨rfl, by rintro rfl; simp at hb⟩
  · simp [verdict] at hv

theorem made_later {rest : List Exchange} (he : r.Returns rest outcome) :
    made h r <+: calls (h ++ rest) := by
  have hg : made h r <+: made (h ++ rest) (.done outcome) := Routine.made_grows he
  simpa [made, Routine.pending] using hg

section

variable [Regex.Engine]

theorem submission_deeds (hs : Submission provider payload h outcome) :
    ∃ questions late, deeds (calls h) = questions ++ late ∧
      (∀ c ∈ questions, c.isQuestion = true) ∧ Late late := by
  have split {asked rest : List Exchange} {found : Option (OrderedMap × OrderedMap)}
      (hask : (resolveRequest provider).Returns asked found) (hl : Late (deeds (calls rest))) :
      ∃ questions late, deeds (calls (asked ++ rest)) = questions ++ late ∧
        (∀ c ∈ questions, c.isQuestion = true) ∧ Late late :=
    ⟨_, _, by rw [calls_append, deeds_append], questions_of_asked hask, hl⟩
  cases hs with
  | promptFailed hask => simpa using split hask (show Late (deeds (calls [])) from late_nil)
  | unsent hask => exact split hask late_nil
  | givenUp hask hv => exact split hask late_send
  | refused hask hv hc => exact split hask late_send
  | unreadable hask hv he => exact split hask late_send
  | finished hask hv he hd =>
    rw [List.append_assoc, List.append_assoc]
    refine split hask ?_
    simpa [calls_append, deeds_append, calls, deeds, sending, noticed, Call.isEvent, Call.isNotice]
      using late_delivered hd

theorem course_deeds (hc : Course provider trigger h outcome) :
    ∃ questions late, deeds (calls h) = screenshot provider trigger ++ questions ++ late ∧
      (∀ c ∈ questions, c.isQuestion = true) ∧ Late late := by
  cases hc with
  | wrongTrigger hn =>
    refine ⟨[], [], ?_, by simp, late_nil⟩
    cases trigger <;> simp_all [accepts, screenshot, calls, deeds]
  | captureFailed ha ht =>
    subst ht
    have hu : provider.isUpload = true := ha
    refine ⟨[], [], ?_, by simp, late_nil⟩
    simp [screenshot, hu, calls, deeds, noticed, Call.isEvent, Call.isNotice]
  | submitted ha ht hs =>
    obtain ⟨questions, late, hd, hq, hl⟩ := submission_deeds hs
    exact ⟨questions, late, by rw [calls_append, deeds_append, deeds_taken ha ht, hd,
      List.append_assoc], hq, hl⟩

/-- What an action does after its request is replied to. -/
inductive Closed (provider : Provider) (reply : SendReply) :
    List Exchange → Except Error String → Prop where
  | failed {rest : List Exchange} {outcome : Except Error String} :
      (∀ c ∈ calls rest, c.isLate = false) → Closed provider reply rest outcome
  | finished {body result : String} {delivered : List Exchange} :
      verdict reply = .ok body → Template.extract provider body = .ok result →
      Delivered result delivered →
      Closed provider reply (delivered ++ [noticed ("Response from " ++ provider.name) result])
        (.ok result)

/-- An action is never felt outside, or it is opened, sends the one request and is closed. -/
theorem course_sends (hc : Course provider trigger h outcome) :
    (∀ c ∈ calls h, c.isLate = false) ∨
      ∃ opened payload arguments headers reply rest,
        h = (opened ++ [⟨.poll, false⟩]) ++
          sending provider arguments headers payload reply :: rest ∧
        Opened provider trigger payload arguments headers opened ∧
        Closed provider reply rest outcome := by
  cases hc with
  | wrongTrigger => exact .inl (by simp [calls])
  | captureFailed => exact .inl (by simp [calls, noticed, Call.isLate])
  | @submitted taken _ payload _ ha ht hs =>
    have shape (asked rest : List Exchange) : taken ++ (asked ++ ⟨.poll, false⟩ :: rest) =
        (taken ++ asked ++ [⟨.poll, false⟩]) ++ rest := by simp
    cases hs with
    | promptFailed hask =>
      left
      intro c hc
      rw [calls_append, List.mem_append] at hc
      rcases hc with hc | hc
      · exact early_taken ht c hc
      · exact early_asked hask c hc
    | unsent hask =>
      left
      intro c hc
      rw [calls_append, calls_append, List.mem_append, List.mem_append] at hc
      rcases hc with hc | hc | hc
      · exact early_taken ht c hc
      · exact early_asked hask c hc
      · simp_all [calls, Call.isLate]
    | givenUp hask hv =>
      exact .inr ⟨_, _, _, _, _, [], shape _ _, ⟨ha, ht, hask⟩, .failed (by simp [calls])⟩
    | refused hask hv hc =>
      exact .inr ⟨_, _, _, _, _, [_], shape _ _, ⟨ha, ht, hask⟩,
        .failed (by simp [calls, noticed, Call.isLate])⟩
    | unreadable hask hv he =>
      exact .inr ⟨_, _, _, _, _, [_], shape _ _, ⟨ha, ht, hask⟩,
        .failed (by simp [calls, noticed, Call.isLate])⟩
    | finished hask hv he hd =>
      exact .inr ⟨_, _, _, _, _, _, by simp, ⟨ha, ht, hask⟩, .finished hv he hd⟩

theorem not_send_of_closed {reply : SendReply} {rest : List Exchange}
    (hc : Closed provider reply rest outcome) : .send request ∉ calls rest := by
  cases hc with
  | failed hn =>
    intro hm
    simpa [Call.isLate] using hn _ hm
  | finished _ _ hd => cases hd <;> simp [calls, noticed]

theorem delivered_of_closed {reply : SendReply} {rest : List Exchange}
    (hc : Closed provider reply rest outcome)
    (hm : .copy text ∈ calls rest ∨ .log text ∈ calls rest) :
    outcome = .ok text ∧
      ∃ body, verdict reply = .ok body ∧ Template.extract provider body = .ok text := by
  cases hc with
  | failed hn => rcases hm with hm | hm <;> simpa [Call.isLate] using hn _ hm
  | @finished body result _ hv he hd =>
    have ht : text = result := by cases hd <;> simpa [calls, noticed] using hm
    subst ht
    exact ⟨rfl, body, hv, he⟩

theorem deeds_of_result (hc : Course provider trigger h (.ok result)) :
    ∃ questions request copying, (∀ c ∈ questions, c.isQuestion = true) ∧
      (⟨.copy result, copying⟩ : Exchange) ∈ h ∧
      deeds (calls h) = screenshot provider trigger ++ questions ++
        [.send request, .copy result] ++ (if copying = .crash then [] else [.log result]) := by
  cases hc with
  | @submitted _ _ payload _ ha ht hs =>
    cases hs with
    | @finished asked _ arguments headers _ _ _ hask hv he hd =>
      refine ⟨deeds (calls asked), Request.prepare provider arguments headers payload, ?_⟩
      cases hd with
      | crashed =>
        refine ⟨.crash, questions_of_asked hask, by simp, ?_⟩
        simp only [calls_append, deeds_append, deeds_taken ha ht, List.append_assoc]
        rfl
      | survived copying logging hn =>
        refine ⟨copying, questions_of_asked hask, by simp, ?_⟩
        simp only [calls_append, deeds_append, deeds_taken ha ht, List.append_assoc, hn, if_false]
        rfl

theorem course_of_leads {rest : List Exchange} (hr : (perform provider trigger).Leads h r)
    (he : r.Returns rest outcome) : Course provider trigger (h ++ rest) outcome :=
  perform_returns_iff.mp (Routine.leads_trans hr he)

/-- A request that has been made stands behind a finished opening. -/
theorem opened_of_send (hr : (perform provider trigger).Leads h r)
    (hm : .send request ∈ made h r) :
    ∃ opened rest payload arguments headers, h = opened ++ rest ∧
      Opened provider trigger payload arguments headers opened ∧
      request = Request.prepare provider arguments headers payload := by
  obtain ⟨later, outcome, he⟩ := r.exists_returns
  have hall := (made_later he).subset hm
  rcases course_sends (course_of_leads hr he) with hn |
    ⟨opened, payload, arguments, headers, reply, late, hh, ho, hc⟩
  · simpa [Call.isLate] using hn _ hall
  have hearly : .send request ∉ calls (opened ++ [⟨.poll, false⟩]) := by
    intro hin
    simpa [Call.isLate] using early_opened ho _ hin
  obtain ⟨between, hp⟩ := Routine.prefix_of_made he hm hh hearly
  refine ⟨opened, ⟨.poll, false⟩ :: between, payload, arguments, headers, ?_, ho, ?_⟩
  · rw [← hp, List.append_assoc]
    rfl
  · rw [hh, calls_append, List.mem_append] at hall
    rcases List.mem_cons.mp (hall.resolve_left hearly) with hs | hs
    · exact Call.send.inj hs
    · exact (not_send_of_closed hc hs).elim

/-- A text that has been copied or logged is the result of the response, and of the run. -/
theorem result_of_delivery {rest : List Exchange} (hr : (perform provider trigger).Leads h r)
    (he : r.Returns rest outcome) (hm : .copy text ∈ made h r ∨ .log text ∈ made h r) :
    outcome = .ok text ∧ ∃ request body,
      (⟨.send request, .answered (.ok body)⟩ : Exchange) ∈ h ∧ body ≠ "" ∧
      Template.extract provider body = .ok text := by
  obtain ⟨c, hc, hm⟩ : ∃ c, (c = .copy text ∨ c = .log text) ∧ c ∈ made h r := by
    rcases hm with hm | hm
    · exact ⟨_, .inl rfl, hm⟩
    · exact ⟨_, .inr rfl, hm⟩
  have hlate : c.isLate = true := by rcases hc with rfl | rfl <;> rfl
  have hall := (made_later he).subset hm
  rcases course_sends (course_of_leads hr he) with hn |
    ⟨opened, payload, arguments, headers, reply, late, hh, ho, hclosed⟩
  · simp [hn c hall] at hlate
  have hearly : c ∉ calls (opened ++ [⟨.poll, false⟩] ++
      [sending provider arguments headers payload reply]) := by
    rw [calls_append, List.mem_append]
    rintro (hin | hin)
    · simp [early_opened ho c hin] at hlate
    · rcases hc with rfl | rfl <;> simp [calls, sending] at hin
  rw [List.append_cons] at hh
  have hp := Routine.prefix_of_made he hm hh hearly
  rw [hh, calls_append, List.mem_append] at hall
  have hin : .copy text ∈ calls late ∨ .log text ∈ calls late := by
    rcases hc with rfl | rfl
    · exact .inl (hall.resolve_left hearly)
    · exact .inr (hall.resolve_left hearly)
  obtain ⟨hresult, body, hv, hx⟩ := delivered_of_closed hclosed hin
  obtain ⟨rfl, hb⟩ := answered_of_verdict hv
  have hsent := hp.subset (List.mem_append_right _ (List.mem_singleton_self _))
  exact ⟨hresult, _, body, hsent, hb, hx⟩

/-- Whatever the collaborators reply, whenever the token is cancelled and wherever a run is looked
at: its events are in order; the request is made of the payload and of what the questions gave; what
is copied and logged is the result of the response, and the run can only end with it. -/
theorem perform_in_order (hr : (perform provider trigger).Leads h r) :
    (∃ questions request result, (∀ c ∈ questions, Call.isQuestion c = true) ∧
      deeds (made h r) <+: screenshot provider trigger ++ questions ++
        [.send request, .copy result, .log result]) ∧
    (∀ outcome, r = .done outcome → screenshot provider trigger <+: deeds (calls h)) ∧
    (∀ request, .send request ∈ made h r → ∃ opened rest payload arguments headers,
      h = opened ++ rest ∧ Opened provider trigger payload arguments headers opened ∧
      request = Request.prepare provider arguments headers payload) ∧
    (∀ text, .copy text ∈ made h r ∨ .log text ∈ made h r →
      (∃ request body, (⟨.send request, .answered (.ok body)⟩ : Exchange) ∈ h ∧ body ≠ "" ∧
        Template.extract provider body = .ok text) ∧
      ∀ rest outcome, r.Returns rest outcome → outcome = .ok text) ∧
    (∀ result, r = .done (.ok result) → ∃ questions request copying,
      (∀ c ∈ questions, Call.isQuestion c = true) ∧
      (⟨.copy result, copying⟩ : Exchange) ∈ h ∧
      deeds (calls h) = screenshot provider trigger ++ questions ++
        [.send request, .copy result] ++ (if copying = .crash then [] else [.log result])) := by
  obtain ⟨rest, outcome, he⟩ := r.exists_returns
  refine ⟨?_, ?_, fun _ => opened_of_send hr, ?_, ?_⟩
  · obtain ⟨questions, late, hd, hq, request, result, hl⟩ := course_deeds (course_of_leads hr he)
    refine ⟨questions, request, result, hq, (deeds_begins (made_later he)).trans ?_⟩
    rw [hd]
    exact (List.prefix_append_right_inj _).mpr hl
  · rintro outcome rfl
    obtain ⟨questions, late, hd, _⟩ := course_deeds (course_of_leads hr (.refl _))
    rw [List.append_nil] at hd
    exact ⟨questions ++ late, by rw [hd, List.append_assoc]⟩
  · intro text hm
    exact ⟨(result_of_delivery hr he hm).2, fun _ _ he => (result_of_delivery hr he hm).1⟩
  · rintro result rfl
    simpa using deeds_of_result (course_of_leads hr (.refl _))

end

/-- An upload provider that asks for a title. -/
def titledUpload : Provider where
  name := "Shots"
  method := .post
  address := "https://shots.test"
  fileField := some "image"
  dataOnly := false
  multiline := false
  arguments := ⟨[("title", "$input$")]⟩
  headers := .empty
  patterns := []
  template := none
  source := none

/-- Looked at while its log entry is being written, an upload can only end with what is copied. -/
theorem perform_in_order_while_logging :
    ∃ h r, (perform titledUpload (.capture .region)).Leads h r ∧ .log "link" ∈ made h r ∧
      ∀ rest outcome, r.Returns rest outcome → outcome = .ok "link" := by
  let question : Question := ⟨promptLabel "title" "Shots", "", false⟩
  let request := Request.prepare titledUpload ⟨[("title", "hi")]⟩ .empty (some [137, 80])
  have run : ∃ r, (perform titledUpload (.capture .region)).Leads
      [⟨.capture .region, .ok [137, 80]⟩, ⟨.clipboard, .text none⟩,
        ⟨.prompt question, .answer (some "hi")⟩,
        ⟨.poll, false⟩, ⟨.send request, .answered (.ok "link")⟩, ⟨.copy "link", .failed⟩] r ∧
      r.pending = [.log "link"] :=
    ⟨_, .answer (.answer (.answer (.answer (.answer (.answer (.refl _)))))), rfl⟩
  obtain ⟨r, hr, hp⟩ := run
  have hm : .log "link" ∈ r.pending := by simp [hp]
  refine ⟨_, r, hr, List.mem_append_right _ hm, ?_⟩
  exact ((perform_in_order hr).2.2.2.1 "link" (.inr (List.mem_append_right _ hm))).2

end LinkShot.Action

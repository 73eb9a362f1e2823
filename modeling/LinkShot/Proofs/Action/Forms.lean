import LinkShot.Proofs.Action.Order
import LinkShot.Proofs.Action.Resolution
import LinkShot.Proofs.Request.Structure

/-!
The forms that actions send. What is typed at a question ends up in the values, and they are sent as
they are: two forms of a provider have the same structure as long as no value holds the delimiter,
and one that does can add parts.
-/
namespace LinkShot.Action

open Request (PlainName Separate partNames formBody forge formBody_forge)
open Routine (made)

variable {provider : Provider} {trigger : Trigger} {h : List Exchange}
  {r : Routine (Except Error String)} {arguments : OrderedMap} {request : Request.Prepared}

/-- The names of the parts that a request's body has. -/
def formNames (request : Request.Prepared) : Option (List String) := request.body.bind partNames

/-- The action has come to send the request, with the arguments that its answers gave. -/
inductive Sent (provider : Provider) (arguments : OrderedMap) :
    List Exchange → Request.Prepared → Prop where
  | intro {trigger : Trigger} {payload : Option Text.Bytes} {headers : OrderedMap}
      {opened rest : List Exchange} :
      Opened provider trigger payload arguments headers opened →
      Sent provider arguments (opened ++ rest)
        (Request.prepare provider arguments headers payload)

/-- The keys of the arguments, each once. -/
def argumentNames (provider : Provider) : List String :=
  (OrderedMap.ofList provider.arguments.entries).keys

theorem argumentNames_of_keyed (hk : provider.Keyed) :
    argumentNames provider = provider.arguments.keys := by
  rw [argumentNames, OrderedMap.keys, OrderedMap.entries_ofList hk.arguments, OrderedMap.keys]

/-- Whatever is answered, the arguments that are sent have the same keys. -/
theorem keys_of_sent (hs : Sent provider arguments h request) :
    arguments.keys = argumentNames provider := by
  cases hs with
  | intro ho =>
    obtain ⟨_, _, hask⟩ := ho
    obtain ⟨as, _, ⟨_, _, _, hwalked, _⟩, he⟩ := resolveRequest_returns_iff.mp hask
    obtain ⟨rfl, _⟩ := Prod.mk.inj he
    exact OrderedMap.keys_ofList_congr (keys_of_walked hwalked)

theorem formNames_of_sent (hpost : provider.method = .post) (hfile : provider.fileField = none)
    (hs : Sent provider arguments h request) :
    formNames request = partNames (formBody arguments) := by
  cases hs with
  | intro => simp [formNames, Request.prepare, hpost, Request.postBody, hfile]

theorem formNames_iff (hpost : provider.method = .post) (hfile : provider.fileField = none)
    (hkeys : ∀ key ∈ provider.arguments.keys, PlainName key)
    (hs : Sent provider arguments h request) :
    formNames request = some (argumentNames provider) ↔ Separate arguments := by
  rw [formNames_of_sent hpost hfile hs, ← keys_of_sent hs]
  refine Request.partNames_formBody_iff fun key hin => Request.nameable_of_plain (hkeys key ?_)
  rw [keys_of_sent hs] at hin
  exact OrderedMap.mem_keys_ofList.mp hin

theorem sent_of_made [Regex.Engine] (hr : (perform provider trigger).Leads h r)
    (hm : .send request ∈ made h r) : ∃ arguments, Sent provider arguments h request := by
  obtain ⟨_, _, _, arguments, _, rfl, ho, rfl⟩ := opened_of_send hr hm
  exact ⟨arguments, .intro ho⟩

/-- A tool that sends what is typed. -/
def noteTool : Provider where
  name := "Note"
  method := .post
  address := "https://note.test"
  fileField := none
  dataOnly := false
  multiline := true
  arguments := ⟨[("text", "$input$")]⟩
  headers := .empty
  patterns := []
  template := none
  source := none

/-- The request that takes the typed text along. -/
def noteRequest (typed : String) : Request.Prepared :=
  Request.prepare noteTool ⟨[("text", typed)]⟩ .empty none

theorem formNames_noteRequest (typed : String) :
    formNames (noteRequest typed) = partNames (formBody ⟨[("text", typed)]⟩) := rfl

theorem replace_inputToken (typed : String) : replace "$input$" inputToken typed = typed := by
  have htoken : replaceFrom inputToken typed.toList 0 (inputToken ++ []) = typed.toList ++ [] :=
    replaceFrom_token inputToken_ne_nil
  rw [List.append_nil, List.append_nil] at htoken
  exact (congrArg String.ofList htoken).trans String.ofList_toList

theorem made_noteRequest (typed : String) :
    ∃ h r, (perform noteTool .tool).Leads h r ∧ .send (noteRequest typed) ∈ made h r := by
  let question : Question := ⟨promptLabel "text" "Note", "", true⟩
  have run : ∃ r, (perform noteTool .tool).Leads
      [⟨.clipboard, .text none⟩, ⟨.prompt question, .answer (some typed)⟩, ⟨.poll, false⟩] r ∧
      r.pending = [.send (Request.prepare noteTool
        (.ofList [("text", replace "$input$" inputToken typed)]) (.ofList []) none)] :=
    ⟨_, .answer (.answer (.answer (.refl _))), rfl⟩
  obtain ⟨r, hr, hp⟩ := run
  rw [replace_inputToken] at hp
  exact ⟨_, r, hr, List.mem_append_right _ (hp ▸ List.mem_singleton_self _)⟩

/-- What is typed can add a part, and so change the structure of the form. -/
theorem forged_part :
    ¬ ∀ provider : Provider, provider.method = .post → provider.fileField = none →
      provider.Keyed → (∀ key ∈ provider.arguments.keys, PlainName key) →
      ∀ trigger h r request otherTrigger h' r' otherRequest,
        (perform provider trigger).Leads h r → .send request ∈ made h r →
        (perform provider otherTrigger).Leads h' r' → .send otherRequest ∈ made h' r' →
        formNames request = formNames otherRequest := by
  intro hall
  obtain ⟨h, r, hr, hm⟩ := made_noteRequest "hi"
  obtain ⟨h', r', hr', hm'⟩ := made_noteRequest (forge "hi" ("admin", "1"))
  have hkeyed : noteTool.Keyed := ⟨by decide, by decide⟩
  have hsame := hall noteTool rfl rfl hkeyed (by decide) _ _ _ _ _ _ _ _ hr hm hr' hm'
  have hplain : formNames (noteRequest "hi") = some ["text"] := by
    rw [formNames_noteRequest]
    exact (Request.partNames_formBody_iff (by decide +kernel)).mpr (by decide +kernel)
  have hforged : formNames (noteRequest (forge "hi" ("admin", "1"))) = some ["text", "admin"] := by
    rw [formNames_noteRequest, formBody_forge]
    exact (Request.partNames_formBody_iff (by decide +kernel)).mpr (by decide +kernel)
  rw [hplain, hforged] at hsame
  simp at hsame

/-- The form that a tool sends has one part for each of its arguments, named by its key and in
order, exactly when no value that is sent holds the delimiter; so nothing else that is typed makes
the forms of two runs differ in structure. -/
theorem forms_keep_structure [Regex.Engine] (hpost : provider.method = .post)
    (hfile : provider.fileField = none) (hkeys : ∀ key ∈ provider.arguments.keys, PlainName key) :
    (∀ trigger h r request, (perform provider trigger).Leads h r → .send request ∈ made h r →
      ∃ arguments, Sent provider arguments h request) ∧
    (∀ arguments h request, Sent provider arguments h request →
      (formNames request = some (argumentNames provider) ↔ Separate arguments)) ∧
    (∀ arguments h request other h' otherRequest,
      Sent provider arguments h request → Sent provider other h' otherRequest →
      Separate arguments → Separate other → formNames request = formNames otherRequest) ∧
    (provider.Keyed → argumentNames provider = provider.arguments.keys) := by
  refine ⟨fun trigger h r request => sent_of_made,
    fun arguments h request => formNames_iff hpost hfile hkeys, ?_, argumentNames_of_keyed⟩
  intro arguments h request other h' otherRequest hs hs' hseparate hseparate'
  rw [(formNames_iff hpost hfile hkeys hs).mpr hseparate,
    (formNames_iff hpost hfile hkeys hs').mpr hseparate']

/-- Quotes, line ends and dashes do no harm. -/
theorem forms_keep_structure_dashed :
    ∃ h request, Sent noteTool ⟨[("text", "\"\r\n--\r\n")]⟩ h request ∧
      formNames request = some ["text"] := by
  let question : Question := ⟨promptLabel "text" "Note", "", true⟩
  have run : (resolveRequest noteTool).Returns
      [⟨.clipboard, .text none⟩, ⟨.prompt question, .answer (some "\"\r\n--\r\n")⟩]
      (some (.ofList [("text", replace "$input$" inputToken "\"\r\n--\r\n")], .ofList [])) :=
    .answer (.answer (.refl _))
  rw [replace_inputToken] at run
  have hs : Sent noteTool ⟨[("text", "\"\r\n--\r\n")]⟩ (_ ++ []) (noteRequest "\"\r\n--\r\n") :=
    .intro (.intro rfl .nothing run)
  have hnames := (@forms_keep_structure noteTool _ rfl rfl (by decide)).2.1 _ _ _ hs
  exact ⟨_, _, hs, hnames.mpr (by decide +kernel)⟩

end LinkShot.Action

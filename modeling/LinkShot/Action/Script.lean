import LinkShot.Action.Perform

/-!
Collaborators that act by a script: queues of what they will answer. A transport may also wait until
it is released.
-/
namespace LinkShot.Action

open Text (Bytes)

inductive ScriptedSend where
  | answer (response : Except DispatchError String)
  | hang (body : String)

/-- The collaborator that cancels the action's token when it is called. -/
inductive Canceller where
  | capture
  | prompt
  | send
  deriving DecidableEq

/-- `pending` is the response of a request that waits to be released. -/
structure Script where
  captures : List (Except Capture.Error Bytes)
  answers : List PromptReply
  offered : Option String
  sends : List ScriptedSend
  copying : CopyReply
  canceller : Option Canceller
  word : RandomWord
  pending : Option String

/-- Splits a queue that gives `last` again and again when it is used up. -/
def take {α : Type} (last : α) : List α → α × List α
  | [] => (last, [])
  | a :: rest => (a, rest)

/-- A collaborator's reply, if it has one now, with the script and the token after the call. -/
structure Played (reply : Type) where
  reply : Option reply
  script : Script
  cancelled : Bool

/-- The image of a capture beyond the script. -/
def plainImage : Bytes := Text.encode "PNGDATA"

def Script.play (s : Script) (cancelled : Bool) : (call : Call) → Played call.Reply
  | .capture _ =>
    let (image, captures) := take (.ok plainImage) s.captures
    ⟨some image, { s with captures }, cancelled || s.canceller == some .capture⟩
  | .clipboard => ⟨some (.text s.offered), s, cancelled⟩
  | .prompt _ =>
    let (answer, answers) := take (.answer none) s.answers
    ⟨some answer, { s with answers }, cancelled || s.canceller == some .prompt⟩
  | .random => ⟨some s.word, s, cancelled⟩
  | .poll => ⟨some cancelled, s, cancelled⟩
  | .send _ =>
    let (scripted, sends) := take (.answer (.error (.invalidUrl "" ""))) s.sends
    if s.canceller = some .send then ⟨some .cancelled, { s with sends }, true⟩
    else match scripted with
      | .answer response => ⟨some (.answered response), { s with sends }, cancelled⟩
      | .hang body => ⟨none, { s with sends, pending := some body }, cancelled⟩
  | .copy _ => ⟨some s.copying, s, cancelled⟩
  | .log _ => ⟨some .logged, s, cancelled⟩
  | .notify _ => ⟨some (), s, cancelled⟩

/-- The calls of a run that are seen, and its result unless a request was left waiting. -/
def Routine.run {α : Type} : Routine α → Script → Bool → List Call × Option α
  | .done a, _, _ => ([], some a)
  | .ask call next, s, cancelled =>
    let played := s.play cancelled call
    let rest := match played.reply with
      | some reply => (next reply).run played.script played.cancelled
      | none => ([], none)
    (if call.isEvent then call :: rest.1 else rest.1, rest.2)

end LinkShot.Action

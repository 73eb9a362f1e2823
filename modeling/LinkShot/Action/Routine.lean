import LinkShot.Action.Error
import LinkShot.Action.RandomWord
import LinkShot.Notification
import LinkShot.Request.Prepared

/-!
Actions as routines. A routine is finished or calls a collaborator and goes on with the reply,
whatever that is; so a run of a routine is a list of calls with their replies, and every behaviour
of the collaborators is such a list.
-/
namespace LinkShot.Action

open Text (Bytes)

/-- A question to the user: the label, the text that is offered, and whether lines may be broken. -/
structure Question where
  label : String
  offered : String
  multiline : Bool
  deriving DecidableEq, Repr

inductive Call where
  | capture (mode : Capture.Mode)
  | clipboard
  | prompt (question : Question)
  | random
  | poll
  | send (request : Request.Prepared)
  | copy (text : String)
  | log (text : String)
  | notify (notification : Notification)
  deriving DecidableEq, Repr

/-- The clipboard's text, if there is any. -/
inductive ClipboardReply where
  | text (offered : Option String)
  | crash
  deriving DecidableEq, Repr

inductive PromptReply where
  | answer (text : Option String)
  | crash
  deriving DecidableEq, Repr

/-- A request is answered, or the action's token is cancelled while it is pending. -/
inductive SendReply where
  | answered (response : Except DispatchError String)
  | cancelled

inductive CopyReply where
  | copied
  | failed
  | crash
  deriving DecidableEq, Repr

/-- How the writing of a log entry ends makes no difference to an action. -/
inductive LogReply where
  | logged
  | failed
  | crash
  deriving DecidableEq, Repr

abbrev Call.Reply : Call → Type
  | .capture _ => Except Capture.Error Bytes
  | .clipboard => ClipboardReply
  | .prompt _ => PromptReply
  | .random => RandomWord
  | .poll => Bool
  | .send _ => SendReply
  | .copy _ => CopyReply
  | .log _ => LogReply
  | .notify _ => Unit

/-- Random words are drawn and tokens are looked at in silence; the other calls are seen. -/
def Call.isEvent : Call → Bool
  | .random | .poll => false
  | _ => true

inductive Routine (α : Type) where
  | done (a : α)
  | ask (call : Call) (next : call.Reply → Routine α)

namespace Routine

variable {α β : Type}

def bind : Routine α → (α → Routine β) → Routine β
  | .done a, f => f a
  | .ask call next, f => .ask call fun reply => (next reply).bind f

instance : Monad Routine where
  pure := .done
  bind := bind

def call (c : Call) : Routine c.Reply := .ask c .done

/-- Runs a routine with collaborators that act in a monad. -/
def runWith {m : Type → Type} [Monad m] (reply : (c : Call) → m c.Reply) : Routine α → m α
  | .done a => pure a
  | .ask c next => do (next (← reply c)).runWith reply

end Routine
end LinkShot.Action

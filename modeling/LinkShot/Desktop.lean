import LinkShot.Action.Perform
import LinkShot.Capture.Grab
import LinkShot.Clipboard
import LinkShot.Config.Settings
import LinkShot.Dialog
import LinkShot.Request.Transport
import LinkShot.UploadLog

/-!
Collaborators of actions that are programs, a network and files. What surrounds a run stays as it
is; a run changes files, and notes the programs that it calls and the requests that it sends.
-/
namespace LinkShot

open LinkShot.Action (Call Routine)

/-- What surrounds a run. The word stands for all random ones, and the time for every moment. -/
structure Desktop where
  home : FilePath
  session : Bool
  tools : Tools
  network : Request.Network
  time : Moment
  word : Action.RandomWord

namespace Desktop

structure State where
  files : Files
  calls : List Tool.Call
  sent : List Request.Outgoing

abbrev Run := StateM State

def callTool {α : Type} (run : Tool.Run α) : Run α := fun s =>
  let (a, calls) := run.run s.calls
  (a, { s with calls })

def exchange {α : Type} (run : Request.Exchange α) : Run α := fun s =>
  let (a, sent) := run.run s.sent
  (a, { s with sent })

/-- A log that cannot be written does not hurt. -/
def log (d : Desktop) (config : Config) (result : String) : Run Action.LogReply := fun s =>
  if config.log.enabled then
    match UploadLog.append s.files (config.logPath d.home) result d.time with
    | .ok files => (.logged, { s with files })
    | .error _ => (.failed, s)
  else (.logged, s)

/-- Nothing cancels a run, and nobody sees its notifications. -/
def reply (d : Desktop) (config : Config) : (call : Call) → Run call.Reply
  | .capture mode => callTool (Capture.grab d.tools config.capture mode).run
  | .clipboard => Action.ClipboardReply.text <$> callTool (Clipboard.getText d.tools)
  | .prompt q =>
    Action.PromptReply.answer <$>
      callTool (Dialog.ask d.tools config.dialog q.label q.offered q.multiline)
  | .random => pure d.word
  | .poll => pure false
  | .send request =>
    Action.SendReply.answered <$>
      exchange (Request.send d.network config.request.userAgent request)
  | .copy text =>
    (fun (copied : Except Clipboard.Error Unit) => match copied with
      | .ok () => Action.CopyReply.copied
      | .error _ => .failed) <$> callTool (Clipboard.setText d.tools text)
  | .log result => d.log config result
  | .notify _ => pure ()

/-- Performs an action on the desktop. -/
def perform (d : Desktop) (config : Config) {α : Type} (routine : Routine α) : Run α :=
  routine.runWith (d.reply config)

end Desktop
end LinkShot

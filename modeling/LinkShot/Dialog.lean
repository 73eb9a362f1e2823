import LinkShot.Tool

/-! Asking the user with a dialog program. Any end of the program but success counts as no answer.
-/
namespace LinkShot.Dialog

open Text (Bytes)

/-- A form has no text to begin with, so a text of several lines is offered in an editor, which
reads it from its input. -/
def arguments (label offered : String) (multiline : Bool) : List String :=
  if multiline && offered = "" then
    ["--forms", "--title", "Wayshare", "--text", label, "--add-multiline-entry", label]
  else if multiline then
    ["--text-info", "--editable", "--title", label, "--width", "400", "--height", "200"]
  else
    ["--entry", "--title", "Wayshare", "--text", label, "--entry-text", offered]

def input (offered : String) (multiline : Bool) : Bytes :=
  if multiline then Text.encode offered else []

/-- One line feed at the end is the program's own. -/
def dropLineEnd (text : String) : String :=
  match text.toList.reverse with
  | '\n' :: rest => String.ofList rest.reverse
  | _ => text

def ask (tools : Tools) (command label offered : String) (multiline : Bool) :
    Tool.Run (Option String) := do
  let call : Tool.Call := ⟨command, arguments label offered multiline, input offered multiline⟩
  match ← Tool.run tools call with
  | .ended true out _ => return some (dropLineEnd (Text.decodeLossy out))
  | .ended false .. | .notStarted _ => return none

end LinkShot.Dialog

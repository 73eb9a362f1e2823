import LinkShot.Text.Utf8

/-! External programs. What a program does is a function of how it is called; a run notes its calls.
-/
namespace LinkShot

open Text (Bytes)

/-- A command with its arguments and its standard input. -/
structure Tool.Call where
  command : String
  arguments : List String
  input : Bytes
  deriving DecidableEq, Repr

inductive Tool.Outcome where
  | notStarted (reason : String)
  | ended (success : Bool) (output errors : Bytes)
  deriving DecidableEq, Repr

/-- The programs that can be called. -/
abbrev Tools := Tool.Call → Tool.Outcome

namespace Tool

/-- A computation that calls programs, and notes the calls that started one or tried to. -/
abbrev Run := StateM (List Call)

/-- A null character in a word of the command cannot be handed over. -/
def Call.canStart (c : Call) : Bool := (c.command :: c.arguments).all (!·.toList.contains '\x00')

def run (tools : Tools) (call : Call) : Run Outcome := do
  if call.canStart then
    modify (· ++ [call])
    return tools call
  else return .notStarted "nul byte found in provided data"

end Tool
end LinkShot

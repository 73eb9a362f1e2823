import LinkShot.Action.Routine
import LinkShot.Text.Uppercase

/-! Placeholders in arguments and headers: text from the user, and random words. -/
namespace LinkShot.Action

def inputToken : List Char := "$input$".toList

def randomToken : List Char := "$random$".toList

def occurs (token : List Char) : List Char → Bool
  | [] => token.isEmpty
  | c :: rest => token.isPrefixOf (c :: rest) || occurs token rest

/-- Replaces the occurrences of a token from left to right. `skip` counts the characters left of the
occurrence that is being passed. -/
def replaceFrom (token new : List Char) : Nat → List Char → List Char
  | _, [] => []
  | skip + 1, _ :: rest => replaceFrom token new skip rest
  | 0, c :: rest =>
    if token.isPrefixOf (c :: rest) then new ++ replaceFrom token new (token.length - 1) rest
    else c :: replaceFrom token new 0 rest

def replace (value : String) (token : List Char) (new : String) : String :=
  String.ofList (replaceFrom token new.toList 0 value.toList)

/-- The label of a question; the key's first letter becomes upper case. -/
def promptLabel (key provider : String) : String :=
  let titled := match key.toList with
    | [] => []
    | first :: rest => Text.upper first ++ rest
  String.ofList titled ++ " is required by " ++ provider

/-- The value without its placeholders, or nothing if the clipboard or the question crashed. Input
comes first: a value that asks for it keeps its random tokens. -/
def resolve (value key provider : String) (multiline : Bool) : Routine (Option String) :=
  if occurs inputToken value.toList then do
    match ← Routine.call .clipboard with
    | .crash => return none
    | .text offered =>
      match ← Routine.call (.prompt ⟨promptLabel key provider, offered.getD "", multiline⟩) with
      | .answer text => return some (replace value inputToken (text.getD ""))
      | .crash => return none
  else if occurs randomToken value.toList then do
    let word ← Routine.call .random
    return some (replace value randomToken word.text)
  else return some value

def resolveEntries (provider : String) (multiline : Bool) :
    List (String × String) → Routine (Option (List (String × String)))
  | [] => return some []
  | (key, value) :: rest => do
    match ← resolve value key provider multiline with
    | none => return none
    | some resolved =>
      match ← resolveEntries provider multiline rest with
      | none => return none
      | some entries => return some ((key, resolved) :: entries)

def resolveAll (map : OrderedMap) (provider : String) (multiline : Bool) :
    Routine (Option OrderedMap) := do
  let entries ← resolveEntries provider multiline map.entries
  return entries.map OrderedMap.ofList

/-- Arguments first, then headers, whose questions never take several lines. -/
def resolveRequest (provider : Provider) : Routine (Option (OrderedMap × OrderedMap)) := do
  match ← resolveAll provider.arguments provider.name provider.multiline with
  | none => return none
  | some arguments =>
    match ← resolveAll provider.headers provider.name false with
    | none => return none
    | some headers => return some (arguments, headers)

end LinkShot.Action

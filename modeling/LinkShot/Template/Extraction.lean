import LinkShot.Json.Path
import LinkShot.Provider
import LinkShot.Regex.Engine
import LinkShot.Template.Reference
import LinkShot.Template.Token

/-!
Results. The first pattern of a provider is matched against the response, and the tokens of its
template are replaced by groups of the match or by values of the response as JSON.
-/
namespace LinkShot.Template

open Json (Value)

inductive Error where
  | invalidPattern (pattern : String)
  | noPattern (index : Nat)
  | noMatch (pattern : String)
  | groupOutOfRange (index available : Nat)
  | invalidJson (fault : Json.Fault)
  | missingKey (path : String)
  deriving DecidableEq, Repr

/-- The message; the diagnosis of an invalid pattern is left out. -/
def Error.message : Error → String
  | .invalidPattern pattern => "Invalid response pattern '" ++ pattern ++ "'"
  | .noPattern index =>
    "Template references capture group " ++ toString index ++ " but the provider has no RegexList"
  | .noMatch pattern => "Response did not match pattern '" ++ pattern ++ "'"
  | .groupOutOfRange index available =>
    "Capture group " ++ toString index ++ " does not exist (pattern has "
      ++ toString available ++ ")"
  | .invalidJson fault => "Response is not valid JSON: " ++ fault.message
  | .missingKey path => "Key path '" ++ path ++ "' not found in JSON response"

/-- A pattern with the groups of its first match, if it matched. -/
structure Match where
  pattern : String
  groups : Option (List (Option String))
  deriving Repr

def Match.find [Regex.Engine] (pattern body : String) : Except Error Match :=
  match Regex.Engine.compile pattern with
  | some groups? => .ok ⟨pattern, groups? body⟩
  | none => .error (.invalidPattern pattern)

/-- The text of a group; one that took no part is empty. -/
def Match.group (m : Match) (index : Nat) : Except Error String :=
  match m.groups with
  | none => .error (.noMatch m.pattern)
  | some groups =>
    match groups[index]? with
    | some text => .ok (text.getD "")
    | none => .error (.groupOutOfRange index (groups.length - 1))

def lookup (root : Value) (keys : List (List Char)) : Except Error String :=
  match root.walk [] keys with
  | .ok value => .ok value.plain
  | .error path =>
    .error (.missingKey (String.ofList ((path.intersperse [',']).flatten)))

/-- The text that replaces a token; tokens that refer to nothing stay. -/
def resolve (json : Value) (found : Option Match) (inner : List Char) :
    Except Error (List Char) :=
  match classify inner with
  | .group index =>
    match found with
    | none => .error (.noPattern index)
    | some m => (m.group index).map String.toList
  | .json keys => (lookup json keys).map String.toList
  | .literal => .ok (Piece.token inner).source

def isJson (piece : Piece) : Bool :=
  match piece with
  | .token inner => match classify inner with
    | .json _ => true
    | _ => false
  | .plain _ => false

/-- Replaces the pieces one by one, so that no replacement is read again. -/
def fill (json : Value) (found : Option Match) : List Piece → Except Error (List Char)
  | [] => .ok []
  | .plain c :: rest => (fill json found rest).map (c :: ·)
  | .token inner :: rest => do
    let text ← resolve json found inner
    let filled ← fill json found rest
    return text ++ filled

/-- The response as JSON, read only if a token asks for it. -/
def jsonOf (body : String) (template : List Piece) : Except Error Value :=
  if template.any isJson then
    match Value.read (Text.encode body) with
    | .ok value => .ok value
    | .error fault => .error (.invalidJson fault)
  else .ok .null

def render (template body : String) (found : Option Match) : Except Error String := do
  let template := pieces template.toList
  let json ← jsonOf body template
  return String.ofList (← fill json found template)

/-- The result that a provider makes of a response. -/
def extract [Regex.Engine] (provider : Provider) (body : String) : Except Error String := do
  let found ← match provider.patterns with
    | [] => .ok none
    | pattern :: _ => (Match.find pattern body).map some
  match provider.template with
  | some template => render template body found
  | none => return body

end LinkShot.Template

import LinkShot.Provider.File

/-! From the contents of a definition file to a provider. -/
namespace LinkShot.Provider

open Json (Fault Value)

inductive Error where
  | io (text : String)
  | parse (fault : Fault)
  | missingField (key : Key)
  | invalidMethod (text : String)
  | invalidField (field expected : String)
  deriving DecidableEq, Repr

def Error.message : Error → String
  | .io text => "Failed to read provider file: " ++ text
  | .parse fault => "Invalid provider JSON: " ++ fault.message
  | .missingField key => "Provider is missing required key '" ++ key.text ++ "'"
  | .invalidMethod text => "Unsupported RequestType '" ++ text ++ "' (expected GET or POST)"
  | .invalidField field expected => "Provider key '" ++ field ++ "' must be " ++ expected

/-- The text of a scalar: strings as they are, null empty, the rest as JSON. -/
def scalarText? : Value → Option String
  | .string s => some s
  | .number n => some n.text
  | .bool b => some (toString b)
  | .null => some ""
  | .array _ | .object _ => none

/-- Adds members to a map, up to the first whose value is no scalar. -/
def stringMap (field : String) (map : OrderedMap) :
    List (String × Value) → Except Error OrderedMap
  | [] => .ok map
  | (key, value) :: rest =>
    match scalarText? value with
    | some text => stringMap field (map.insert key text) rest
    | none => .error (.invalidField (field ++ "." ++ key) "a string")

def methodOf (text : String) : Except Error Method :=
  if text = "GET" then .ok .get
  else if text = "POST" then .ok .post
  else .error (.invalidMethod text)

def orMissing {α : Type} (key : Key) : Option α → Except Error α
  | some a => .ok a
  | none => .error (.missingField key)

def ofFile (file : File) : Except Error Provider := do
  let name ← orMissing .name file.name
  let method ← methodOf (← orMissing .requestType file.method)
  let address ← orMissing .requestURL file.address
  let arguments ← stringMap Key.arguments.text .empty (file.arguments.getD [])
  let headers ← stringMap Key.headers.text .empty (file.headers.getD [])
  return {
    name, method, address, arguments, headers
    fileField := file.fileField
    dataOnly := file.dataOnly.getD false
    multiline := file.multiline.getD false
    patterns := file.patterns.getD []
    template := file.template
    source := none }

/-- The provider that a definition file describes. -/
def parse (raw : Text.Bytes) : Except Error Provider :=
  match File.read raw with
  | .ok file => ofFile file
  | .error fault => .error (.parse fault)

end LinkShot.Provider

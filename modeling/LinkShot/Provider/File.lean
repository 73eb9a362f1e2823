import LinkShot.Provider
import LinkShot.Json.Value
import LinkShot.Json.Printer
import LinkShot.Text.Quoted

/-!
Provider definition files: JSON objects with ten known keys, or lists of the ten values in order. A
file is read first, by the kind of each value, and its contents are judged then.
-/
namespace LinkShot.Provider

open Json (Tree Fault Value Literal Break depthLimit)

/-- The contents of a definition file; a key that is absent or null is `none`. -/
structure File where
  name : Option String
  method : Option String
  address : Option String
  fileField : Option String
  dataOnly : Option Bool
  multiline : Option Bool
  arguments : Option (List (String × Value))
  headers : Option (List (String × Value))
  patterns : Option (List String)
  template : Option String
  deriving Repr, Inhabited

def File.blank : File := ⟨none, none, none, none, none, none, none, none, none, none⟩

inductive Key where
  | name
  | requestType
  | requestURL
  | fileFormName
  | dataOnly
  | multiline
  | arguments
  | headers
  | regexList
  | url
  deriving DecidableEq, Repr

namespace Key

def text : Key → String
  | .name => "Name"
  | .requestType => "RequestType"
  | .requestURL => "RequestURL"
  | .fileFormName => "FileFormName"
  | .dataOnly => "DataOnly"
  | .multiline => "Multiline"
  | .arguments => "Arguments"
  | .headers => "Headers"
  | .regexList => "RegexList"
  | .url => "URL"

/-- All keys, in the order of a file that is a list. -/
def all : List Key :=
  [.name, .requestType, .requestURL, .fileFormName, .dataOnly, .multiline, .arguments, .headers,
    .regexList, .url]

/-- A list has to be long enough for these. -/
def required : Key → Bool
  | .name | .requestType | .requestURL => true
  | _ => false

def ofText? (text : String) : Option Key := all.find? (·.text == text)

end Key

/-- The fault of a value that is not of the expected kind. A scalar is read to its end before its
kind is judged, a list or an object is not. -/
def wrongKind (expected : String) : Tree → Fault
  | .null => .wrongType "null" expected
  | .bool b => .wrongType ("boolean `" ++ toString b ++ "`") expected
  | .number t => match t.number with
    | .ok (.int i) => .wrongType ("integer `" ++ toString i ++ "`") expected
    | .ok (.real x) => .wrongType ("floating point `" ++ x.text ++ "`") expected
    | .error f => f
  | .string l => match l.text with
    | .ok s => .wrongType ("string " ++ Text.quoted s) expected
    | .error f => f
  | .array _ _ => .wrongType "sequence" expected
  | .object _ _ => .wrongType "map" expected
  | .broken b => b.fault

def readString : Tree → Except Fault String
  | .string l => l.text
  | t => .error (wrongKind "a string" t)

def readBool : Tree → Except Fault Bool
  | .bool b => .ok b
  | t => .error (wrongKind "a boolean" t)

/-- The members of an object one level inside the file. -/
def readMembers (t : Tree) : Except Fault (List (String × Value)) :=
  match t with
  | .object members ending => do
    let read ← Json.memberValues (depthLimit - 2) [] members
    Json.endFault ending
    return read
  | _ => .error (wrongKind "a map" t)

def readStrings (t : Tree) : Except Fault (List String) :=
  match t with
  | .array items ending => do
    let read ← items.mapM readString
    Json.endFault ending
    return read
  | _ => .error (wrongKind "a sequence" t)

def orNull {α : Type} (read : Tree → Except Fault α) : Tree → Except Fault (Option α)
  | .null => .ok none
  | t => (read t).map some

/-- Reads the value of a key into the file. -/
def File.set (file : File) (key : Key) (t : Tree) : Except Fault File :=
  match key with
  | .name => (orNull readString t).map ({ file with name := · })
  | .requestType => (orNull readString t).map ({ file with method := · })
  | .requestURL => (orNull readString t).map ({ file with address := · })
  | .fileFormName => (orNull readString t).map ({ file with fileField := · })
  | .dataOnly => (orNull readBool t).map ({ file with dataOnly := · })
  | .multiline => (orNull readBool t).map ({ file with multiline := · })
  | .arguments => (orNull readMembers t).map ({ file with arguments := · })
  | .headers => (orNull readMembers t).map ({ file with headers := · })
  | .regexList => (orNull readStrings t).map ({ file with patterns := · })
  | .url => (orNull readString t).map ({ file with template := · })

/-- Reads members in order. A known key may occur once; unknown ones are passed over. -/
def File.ofMembers (file : File) (seen : List Key) :
    List (Literal × Tree) → Except Fault File
  | [] => .ok file
  | (literal, tree) :: rest => do
    let text ← literal.text
    match Key.ofText? text with
    | none =>
      tree.skip
      File.ofMembers file seen rest
    | some key =>
      if key ∈ seen then .error (.duplicateField key.text)
      else
        let file ← file.set key tree
        File.ofMembers file (key :: seen) rest

def typeName : String := "struct ProviderFile"

/-- The fault at the end of a list whose ten values have been read. -/
def afterLast (extra : List Tree) (ending : Option Break) : Except Fault Unit :=
  match extra, ending with
  | [], none => .ok ()
  | [], some .listEnd => .error .endInList
  | [], some .listCommaClose => .error .trailingComma
  | _, _ => .error .trailingCharacters

/-- Reads the values of a list, one for each key. -/
def File.ofItems (file : File) (count : Nat) (ending : Option Break) :
    List Key → List Tree → Except Fault File
  | [], extra => (afterLast extra ending).map (fun _ => file)
  | key :: keys, [] =>
    match ending with
    | some b => .error b.fault
    | none =>
      if key.required then .error (.wrongLength count (typeName ++ " with 10 elements"))
      else File.ofItems file (count + 1) ending keys []
  | key :: keys, item :: items => do
    let file ← file.set key item
    File.ofItems file (count + 1) ending keys items

def File.ofTree : Tree → Except Fault File
  | .object members ending => do
    let file ← File.ofMembers .blank [] members
    Json.endFault ending
    return file
  | .array items ending => File.ofItems .blank 0 ending Key.all items
  | t => .error (wrongKind typeName t)

def File.read (bs : Text.Bytes) : Except Fault File := Json.readWith File.ofTree bs

end LinkShot.Provider

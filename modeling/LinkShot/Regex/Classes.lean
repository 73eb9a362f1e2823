import LinkShot.Regex.Syntax
import LinkShot.Regex.Unicode.Category
import LinkShot.Regex.Unicode.Script
import LinkShot.Regex.Unicode.Property
import LinkShot.Regex.Unicode.CaseFold

/-! Named classes of characters. -/
namespace LinkShot.Regex

open Text (CharSet)

/-- Names are compared in lower case, without spaces, underscores and hyphens, and without `is` in
front of them; other scripts' letters are dropped. -/
def plainName (name : List Char) : String :=
  let lower := (name.map Char.toLower)
  let (body, isForm) := match lower with
    | 'i' :: 's' :: rest => (rest, true)
    | _ => (lower, false)
  let kept := body.filter fun c => c.toNat < 0x80 && c != ' ' && c != '_' && c != '-'
  if isForm && kept == ['c'] then "isc" else String.ofList kept

def tableOf? (name : String) (tables : List (List String × String)) : Option CharSet :=
  (tables.find? (fun t => t.1.contains name)).map fun t => .ofGaps t.2

def unions (sets : List CharSet) : CharSet := .ofRanges (sets.flatMap CharSet.toList)

def category? (name : String) : Option CharSet :=
  if name = "any" then some .all
  else if name = "ascii" then some ⟨#[(0, 0x7F)]⟩
  else if name = "assigned" then (tableOf? "cn" categoryTables).map CharSet.complement
  else match categoryGroups.find? (fun g => g.1.contains name) with
    | some (_, members) => some (unions (members.filterMap (tableOf? · categoryTables)))
    | none => tableOf? name categoryTables

def script? (name : String) : Option CharSet :=
  (scriptTables.find? (fun t => t.1.contains name)).map fun t => .ofGaps t.2.1

/-- The characters that a script uses, alone or together with others. -/
def scriptExtensions? (name : String) : Option CharSet :=
  (scriptTables.find? (fun t => t.1.contains name)).map fun (names, own, further) =>
    let used := (CharSet.ofGaps own).union (.ofGaps further)
    if names.contains "common" || names.contains "inherited" then
      used.diff (.ofGaps sharedCharacters)
    else used

def property? (name : String) : Option CharSet := tableOf? name propertyTables

/-- A class by one name: a binary property, a general category or a script. `cf`, `sc` and `lc` are
categories, although properties have these names too. -/
def named? (name : List Char) : Option CharSet :=
  let name := plainName name
  if name = "cf" || name = "sc" || name = "lc" then category? name
  else (property? name).or ((category? name).or (script? name))

/-- A class by a property and its value. -/
def valued? (property value : List Char) : Option CharSet :=
  let property := plainName property
  let value := plainName value
  if property = "gc" || property = "generalcategory" then category? value
  else if property = "sc" || property = "script" then script? value
  else if property = "scx" || property = "scriptextensions" then scriptExtensions? value
  else none

def digits : CharSet := (category? "nd").getD .empty

def blanks : CharSet := (property? "whitespace").getD .empty

def letters : CharSet := (property? "alphabetic").getD .empty

def wordCharacters : CharSet :=
  unions [letters, (category? "m").getD .empty, digits, (category? "pc").getD .empty,
    (property? "joincontrol").getD .empty]

def asciiDigits : CharSet := ⟨#[(48, 57)]⟩

def asciiBlanks : CharSet := ⟨#[(9, 13), (32, 32)]⟩

def asciiWord : CharSet := ⟨#[(48, 57), (65, 90), (95, 95), (97, 122)]⟩

/-- The class that a letter behind a backslash names, before negation. -/
def perlClass (letter : Char) (ascii : Bool) : CharSet :=
  match letter with
  | 'd' => if ascii then asciiDigits else digits
  | 's' => if ascii then asciiBlanks else blanks
  | _ => if ascii then asciiWord else wordCharacters

/-- The classes written `[:name:]`. -/
def bracketName? (name : String) : Option CharSet :=
  match name with
  | "alnum" => some ⟨#[(48, 57), (65, 90), (97, 122)]⟩
  | "alpha" => some ⟨#[(65, 90), (97, 122)]⟩
  | "ascii" => some ⟨#[(0, 127)]⟩
  | "blank" => some ⟨#[(9, 9), (32, 32)]⟩
  | "cntrl" => some ⟨#[(0, 31), (127, 127)]⟩
  | "digit" => some asciiDigits
  | "graph" => some ⟨#[(33, 126)]⟩
  | "lower" => some ⟨#[(97, 122)]⟩
  | "print" => some ⟨#[(32, 126)]⟩
  | "punct" => some ⟨#[(33, 47), (58, 64), (91, 96), (123, 126)]⟩
  | "space" => some asciiBlanks
  | "upper" => some ⟨#[(65, 90)]⟩
  | "word" => some asciiWord
  | "xdigit" => some ⟨#[(48, 57), (65, 70), (97, 102)]⟩
  | _ => none

def asciiOrbits : List (List Nat) := (List.range 26).map fun i => [65 + i, 97 + i]

/-- The set with everything that equals one of its members when case is ignored. -/
def foldCase (s : CharSet) (ascii : Bool) : CharSet :=
  let orbits := (if ascii then asciiOrbits else caseOrbits).filter (·.any s.hasCode)
  if orbits.isEmpty then s
  else s.union (.ofRanges (orbits.flatten.map fun n => (n, n)))

end LinkShot.Regex

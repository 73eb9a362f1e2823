import LinkShot.Toml.Scalar

/-! Reading whole TOML documents. A document is read or it is not; there is no partial result. -/
namespace LinkShot.Toml

def isScalarCharacter (c : Char) : Bool :=
  c.isAlphanum || c == '_' || c == '-' || c == '+' || c == '.' || c == ':'

/-- The text of a scalar without quotes. One blank may stand between a date and a time. -/
def bareText (cs : List Char) : List Char × List Char :=
  let text := cs.takeWhile isScalarCharacter
  match cs.dropWhile isScalarCharacter with
  | ' ' :: c :: rest =>
    if date? text = some [] && c.isDigit then
      (text ++ ' ' :: (c :: rest).takeWhile isScalarCharacter,
        (c :: rest).dropWhile isScalarCharacter)
    else (text, ' ' :: c :: rest)
  | rest => (text, rest)

/-- How deeply lists and tables between braces may be nested. -/
def depthLimit : Nat := 80

mutual

/-- A value with what follows it. -/
def value? (fuel depth : Nat) (cs : List Char) : Option (Node × List Char) :=
  match fuel, cs with
  | 0, _ | _, [] => none
  | fuel + 1, c :: rest =>
    if c = '[' then
      if depth = 0 then none
      else (items? fuel (depth - 1) rest).map fun (items, rest) => (.list items, rest)
    else if c.toNat = 0x7B then
      if depth = 0 then none
      else (members? fuel (depth - 1) [] rest).map fun (members, rest) =>
        (.table .inline members, rest)
    else if c = '"' || c.toNat = 0x27 then
      (string? cs).map fun (text, rest) => (.scalar (.text (String.ofList text)), rest)
    else
      let (text, rest) := bareText cs
      (scalar? text).map fun s => (.scalar s, rest)

/-- The items of a list up to its closing bracket. -/
def items? (fuel depth : Nat) (cs : List Char) : Option (List Node × List Char) :=
  match fuel, gap false cs with
  | 0, _ | _, none | _, some [] => none
  | fuel + 1, some (c :: rest) =>
    if c = ']' then some ([], rest)
    else
      match value? fuel depth (c :: rest) with
      | none => none
      | some (item, rest) => match gap false rest with
        | some (',' :: rest) => do
          let (items, rest) ← items? fuel depth rest
          return (item :: items, rest)
        | some (']' :: rest) => some ([item], rest)
        | _ => none

/-- The members of a table up to its closing brace, added to those before. -/
def members? (fuel depth : Nat) (before : Members) (cs : List Char) :
    Option (Members × List Char) :=
  match fuel, gap false cs with
  | 0, _ | _, none | _, some [] => none
  | fuel + 1, some (c :: rest) =>
    if c.toNat = 0x7D then some (before, rest)
    else
      match pair? fuel depth (c :: rest) with
      | none => none
      | some (keys, new, rest) => match insertDotted new true keys before, gap false rest with
        | some members, some (',' :: rest) => members? fuel depth members rest
        | some members, some (c :: rest) => if c.toNat = 0x7D then some (members, rest) else none
        | _, _ => none

/-- A key, an equals sign and a value. -/
def pair? (fuel depth : Nat) (cs : List Char) : Option (List String × Node × List Char) :=
  match fuel with
  | 0 => none
  | fuel + 1 =>
    match keys? cs.length cs with
    | some (keys, '=' :: rest) =>
      (value? fuel depth (skipBlanks rest)).map fun (new, rest) => (keys, new, rest)
    | _ => none

end

/-- A line of a document. -/
inductive Line where
  | blank
  | header (keys : List String)
  | listHeader (keys : List String)
  | pair (keys : List String) (value : Node)

/-- Whether closing brackets follow a header's keys, and what is after them. -/
def afterBrackets? : Nat → List Char → Option (List Char)
  | 0, cs => some cs
  | n + 1, ']' :: rest => afterBrackets? n rest
  | _ + 1, _ => none

def header? (brackets : Nat) (cs : List Char) : Option (List String × List Char) :=
  match keys? (cs.length + 1) cs with
  | none => none
  | some (keys, rest) => (afterBrackets? brackets rest).map fun rest => (keys, rest)

def lineContent? (cs : List Char) : Option (Line × List Char) :=
  match skipBlanks cs with
  | '[' :: '[' :: rest => (header? 2 rest).map fun (keys, rest) => (.listHeader keys, rest)
  | '[' :: rest => (header? 1 rest).map fun (keys, rest) => (.header keys, rest)
  | [] => some (.blank, [])
  | c :: rest =>
    if c = '#' || c = '\n' || c = '\r' then some (.blank, c :: rest)
    else (pair? (2 * cs.length + 2) depthLimit (c :: rest)).map fun (keys, value, rest) =>
      (.pair keys value, rest)

/-- The lines of a document; each takes at least one character. -/
def lines? : Nat → List Char → Option (List Line)
  | _, [] => some []
  | 0, _ :: _ => none
  | fuel + 1, cs => do
    let (line, rest) ← lineContent? cs
    let rest ← endLine rest
    return line :: (← lines? fuel rest)

/-- Adds lines to a document whose last header is `header`. -/
def addLines (header : List String) (root : Members) : List Line → Option Members
  | [] => some root
  | .blank :: rest => addLines header root rest
  | .header keys :: rest => (descend openTable keys root).bind (addLines keys · rest)
  | .listHeader keys :: rest => (descend appendTable keys root).bind (addLines keys · rest)
  | .pair keys value :: rest =>
    (within (insertDotted value true keys) header root).bind (addLines header · rest)

/-- The table that a document describes. A mark of the byte order may stand before it. -/
def read (text : String) : Option Members :=
  let cs := match text.toList with
    | c :: rest => if c.toNat = 0xFEFF then rest else c :: rest
    | [] => []
  (lines? cs.length cs).bind (addLines [] [])

end LinkShot.Toml

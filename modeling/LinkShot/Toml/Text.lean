import LinkShot.Text.Hex

/-! Blanks, comments, line ends and strings of TOML. -/
namespace LinkShot.Toml

def isBlank (c : Char) : Bool := c == ' ' || c == '\t'

def skipBlanks (cs : List Char) : List Char := cs.dropWhile isBlank

/-- Characters of comments and strings: no control character but the tab. -/
def isPlain (c : Char) : Bool := c == '\t' || (0x20 ≤ c.toNat && c.toNat ≠ 0x7F)

/-- The rest after a comment, which reaches up to the end of the line. -/
def skipComment : List Char → List Char
  | '#' :: rest => rest.dropWhile isPlain
  | cs => cs

/-- The rest after a line end. -/
def lineBreak? : List Char → Option (List Char)
  | '\n' :: rest | '\r' :: '\n' :: rest => some rest
  | _ => none

/-- The rest after blanks, a comment and the line end or the end of the text. -/
def endLine (cs : List Char) : Option (List Char) :=
  match skipComment (skipBlanks cs) with
  | [] => some []
  | cs => lineBreak? cs

/-- Skips blanks, line ends and comments. -/
def gap (comment : Bool) : List Char → Option (List Char)
  | [] => some []
  | '\n' :: rest => gap false rest
  | '\r' :: rest => if rest.head? = some '\n' then gap comment rest else none
  | c :: rest =>
    if comment then if isPlain c then gap true rest else none
    else if isBlank c then gap false rest
    else if c = '#' then gap true rest
    else some (c :: rest)

/-- What a letter after a backslash stands for. -/
def shortEscape? : Char → Option Char
  | 'b' => some '\x08'
  | 'e' => some '\x1b'
  | 'f' => some '\x0c'
  | 'n' => some '\n'
  | 'r' => some '\r'
  | 't' => some '\t'
  | '"' => some '"'
  | '\\' => some '\\'
  | _ => none

/-- How many hexadecimal digits follow a letter after a backslash. -/
def longEscape? : Char → Option Nat
  | 'x' => some 2
  | 'u' => some 4
  | 'U' => some 8
  | _ => none

/-- Where a string between double quotes is being read: in its text, after a backslash, in a code
with so many digits left, or in the blanks that a backslash at a line's end joins the lines over. -/
inductive Reading where
  | text
  | escape
  | code (left value : Nat)
  | joining (broken : Bool)

/-- The quotes that end a string of several lines, and up to two before them that belong to it. -/
def closing (after : List Char) : List Char × List Char :=
  let extra := min 2 (after.takeWhile (· == '"')).length
  (List.replicate extra '"', after.drop extra)

def push (c : Char) : Option (List Char × List Char) → Option (List Char × List Char)
  | some (text, rest) => some (c :: text, rest)
  | none => none

/-- The rest of a string between double quotes, and what follows it. -/
def quoted (several : Bool) : Reading → List Char → Option (List Char × List Char)
  | _, [] => none
  | reading, c :: rest =>
    let text := fun (_ : Unit) =>
      if c = '"' then
        if several then
          match rest with
          | '"' :: '"' :: after => some (closing after)
          | _ => push c (quoted several .text rest)
        else some ([], rest)
      else if c = '\\' then quoted several .escape rest
      else if several && c = '\n' then push c (quoted several .text rest)
      else if several && c = '\r' && rest.head? = some '\n' then push c (quoted several .text rest)
      else if isPlain c then push c (quoted several .text rest)
      else none
    match reading with
    | .text => text ()
    | .escape =>
      match shortEscape? c, longEscape? c with
      | some short, _ => push short (quoted several .text rest)
      | none, some left => quoted several (.code left 0) rest
      | none, none =>
        if several && isBlank c then quoted several (.joining false) rest
        else if several && c = '\n' then quoted several (.joining true) rest
        else if several && c = '\r' && rest.head? = some '\n' then
          quoted several (.joining false) rest
        else none
    | .code left value =>
      match Text.hexValue? c with
      | none => none
      | some digit =>
        let value := value * 16 + digit
        if 1 < left then quoted several (.code (left - 1) value) rest
        else if value.isValidChar then push (Char.ofNat value) (quoted several .text rest)
        else none
    | .joining broken =>
      if isBlank c then quoted several (.joining broken) rest
      else if c = '\n' then quoted several (.joining true) rest
      else if c = '\r' && rest.head? = some '\n' then quoted several (.joining broken) rest
      else if broken then text ()
      else none

/-- The rest of a string between single quotes, which knows no escapes. -/
def literal (several : Bool) : List Char → Option (List Char × List Char)
  | [] => none
  | '\'' :: rest =>
    if several then
      match rest with
      | '\'' :: '\'' :: after =>
        let extra := min 2 (after.takeWhile (· == '\'')).length
        some (List.replicate extra '\'', after.drop extra)
      | _ => push '\'' (literal several rest)
    else some ([], rest)
  | c :: rest =>
    if several && c = '\n' then push c (literal several rest)
    else if several && c = '\r' && rest.head? = some '\n' then push c (literal several rest)
    else if isPlain c then push c (literal several rest)
    else none

/-- A line end right after the opening quotes does not count. -/
def dropBreak (cs : List Char) : List Char := (lineBreak? cs).getD cs

/-- A string, and what follows it. -/
def string? : List Char → Option (List Char × List Char)
  | '"' :: '"' :: '"' :: rest => quoted true .text (dropBreak rest)
  | '"' :: rest => quoted false .text rest
  | '\'' :: '\'' :: '\'' :: rest => literal true (dropBreak rest)
  | '\'' :: rest => literal false rest
  | _ => none

def isBareKey (c : Char) : Bool := c.isAlphanum || c == '_' || c == '-'

/-- One key; it may be quoted, on one line. -/
def key? : List Char → Option (String × List Char)
  | '"' :: rest => (quoted false .text rest).map fun (text, rest) => (String.ofList text, rest)
  | '\'' :: rest => (literal false rest).map fun (text, rest) => (String.ofList text, rest)
  | cs =>
    let name := cs.takeWhile isBareKey
    if name.isEmpty then none else some (String.ofList name, cs.dropWhile isBareKey)

/-- Keys with dots between them. -/
def keys? : Nat → List Char → Option (List String × List Char)
  | 0, _ => none
  | fuel + 1, cs =>
    match key? (skipBlanks cs) with
    | none => none
    | some (key, rest) => match skipBlanks rest with
      | '.' :: rest => (keys? fuel rest).map fun (keys, rest) => (key :: keys, rest)
      | rest => some ([key], rest)

end LinkShot.Toml

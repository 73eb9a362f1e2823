import LinkShot.Regex.Classes
import LinkShot.Text.Blank
import LinkShot.Text.Hex

/-!
From patterns to expressions. A pattern that is no regular expression gives nothing. The fuel of
each reader is the length of the pattern: every step of a loop and every bracket that is entered
reads at least one character.
-/
namespace LinkShot.Regex

open Text (CharSet isBlank)

structure Flags where
  ignoreCase : Bool := false
  multiline : Bool := false
  dotAll : Bool := false
  lazy : Bool := false
  ascii : Bool := false
  crlf : Bool := false
  verbose : Bool := false
  deriving Repr, DecidableEq

/-- What is left of the pattern, the number of groups opened so far, and their names. -/
structure Source where
  rest : List Char
  groups : Nat
  names : List (List Char)
  deriving Repr

/-- The pattern behind blanks and comments; the flag says whether a comment has been opened. -/
def skipSpace : Bool → List Char → List Char
  | _, [] => []
  | true, c :: rest => skipSpace (c != '\n') rest
  | false, c :: rest =>
    if isBlank c then skipSpace false rest
    else if c = '#' then skipSpace true rest
    else c :: rest

/-- Blanks mean nothing in verbose patterns. -/
def space (flags : Flags) (cs : List Char) : List Char :=
  if flags.verbose then skipSpace false cs else cs

/-- The character after the current one. In verbose patterns the first `#` counts as a blank. -/
def peekBehind (flags : Flags) (rest : List Char) : Option Char :=
  if flags.verbose then
    match rest.dropWhile isBlank with
    | '#' :: tail => match tail.dropWhile isBlank with
      | c :: _ => some c
      | [] => rest.head?
    | c :: _ => some c
    | [] => rest.head?
  else rest.head?

/-- The character of a code point that is a character. -/
def scalar? (n : Nat) : Option Char := if h : n.isValidChar then some (Char.ofNatAux n h) else none

/-- The value of hexadecimal digits below 2^32. -/
def hexScalar? (digits : List Nat) : Option Char :=
  scalar? (digits.foldl (fun n d => 16 * n + d) 0)

/-- So many hexadecimal digits. -/
def fixedHex (flags : Flags) : Nat → List Nat → List Char → Option (List Nat × List Char)
  | 0, digits, cs => some (digits.reverse, cs)
  | n + 1, digits, c :: rest => do
    let d ← Text.hexValue? c
    let rest := space flags rest
    if n ≠ 0 && rest.isEmpty then none
    else fixedHex flags n (d :: digits) rest
  | _ + 1, _, [] => none

/-- Hexadecimal digits up to a closing brace. -/
def bracedHex (flags : Flags) : Nat → List Nat → List Char → Option (List Nat × List Char)
  | 0, _, _ => none
  | fuel + 1, digits, cs =>
    match cs with
    | [] => none
    | c :: rest =>
      if c.toNat = 0x7D then
        if digits.isEmpty then none else some (digits.reverse, space flags rest)
      else do bracedHex flags fuel ((← Text.hexValue? c) :: digits) (space flags rest)

/-- A primitive of the pattern. -/
inductive Primitive where
  | literal (c : Char) (byte : Bool)
  | class (s : CharSet)
  | look (l : Look)
  | dot

def isMeta (c : Char) : Bool :=
  "\\.+*?()|[]^$#&-~".toList.contains c || c.toNat = 0x7B || c.toNat = 0x7D

/-- ASCII characters other than letters, digits and angle brackets may be escaped without need. -/
def isEscapable (c : Char) : Bool :=
  isMeta c || (c.toNat < 0x80 && !c.isAlphanum && c != '<' && c != '>')

/-- Negates a set. Sets of bytes have no negation that keeps to whole characters. -/
def negateIf (negated ascii : Bool) (s : CharSet) : Option CharSet :=
  if negated then if ascii then none else some s.complement else some s

/-- Adds the other case if case is ignored, then negates. -/
def foldAndNegate (flags : Flags) (negated : Bool) (s : CharSet) : Option CharSet :=
  negateIf negated flags.ascii (if flags.ignoreCase then foldCase s flags.ascii else s)

/-- Splits a class name at its operator. -/
def classOfName? (flags : Flags) (name : List Char) (negated : Bool) : Option CharSet :=
  let splitAt (p : Char → Bool) : Option (List Char × List Char) :=
    match name.span (fun c => !p c) with
    | (before, _ :: after) => some (before, after)
    | _ => none
  let rec unequal (before : List Char) : List Char → Option (List Char × List Char)
    | '!' :: '=' :: after => some (before.reverse, after)
    | c :: rest => unequal (c :: before) rest
    | [] => none
  let found := match unequal [] name with
    | some (property, value) => (valued? property value).map (·, !negated)
    | none => match splitAt (· == ':') with
      | some (property, value) => (valued? property value).map (·, negated)
      | none => match splitAt (· == '=') with
        | some (property, value) => (valued? property value).map (·, negated)
        | none => (named? name).map (·, negated)
  found.bind fun (s, negated) => foldAndNegate flags negated s

def bracedName (flags : Flags) : Nat → List Char → List Char → Option (List Char × List Char)
  | 0, _, _ => none
  | _ + 1, _, [] => none
  | fuel + 1, name, c :: rest =>
    if c.toNat = 0x7D then some (name.reverse, rest)
    else bracedName flags fuel (c :: name) (space flags rest)

def unicodeClass (flags : Flags) (negated : Bool) (cs : List Char) :
    Option (Primitive × List Char) :=
  match space flags cs with
  | [] => none
  | c :: rest =>
    if flags.ascii then none
    else if c.toNat = 0x7B then do
      let (name, rest) ← bracedName flags (rest.length + 1) [] (space flags rest)
      return (.class (← classOfName? flags name negated), rest)
    else if c = '\\' then none
    else do return (.class (← classOfName? flags [c] negated), space flags rest)

/-- The special edge that a brace behind `\b` names: no name, a name, or an error. -/
def specialEdge (flags : Flags) (cs : List Char) : Option (Option (Look × List Char)) :=
  let isNameChar (c : Char) : Bool := c.isAlpha || c == '-'
  let rec collect : Nat → List Char → List Char → List Char × List Char
    | 0, name, cs => (name.reverse, cs)
    | _ + 1, name, [] => (name.reverse, [])
    | fuel + 1, name, c :: rest =>
      if isNameChar c then collect fuel (c :: name) (space flags rest)
      else (name.reverse, c :: rest)
  match space flags cs with
  | [] => none
  | c :: rest =>
    if !isNameChar c then some none
    else match collect (rest.length + 1) [] (c :: rest) with
      | (name, close :: rest) =>
        if close.toNat ≠ 0x7D then none
        else match String.ofList name with
          | "start" => some (some (.wordStart flags.ascii, rest))
          | "end" => some (some (.wordEnd flags.ascii, rest))
          | "start-half" => some (some (.wordStartHalf flags.ascii, rest))
          | "end-half" => some (some (.wordEndHalf flags.ascii, rest))
          | _ => none
      | (_, []) => none

/-- What follows a backslash. -/
def readEscape (flags : Flags) : List Char → Option (Primitive × List Char)
  | [] => none
  | c :: rest =>
    if c.isDigit then none
    else if c = 'x' ∨ c = 'u' ∨ c = 'U' then
      match space flags rest with
      | [] => none
      | d :: tail =>
        if d.toNat = 0x7B then do
          let (digits, rest) ← bracedHex flags (tail.length + 1) [] (space flags tail)
          return (.literal (← hexScalar? digits) false, rest)
        else do
          let count := if c = 'x' then 2 else if c = 'u' then 4 else 8
          let (digits, rest) ← fixedHex flags count [] (d :: tail)
          return (.literal (← hexScalar? digits) (c == 'x'), rest)
    else if c = 'p' ∨ c = 'P' then unicodeClass flags (c == 'P') rest
    else if c = 'd' ∨ c = 's' ∨ c = 'w' then some (.class (perlClass c flags.ascii), rest)
    else if c = 'D' ∨ c = 'S' ∨ c = 'W' then
      (negateIf true flags.ascii (perlClass c.toLower flags.ascii)).map fun s => (.class s, rest)
    else if isEscapable c then some (.literal c false, rest)
    else match c with
      | 'a' => some (.literal (Char.ofNat 7) false, rest)
      | 'f' => some (.literal (Char.ofNat 12) false, rest)
      | 't' => some (.literal '\t' false, rest)
      | 'n' => some (.literal '\n' false, rest)
      | 'r' => some (.literal '\r' false, rest)
      | 'v' => some (.literal (Char.ofNat 11) false, rest)
      | 'A' => some (.look .start, rest)
      | 'z' => some (.look .stop, rest)
      | 'B' => some (.look (.notWordEdge flags.ascii), rest)
      | '<' => some (.look (.wordStart flags.ascii), rest)
      | '>' => some (.look (.wordEnd flags.ascii), rest)
      | 'b' =>
        match rest with
        | d :: tail =>
          if d.toNat = 0x7B then
            match specialEdge flags tail with
            | none => none
            | some none => some (.look (.wordEdge flags.ascii), rest)
            | some (some (l, rest)) => some (.look l, rest)
          else some (.look (.wordEdge flags.ascii), rest)
        | [] => some (.look (.wordEdge flags.ascii), rest)
      | _ => none

/-! Bracketed classes -/

inductive SetOp where
  | inter
  | diff
  | symmDiff

def SetOp.apply : SetOp → CharSet → CharSet → CharSet
  | .inter, s, t => s.inter t
  | .diff, s, t => s.diff t
  | .symmDiff, s, t => s.symmDiff t

/-- A class under construction: the left side of a pending operator, and the items since then. The
depths count how deeply the class is nested as syntax. -/
structure ClassState where
  pending : Option (SetOp × CharSet × Nat)
  items : List CharSet
  depth : Nat

def ClassState.add (state : ClassState) (s : CharSet) (depth : Nat) : ClassState :=
  { state with items := s :: state.items, depth := max state.depth depth }

/-- The set of the items so far, joined to the left side of a pending operator. -/
def ClassState.close (flags : Flags) (state : ClassState) : CharSet × Nat :=
  let items := unions state.items
  let depth := if state.items.length ≤ 1 then state.depth else state.depth + 1
  match state.pending with
  | none => (items, depth)
  | some (op, left, leftDepth) =>
    let fold (s : CharSet) := if flags.ignoreCase then foldCase s flags.ascii else s
    (op.apply (fold left) (fold items), max leftDepth depth + 1)

def ClassState.startOp (flags : Flags) (state : ClassState) (op : SetOp) : ClassState :=
  let (left, depth) := state.close flags
  ⟨some (op, left, depth), [], 0⟩

/-- A named class `[:name:]`, from behind its first bracket. -/
def bracketClass (flags : Flags) (cs : List Char) : Option (Option CharSet × List Char) :=
  match cs with
  | ':' :: rest =>
    let (negated, rest) := match rest with
      | '^' :: rest => (true, rest)
      | _ => (false, rest)
    match rest.span (· != ':') with
    | (name, ':' :: ']' :: rest) =>
      (bracketName? (String.ofList name)).map fun s => (foldAndNegate flags negated s, rest)
    | _ => none
  | _ => none

/-- An item of a class. -/
def classItem (flags : Flags) : List Char → Option (Primitive × List Char)
  | [] => none
  | '\\' :: rest => readEscape flags rest
  | c :: rest => some (.literal c false, rest)

/-- Literals in classes of bytes have to be ASCII. -/
def classLiteral? (flags : Flags) : Primitive → Option Char
  | .literal c _ => if flags.ascii && 0x80 ≤ c.toNat then none else some c
  | _ => none

def classSet? (flags : Flags) : Primitive → Option CharSet
  | .class s => some s
  | p => (classLiteral? flags p).map CharSet.single

/-- A single item or a range. -/
def classRange (flags : Flags) (cs : List Char) : Option (CharSet × List Char) := do
  let (low, rest) ← classItem flags cs
  let rest := space flags rest
  match rest with
  | [] => none
  | '-' :: tail =>
    let next := peekBehind flags tail
    if next = some ']' ∨ next = some '-' then return (← classSet? flags low, rest)
    else
      let tail := space flags tail
      if tail.isEmpty then none
      let (high, rest) ← classItem flags tail
      let a ← classLiteral? flags low
      let b ← classLiteral? flags high
      if a ≤ b then return (⟨#[(a.toNat, b.toNat)]⟩, rest) else none
  | _ => return (← classSet? flags low, rest)

/-- Hyphens at the start of a class stand for themselves. -/
def leadingHyphens (flags : Flags) : Nat → ClassState → List Char → ClassState × List Char
  | fuel + 1, state, '-' :: rest =>
    leadingHyphens flags fuel (state.add (.single '-') 0) (space flags rest)
  | _, state, cs => (state, cs)

/-- From behind the opening bracket: whether the class is negated, and its first literal items. -/
def openClass (flags : Flags) (cs : List Char) : Option (Bool × ClassState × List Char) :=
  let (negated, cs) := match space flags cs with
    | '^' :: rest => (true, space flags rest)
    | cs => (false, cs)
  let (state, cs) := leadingHyphens flags cs.length ⟨none, [], 0⟩ cs
  match cs with
  | [] => none
  | ']' :: rest =>
    if state.items.isEmpty then
      let rest := space flags rest
      if rest.isEmpty then none else some (negated, state.add (.single ']') 0, rest)
    else some (negated, state, cs)
  | _ => some (negated, state, cs)

/-- The rest of a class up to its closing bracket. -/
def readClass (flags : Flags) : Nat → Bool → ClassState → List Char →
    Option (CharSet × Nat × List Char)
  | 0, _, _, _ => none
  | fuel + 1, negated, state, cs =>
    match space flags cs with
    | [] => none
    | '[' :: rest =>
      match bracketClass flags rest with
      | some (some s, rest) => readClass flags fuel negated (state.add s 0) rest
      | some (none, _) => none
      | none => do
        let (inner, innerState, rest) ← openClass flags rest
        let (s, depth, rest) ← readClass flags fuel inner innerState rest
        readClass flags fuel negated (state.add s depth) rest
    | ']' :: rest => do
      let (s, depth) := state.close flags
      return (← foldAndNegate flags negated s, depth + 1, rest)
    | '&' :: '&' :: rest => readClass flags fuel negated (state.startOp flags .inter) rest
    | '-' :: '-' :: rest => readClass flags fuel negated (state.startOp flags .diff) rest
    | '~' :: '~' :: rest => readClass flags fuel negated (state.startOp flags .symmDiff) rest
    | cs => do
      let (s, rest) ← classRange flags cs
      readClass flags fuel negated (state.add s 0) rest

/-! Groups, repetitions and alternatives -/

/-- A number in a counted repetition, with the blanks around it. -/
def readCount (flags : Flags) (cs : List Char) : Option Nat × List Char :=
  let rec digits : Nat → List Nat → List Char → List Nat × List Char
    | fuel + 1, read, c :: rest =>
      if c.isDigit then digits fuel ((c.toNat - 48) :: read) (space flags rest)
      else (read.reverse, c :: rest)
    | _, read, cs => (read.reverse, cs)
  let (read, rest) := digits cs.length [] (cs.dropWhile isBlank)
  let value := read.foldl (fun n d => 10 * n + d) 0
  let count := if read.isEmpty || UInt32.size ≤ value then none else some value
  (count, space flags (rest.dropWhile isBlank))

/-- The bounds of a counted repetition, from behind its brace, and what follows the closing
brace. -/
def readBounds (flags : Flags) (cs : List Char) : Option (Nat × Option Nat × List Char) :=
  let closeAt (least : Nat) (most : Option Nat) : List Char → Option (Nat × Option Nat × List Char)
    | c :: rest => if c.toNat = 0x7D then some (least, most, space flags rest) else none
    | [] => none
  match space flags cs with
  | [] => none
  | cs => match readCount flags cs with
    | (least, ',' :: rest) => do
      let least ← least
      match space flags rest with
      | [] => none
      | c :: tail =>
        if c.toNat = 0x7D then closeAt least none (c :: tail)
        else
          let (most, rest) := readCount flags (c :: tail)
          let most ← most
          if least ≤ most then closeAt least (some most) rest else none
    | (some n, rest) => closeAt n (some n) rest
    | (none, _) => none

/-- Flags up to a closing parenthesis or a colon. `seen` holds the letters read so far. -/
def readFlags (flags : Flags) (on : Bool) (seen : List Char) :
    List Char → Option (Flags × List Char × Char × List Char)
  | [] => none
  | c :: rest =>
    if c = ':' ∨ c = ')' then
      if seen.head? = some '-' then none else some (flags, seen, c, rest)
    else if seen.contains c then none
    else match c with
      | '-' => readFlags flags false (c :: seen) rest
      | 'i' => readFlags { flags with ignoreCase := on } on (c :: seen) rest
      | 'm' => readFlags { flags with multiline := on } on (c :: seen) rest
      | 's' => readFlags { flags with dotAll := on } on (c :: seen) rest
      | 'U' => readFlags { flags with lazy := on } on (c :: seen) rest
      | 'u' => readFlags { flags with ascii := !on } on (c :: seen) rest
      | 'R' => readFlags { flags with crlf := on } on (c :: seen) rest
      | 'x' => readFlags { flags with verbose := on } on (c :: seen) rest
      | _ => none

def isNameStart (c : Char) : Bool := c == '_' || letters.has c

def isNamePart (c : Char) : Bool :=
  isNameStart c || c == '.' || c == '[' || c == ']' || ((category? "n").getD .empty).has c

/-- The name of a group, up to its closing angle bracket. -/
def readName (cs : List Char) : Option (List Char × List Char) :=
  match cs.span (· != '>') with
  | (first :: name, '>' :: rest) =>
    if isNameStart first && name.all isNamePart then some (first :: name, rest) else none
  | _ => none

/-- What an opening parenthesis opens. -/
inductive Opening where
  | capture (index : Nat) (source : Source)
  | plain (flags : Flags) (source : Source)
  | setFlags (flags : Flags) (source : Source)

def openNamed (source : Source) (cs : List Char) : Option Opening := do
  let (name, rest) ← readName cs
  if source.names.contains name then none
  else return .capture (source.groups + 1) ⟨rest, source.groups + 1, name :: source.names⟩

/-- From behind an opening parenthesis. -/
def readOpening (flags : Flags) (source : Source) : Option Opening :=
  match space flags source.rest with
  | '?' :: '=' :: _ | '?' :: '!' :: _ | '?' :: '<' :: '=' :: _ | '?' :: '<' :: '!' :: _ => none
  | '?' :: 'P' :: '<' :: rest => openNamed source rest
  | '?' :: '<' :: rest => openNamed source rest
  | '?' :: rest => do
    let (changed, seen, last, rest) ← readFlags flags true [] rest
    if last = ')' then
      if seen.isEmpty then none else return .setFlags changed { source with rest }
    else return .plain changed { source with rest }
  | rest => some (.capture (source.groups + 1) ⟨rest, source.groups + 1, source.names⟩)

/-- A part of a concatenation, how deeply it is nested as syntax, and whether it may be repeated. -/
structure Item where
  node : Node
  depth : Nat
  repeatable : Bool

def concatItems (items : List Item) : Node × Nat :=
  let depth := items.foldl (fun d i => max d i.depth) 0
  (.ofConcat (items.map (·.node)), if items.length ≤ 1 then depth else depth + 1)

/-- Alternatives in order, nested one level deeper if there are several. -/
def choiceItems (branches : List (Node × Nat)) : Node × Nat :=
  let depth := branches.foldl (fun d b => max d b.2) 0
  (.ofChoice (branches.map (·.1)), if branches.length ≤ 1 then depth else depth + 1)

/-- The expression of a primitive. -/
def Primitive.node (flags : Flags) : Primitive → Option Node
  | .literal c byte =>
    if flags.ascii && byte && 0x80 ≤ c.toNat then none
    else if flags.ignoreCase && !(flags.ascii && 0x80 ≤ c.toNat) then
      some (.set (foldCase (.single c) flags.ascii))
    else some (.set (.single c))
  | .class s => some (.set s)
  | .look l => some (.look l)
  | .dot =>
    if flags.ascii then none
    else if flags.dotAll then some (.set .all)
    else if flags.crlf then some (.set ⟨#[(0, 9), (11, 12), (14, CharSet.lastCode)]⟩)
    else some (.set ⟨#[(0, 9), (11, CharSet.lastCode)]⟩)

def startLook (flags : Flags) : Look :=
  if flags.multiline then if flags.crlf then .startLineCr else .startLine else .start

def endLook (flags : Flags) : Look :=
  if flags.multiline then if flags.crlf then .endLineCr else .endLine else .stop

def readPrimitive (flags : Flags) : List Char → Option (Primitive × List Char)
  | [] => none
  | '\\' :: rest => readEscape flags rest
  | '.' :: rest => some (.dot, rest)
  | '^' :: rest => some (.look (startLook flags), rest)
  | '$' :: rest => some (.look (endLook flags), rest)
  | c :: rest => some (.literal c false, rest)

/-- Repeats the last item. -/
def repeatLast (flags : Flags) (least : Nat) (most : Option Nat) (greedy : Bool) :
    List Item → Option (List Item)
  | item :: items =>
    if item.repeatable then
      some (⟨.mkRepeats item.node least most (greedy != flags.lazy), item.depth + 1, true⟩ :: items)
    else none
  | [] => none

/-- A question mark behind a repetition makes it match as little as possible. -/
def greedyMark : List Char → Bool × List Char
  | '?' :: rest => (false, rest)
  | rest => (true, rest)

/-- Reads alternatives up to a closing parenthesis or the end; branches and items are held in
reverse. -/
def readChoice : Nat → Flags → List (Node × Nat) → List Item → Source →
    Option ((Node × Nat) × Source)
  | 0, _, _, _, _ => none
  | fuel + 1, flags, branches, items, source =>
    let finish (rest : List Char) : Option ((Node × Nat) × Source) :=
      some (choiceItems ((concatItems items.reverse :: branches).reverse), { source with rest })
    let simple (least : Nat) (most : Option Nat) (rest : List Char) := do
      let (greedy, rest) := greedyMark rest
      let items ← repeatLast flags least most greedy items
      readChoice fuel flags branches items { source with rest }
    match space flags source.rest with
    | [] => finish []
    | ')' :: rest => finish (')' :: rest)
    | '(' :: rest => do
      match ← readOpening flags { source with rest } with
      | .setFlags changed source =>
        readChoice fuel changed branches (⟨.empty, 0, false⟩ :: items) source
      | .capture index source =>
        let ((node, depth), source) ← readChoice fuel flags [] [] source
        match source.rest with
        | ')' :: rest =>
          readChoice fuel flags branches (⟨.group index node, depth + 1, true⟩ :: items)
            { source with rest }
        | _ => none
      | .plain changed source =>
        let ((node, depth), source) ← readChoice fuel changed [] [] source
        match source.rest with
        | ')' :: rest =>
          readChoice fuel flags branches (⟨node, depth + 1, true⟩ :: items) { source with rest }
        | _ => none
    | '|' :: rest =>
      readChoice fuel flags (concatItems items.reverse :: branches) [] { source with rest }
    | '[' :: rest => do
      let (negated, state, rest) ← openClass flags rest
      let (s, depth, rest) ← readClass flags (rest.length + 1) negated state rest
      readChoice fuel flags branches (⟨.set s, depth, true⟩ :: items) { source with rest }
    | '?' :: rest => simple 0 (some 1) rest
    | '*' :: rest => simple 0 none rest
    | '+' :: rest => simple 1 none rest
    | c :: rest =>
      if c.toNat = 0x7B then do
        let _ ← repeatLast flags 0 none true items
        let (least, most, rest) ← readBounds flags rest
        simple least most rest
      else do
        let (p, rest) ← readPrimitive flags (c :: rest)
        readChoice fuel flags branches (⟨← p.node flags, 0, true⟩ :: items) { source with rest }

/-- Expressions may be nested this deeply as syntax. -/
def nestLimit : Nat := 250

/-- The expression that a pattern denotes. -/
def parse (pattern : List Char) : Option Node := do
  let ((node, depth), source) ← readChoice (pattern.length + 1) {} [] [] ⟨pattern, 0, []⟩
  if source.rest.isEmpty && depth ≤ nestLimit then return node else none

end LinkShot.Regex

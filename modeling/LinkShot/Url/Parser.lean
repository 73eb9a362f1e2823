import LinkShot.Domain.Name
import LinkShot.Url.Address
import LinkShot.Url.Basic
import LinkShot.Url.Error
import LinkShot.Url.Path

/-!
From texts to absolute addresses. The schemes of the web have a host; for the others the host may be
missing or any text.
-/
namespace LinkShot.Url

/-- Controls and blanks around an address do not count, tabs and line ends nowhere. -/
def clean (text : String) : List Char :=
  let isEdge := fun (c : Char) => c.toNat ≤ 0x20
  let trimmed := ((text.toList.dropWhile isEdge).reverse.dropWhile isEdge).reverse
  trimmed.filter fun c => c ≠ '\t' ∧ c ≠ '\n' ∧ c ≠ '\r'

def isSchemeCharacter (c : Char) : Bool := c.isAlphanum || c == '+' || c == '-' || c == '.'

/-- The scheme in small letters, and what follows its colon. -/
def scheme? (cs : List Char) : Option (String × List Char) :=
  match cs with
  | first :: _ =>
    if first.isAlpha then
      match cs.dropWhile isSchemeCharacter with
      | ':' :: rest =>
        some (String.ofList ((cs.takeWhile isSchemeCharacter).map Char.toLower), rest)
      | _ => none
    else none
  | [] => none

/-- Characters that end the part with user, host and port. -/
def endsAuthority (web : Bool) (c : Char) : Bool :=
  c == '/' || c == '?' || c == '#' || (web && c == '\\')

/-- The text up to the last `@`, if there is one, and the text after it. -/
def splitUser (authority : List Char) : Option (List Char) × List Char :=
  match authority.reverse.dropWhile (· ≠ '@') with
  | [] => (none, authority)
  | _ :: user => (some user.reverse, (authority.reverse.takeWhile (· ≠ '@')).reverse)

/-- The host up to a colon outside of brackets, and the port's text after it. -/
def splitPort (bracketed : Bool) : List Char → List Char × Option (List Char)
  | [] => ([], none)
  | c :: rest =>
    if c = ':' && !bracketed then ([], some rest)
    else
      let bracketed := if c = '[' then true else if c = ']' then false else bracketed
      let (host, port) := splitPort bracketed rest
      (c :: host, port)

/-- The bytes of a text, with percent codes for the bytes that they name. -/
def percentDecode : List Char → Text.Bytes
  | [] => []
  | '%' :: a :: b :: rest =>
    match Text.hexValue? a, Text.hexValue? b with
    | some high, some low => UInt8.ofNat (16 * high + low) :: percentDecode rest
    | _, _ => Text.utf8 ['%'] ++ percentDecode (a :: b :: rest)
  | c :: rest => Text.utf8 [c] ++ percentDecode rest

/-- The pieces of a host in brackets, if it is one. -/
def bracketed? : List Char → Option (Except Error Host)
  | '[' :: rest => some <| match rest.reverse with
    | ']' :: inner => match ipv6? inner.reverse with
      | some pieces => .ok (.ipv6 pieces)
      | none => .error .invalidIpv6
    | _ => .error .invalidIpv6
  | _ => none

/-- A host of the web: a domain, or an address if its last part is a number. -/
def webHost (cs : List Char) : Except Error Host :=
  match bracketed? cs with
  | some host => host
  | none =>
    match (Text.decode? (percentDecode cs)).bind (Domain.toAscii? ·.toList) with
    | none => .error .invalidDomain
    | some [] => .error .emptyHost
    | some name =>
      if endsInNumber name then
        match ipv4? name with
        | some address => .ok (.ipv4 address)
        | none => .error .invalidIpv4
      else .ok (.domain (String.ofList name))

def isHostForbidden (c : Char) : Bool := c.toNat = 0 || " #/:<>?@[\\]^|".toList.contains c

def otherHost (cs : List Char) : Except Error Host :=
  match bracketed? cs with
  | some host => host
  | none =>
    if cs.any isHostForbidden then .error .invalidHostCharacter
    else if cs.isEmpty then .ok .empty
    else .ok (.other (String.ofList (escape [] cs)))

/-- The number of a port; none if the text is empty or names the scheme's own. -/
def portNumber (scheme : String) (cs : List Char) : Except Error (Option Nat) :=
  match Text.digits? cs with
  | none => .error .invalidPort
  | some n =>
    if 65535 < n then .error .invalidPort
    else if cs.isEmpty || defaultPort? scheme = some n then .ok none
    else .ok (some n)

/-- How the text behind a host becomes a path. -/
inductive PathStyle where
  | web
  | file
  | plain
  | bare

/-- Only the path of a plain address may be empty. -/
def pathText : PathStyle → List Char → List Char
  | .web, cs => join (segments (slashed cs))
  | .file, cs => filePath cs
  | .plain, cs => if cs.isEmpty then [] else join (segments cs)
  | .bare, cs => escape [] cs

def PathStyle.queryMarks : PathStyle → List Char
  | .web | .file => webQueryMarks
  | .plain | .bare => Url.queryMarks

/-- The text behind a mark, if the mark is there, with some characters as percent codes. -/
def behind? (mark : Char) (marks cs : List Char) : Option String :=
  match cs.dropWhile (· ≠ mark) with
  | _ :: text => some (String.ofList (escape marks text))
  | [] => none

/-- The path, the query and the fragment of a text that begins behind the host. -/
def locate (style : PathStyle) (scheme : String) (host : Host) (port : Option Nat)
    (cs : List Char) : Url where
  scheme
  host
  port
  path := String.ofList (pathText style (cs.takeWhile fun c => c ≠ '?' ∧ c ≠ '#'))
  query := behind? '?' style.queryMarks (cs.takeWhile (· ≠ '#'))
  fragment := behind? '#' fragmentMarks cs

/-- An address from the text behind the slashes. A user needs a host. -/
def parseAuthority (scheme : String) (web : Bool) (cs : List Char) : Except Error Url := do
  let (user, hostPort) := splitUser (cs.takeWhile (!endsAuthority web ·))
  let rest := cs.dropWhile (!endsAuthority web ·)
  if user == some [] && hostPort.isEmpty && !rest.isEmpty then throw .emptyHost
  let (hostText, portText) := splitPort false hostPort
  if web && hostText.isEmpty then throw .emptyHost
  let host ← if web then webHost hostText else otherHost hostText
  if host == .empty && portText.isSome then throw .emptyHost
  let number ← portNumber scheme (portText.getD [])
  let hasUser := match user with
    | none | some [] | some [':'] => false
    | some _ => true
  if host == .empty && hasUser then throw .emptyHost
  return locate (if web then .web else .plain) scheme host number rest

def isSlash (c : Char) : Bool := c == '/' || c == '\\'

/-- A host that stands before a drive does not count. -/
def locateFile (host : Host) (cs : List Char) : Url :=
  let startsWithDrive := match segments (slashed (cs.takeWhile fun c => c ≠ '?' ∧ c ≠ '#')) with
    | segment :: _ => isDrive segment
    | [] => false
  locate .file "file" (if startsWithDrive then .empty else host) none cs

/-- An address of a file. Only one with two slashes has a host. -/
def parseFile (cs : List Char) : Except Error Url :=
  match cs with
  | a :: b :: rest =>
    if isSlash a && isSlash b then
      let hostText := rest.takeWhile (!endsAuthority true ·)
      if isDrive hostText || hostText.isEmpty then .ok (locateFile .empty rest)
      else do
        let host ← webHost hostText
        let host := if host == .domain "localhost" then .empty else host
        return locateFile host (rest.dropWhile (!endsAuthority true ·))
    else .ok (locateFile .empty cs)
  | cs => .ok (locateFile .empty cs)

def parse (text : String) : Except Error Url :=
  match scheme? (clean text) with
  | none => .error .relative
  | some (scheme, rest) =>
    if scheme = "file" then parseFile rest
    else if webSchemes.contains scheme then parseAuthority scheme true (rest.dropWhile isSlash)
    else match rest with
      | '/' :: '/' :: rest => parseAuthority scheme false rest
      | '/' :: _ => .ok (locate .plain scheme .missing none rest)
      | _ => .ok (locate .bare scheme .missing none rest)

end LinkShot.Url

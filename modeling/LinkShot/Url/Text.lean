import LinkShot.Url.Basic

/-! Addresses as texts. -/
namespace LinkShot.Url

/-- Four bytes with dots between them. -/
def ipv4Text (address : Nat) : String :=
  ".".intercalate ([3, 2, 1, 0].map fun i => toString (address / Nat.pow 256 i % 256))

def pieceText (piece : Nat) : String := String.ofList (Nat.toDigits 16 piece)

def piecesText (pieces : List Nat) : String := ":".intercalate (pieces.map pieceText)

/-- The place and the length of the first of the longest runs of zeros. -/
def longestZeros (pieces : List Nat) : Nat × Nat :=
  let runs := (List.range pieces.length).map fun (i : Nat) =>
    (i, ((pieces.drop i).takeWhile (· = 0)).length)
  runs.foldl (fun best run => if best.2 < run.2 then run else best) (0, 0)

/-- Eight pieces with colons between them; two colons stand for a run of zeros. -/
def ipv6Text (pieces : List Nat) : String :=
  let (start, length) := longestZeros pieces
  if length < 2 then piecesText pieces
  else piecesText (pieces.take start) ++ "::" ++ piecesText (pieces.drop (start + length))

def Host.text : Host → String
  | .missing | .empty => ""
  | .domain name | .other name => name
  | .ipv4 address => ipv4Text address
  | .ipv6 pieces => "[" ++ ipv6Text pieces ++ "]"

/-- A path with two slashes would be read as a host, and so it is set off where there is none. -/
def authorityText (u : Url) : String :=
  match u.host with
  | .missing => if ['/', '/'].isPrefixOf u.path.toList then "/." else ""
  | host => "//" ++ host.text ++ (u.port.map fun n => ":" ++ toString n).getD ""

/-- The path with the query. -/
def target (u : Url) : String := u.path ++ (u.query.map ("?" ++ ·)).getD ""

def text (u : Url) : String :=
  u.scheme ++ ":" ++ u.authorityText ++ u.target ++ (u.fragment.map ("#" ++ ·)).getD ""

end LinkShot.Url

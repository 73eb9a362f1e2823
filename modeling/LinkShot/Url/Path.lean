import LinkShot.Text.Hex
import LinkShot.Text.Split
import LinkShot.Text.Utf8

/-! Paths, queries and fragments of addresses, in the form in which they are sent. -/
namespace LinkShot.Url

open Text (Bytes)

/-- Whether a byte stands as `%` and two digits, among the printable ones those of `marks`. -/
def isEscaped (marks : List Char) (b : UInt8) : Bool :=
  b < 0x20 || 0x7F ≤ b || marks.contains (Char.ofNat b.toNat)

def escapeByte (marks : List Char) (b : UInt8) : List Char :=
  if isEscaped marks b then ['%', Text.hexDigit (b.toNat / 16), Text.hexDigit (b.toNat % 16)]
  else [Char.ofNat b.toNat]

def escape (marks cs : List Char) : List Char := (Text.utf8 cs).flatMap (escapeByte marks)

def fragmentMarks : List Char := [' ', '"', '<', '>', '`']

def pathMarks : List Char := ['#', '?', Char.ofNat 0x7B, Char.ofNat 0x7D] ++ fragmentMarks

def queryMarks : List Char := [' ', '"', '<', '>', '#']

/-- The web does not leave apostrophes in a query. -/
def webQueryMarks : List Char := Char.ofNat 0x27 :: queryMarks

/-- A dot; it may be written as a percent code. -/
def dropDot? : List Char → Option (List Char)
  | '.' :: rest | '%' :: '2' :: 'e' :: rest | '%' :: '2' :: 'E' :: rest => some rest
  | _ => none

def isCurrent (segment : List Char) : Bool := dropDot? segment == some []

def isParent (segment : List Char) : Bool := (dropDot? segment).bind dropDot? == some []

/-- The name of a drive. -/
def isDrive : List Char → Bool
  | [letter, mark] => letter.isAlpha && (mark == ':' || mark == '|')
  | _ => false

/-- A reversed path without its last segment; a drive is never left. -/
def goUp : List (List Char) → List (List Char)
  | [] => []
  | segment :: done => if isDrive segment then segment :: done else done

/-- Adds segments to a reversed path: a dot stays where it is, two dots go up. -/
def addSegments : List (List Char) → List (List Char) → List (List Char)
  | done, [] => done
  | done, segment :: rest =>
    if isParent segment then addSegments (if rest.isEmpty then [] :: goUp done else goUp done) rest
    else if isCurrent segment then addSegments (if rest.isEmpty then [] :: done else done) rest
    else addSegments (escape pathMarks segment :: done) rest

/-- The segments of a path's text, which begins with a slash or is empty. -/
def segments (cs : List Char) : List (List Char) :=
  (addSegments [] (Text.splitOn '/' (match cs with
    | '/' :: rest => rest
    | other => other))).reverse

def join (segments : List (List Char)) : List Char := segments.flatMap ('/' :: ·)

/-- On the web backslashes are slashes. -/
def slashed (cs : List Char) : List Char := cs.map fun c => if c = '\\' then '/' else c

/-- A drive's mark is a colon. -/
def withDriveColon : List (List Char) → List (List Char)
  | segment :: rest => (if isDrive segment then segment.take 1 ++ [':'] else segment) :: rest
  | [] => []

/-- The path of a file begins with one slash. -/
def filePath (cs : List Char) : List Char :=
  '/' :: (join (withDriveColon (segments (slashed cs)))).dropWhile (· = '/')

end LinkShot.Url

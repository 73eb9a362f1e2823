import LinkShot.OrderedMap
import LinkShot.Text.Utf8

/-! Header fields as they may be sent. -/
namespace LinkShot.Request

def isTokenCharacter (c : Char) : Bool := c.isAlphanum || "!#$%&'*+-.^_`|~".toList.contains c

/-- The length that a name may have. -/
def maxNameLength : Nat := 65535

def isHeaderName (name : String) : Bool :=
  !name.isEmpty && name.toList.all isTokenCharacter && name.length ≤ maxNameLength

/-- No control character but the tab may stand in a value. -/
def isHeaderValue (value : String) : Bool :=
  value.toList.all fun c => c = '\t' || (0x20 ≤ c.toNat && c.toNat ≠ 0x7F)

inductive HeaderFault where
  | name
  | value
  deriving DecidableEq, Repr

def HeaderFault.message : HeaderFault → String
  | .name => "invalid HTTP header name"
  | .value => "failed to parse header value"

def lowerName (name : String) : String := String.ofList (name.toList.map Char.toLower)

/-- The fields to send, their names in small letters: of a repeated name the last value counts. The
first field that cannot be sent is an error. -/
def fields (sent : OrderedMap) : List (String × String) → Except (String × HeaderFault) OrderedMap
  | [] => .ok sent
  | (name, value) :: rest =>
    if !isHeaderName name then .error (name, .name)
    else if !isHeaderValue value then .error (name, .value)
    else fields (sent.insert (lowerName name) value) rest

/-- Adds a field unless it is there. -/
def supply (name value : String) (sent : OrderedMap) : OrderedMap :=
  if (sent.get? name).isSome then sent else sent.insert name value

end LinkShot.Request

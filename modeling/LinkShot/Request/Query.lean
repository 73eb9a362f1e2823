import LinkShot.OrderedMap
import LinkShot.Text.Hex
import LinkShot.Text.Utf8

/-! Query strings: percent-encoded keys and values behind a base address. -/
namespace LinkShot.Request

def isUnreserved (b : UInt8) : Bool :=
  let c := Char.ofNat b.toNat
  b < 0x80 && (c.isAlphanum || c == '-' || c == '.' || c == '_' || c == '~')

def percentByte (b : UInt8) : List Char :=
  if isUnreserved b then [Char.ofNat b.toNat]
  else ['%', Text.hexDigit (b.toNat / 16), Text.hexDigit (b.toNat % 16)]

def percentEncode (s : String) : List Char := (Text.encode s).flatMap percentByte

def parameter (entry : String × String) : List Char :=
  percentEncode entry.1 ++ '=' :: percentEncode entry.2

def queryText (arguments : OrderedMap) : List Char :=
  ((arguments.entries.map parameter).intersperse ['&']).flatten

/-- The base itself without arguments, else the base, `?` and the parameters. -/
def queryAddress (base : String) (arguments : OrderedMap) : String :=
  if arguments.isEmpty then base
  else String.ofList (base.toList ++ '?' :: queryText arguments)

end LinkShot.Request

/-! Absolute addresses as values. -/
namespace LinkShot

/-- An address may lack a host, or have slashes for one that is empty. -/
inductive Url.Host where
  | missing
  | empty
  | domain (name : String)
  | ipv4 (address : Nat)
  | ipv6 (pieces : List Nat)
  | other (name : String)
  deriving DecidableEq, Repr

/-- An address without its user. The port is there if it is not the scheme's own. -/
structure Url where
  scheme : String
  host : Url.Host
  port : Option Nat
  path : String
  query : Option String
  fragment : Option String
  deriving DecidableEq, Repr

namespace Url

/-- The schemes that always have a host. -/
def webSchemes : List String := ["http", "https", "ws", "wss", "ftp"]

def defaultPort? (scheme : String) : Option Nat :=
  [("http", 80), ("https", 443), ("ws", 80), ("wss", 443), ("ftp", 21)].lookup scheme

end Url
end LinkShot

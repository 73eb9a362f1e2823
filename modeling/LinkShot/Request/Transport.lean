import LinkShot.Action.Error
import LinkShot.Request.Header
import LinkShot.Request.Prepared
import LinkShot.Url.Parser
import LinkShot.Url.Text
import LinkShot.Version

/-!
Sending a prepared request. The address is checked first, then the headers in order; what arrives is
read as UTF-8, whatever the status.
-/
namespace LinkShot.Request

open LinkShot.Action (DispatchError)
open Text (Bytes)

/-- A request as it goes over the network. -/
structure Outgoing where
  url : Url
  method : Method
  fields : OrderedMap
  body : Bytes
  deriving DecidableEq, Repr

/-- The body of the response, if there is one. -/
abbrev Network := Outgoing → Option Bytes

/-- A computation that notes what it sends. -/
abbrev Exchange := StateM (List Outgoing)

def agentText (agent : String) : String := agent ++ "/" ++ version

/-- The fields of a request with those that every request has. -/
def allFields (agent : String) (body : Bytes) (sent : OrderedMap) : OrderedMap :=
  let sent := supply "user-agent" (agentText agent) (supply "accept" "*/*" sent)
  if body.isEmpty then sent else supply "content-length" (toString body.length) sent

/-- What is sent for a request, or why nothing can be. -/
def Prepared.outgoing (r : Prepared) (agent : String) : Except DispatchError Outgoing :=
  match Url.parse r.address with
  | .error e => .error (.invalidUrl r.address e.message)
  | .ok url => match Request.fields .empty r.headers.entries with
    | .error (name, fault) => .error (.invalidHeader name fault.message)
    | .ok sent =>
      let body := r.body.getD []
      .ok ⟨url, r.method, allFields agent body sent, body⟩

/-- The schemes that are sent over the network. -/
def sentSchemes : List String := ["http", "https"]

/-- Characters that the host of an address may hold but that of a request may not. -/
def isUnsendable (c : Char) : Bool :=
  [0x22, 0x60, 0x7B, 0x7D].contains c.toNat

/-- The length that the text of an address may have. -/
def maxUrlLength : Nat := 65534

def isSendable (url : Url) : Bool :=
  sentSchemes.contains url.scheme && !url.host.text.toList.any isUnsendable
    && url.text.length ≤ maxUrlLength

/-- A program whose name cannot be sent has no transport at all. -/
def checkAgent (agent : String) : Except DispatchError Unit :=
  if isHeaderValue (agentText agent) then .ok () else .error .client

/-- The text of the response. -/
def send (network : Network) (agent : String) (r : Prepared) :
    Exchange (Except DispatchError String) := do
  match (checkAgent agent).bind fun _ => r.outgoing agent with
  | .error e => return .error e
  | .ok request =>
    if !isSendable request.url then return .error (.transport (.unsendable request.url.text))
    match network request with
    | none => return .error (.transport (.unreachable request.url.text))
    | some body =>
      modify (· ++ [request])
      return .ok (Text.decodeLossy body)

end LinkShot.Request

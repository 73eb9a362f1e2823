import LinkShot.Provider
import LinkShot.Request.Multipart
import LinkShot.Request.Query

/-! Requests as they are handed to the network. -/
namespace LinkShot.Request

open Text (Bytes)

structure Prepared where
  method : Method
  address : String
  headers : OrderedMap
  body : Option Bytes
  deriving DecidableEq, Repr

/-- The form's content type and then the provider's headers, which replace it when they name it. -/
def formHeaders (headers : OrderedMap) : OrderedMap :=
  headers.entries.foldl (fun merged entry => merged.insertName entry.1 entry.2)
    (OrderedMap.empty.insert "Content-Type" multipartType)

/-- The body of a POST request. Only a provider with a file field takes the payload. -/
def postBody (provider : Provider) (arguments : OrderedMap) (payload : Option Bytes) : Bytes :=
  match provider.fileField, payload with
  | some field, some bytes =>
    if provider.dataOnly then bytes else uploadBody field bytes arguments
  | _, _ => formBody arguments

/-- The request of a provider whose arguments and headers are resolved. -/
def prepare (provider : Provider) (arguments headers : OrderedMap) (payload : Option Bytes) :
    Prepared :=
  match provider.method with
  | .get => ⟨.get, queryAddress provider.address arguments, headers, none⟩
  | .post =>
    let body := postBody provider arguments payload
    let merged := if body.isEmpty && payload.isNone then headers else formHeaders headers
    ⟨.post, provider.address, merged, some body⟩

end LinkShot.Request

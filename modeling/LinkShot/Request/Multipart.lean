import LinkShot.OrderedMap
import LinkShot.Text.Utf8

/-! Multipart form bodies. Every part is opened by the same delimiter, and the last is closed by it.
-/
namespace LinkShot.Request

open Text (Bytes encode)

/-- The one boundary of every form. -/
def boundary : String := "---------------------------14737809831466499882746641449"

def multipartType : String := "multipart/form-data; boundary=" ++ boundary

def delimiter : Bytes := encode ("\r\n--" ++ boundary)

def closing : Bytes := delimiter ++ encode "--\r\n"

def argumentPart (entry : String × String) : Bytes :=
  delimiter ++ encode ("\r\nContent-Disposition: form-data; name=\"" ++ entry.1 ++ "\"\r\n\r\n") ++
    encode entry.2

def argumentParts (arguments : OrderedMap) : Bytes := arguments.entries.flatMap argumentPart

def filePart (field : String) (payload : Bytes) : Bytes :=
  delimiter ++
    encode ("\r\nContent-Disposition: form-data; name=\"" ++ field ++ "\"; filename=\"" ++ field ++
      ".png\"\r\nContent-Type: application/octet-stream\r\n\r\n") ++
    payload

/-- One part per argument; no argument, no envelope. -/
def formBody (arguments : OrderedMap) : Bytes :=
  if arguments.isEmpty then [] else argumentParts arguments ++ closing

/-- The screenshot as a file part, then one part per argument. -/
def uploadBody (field : String) (payload : Bytes) (arguments : OrderedMap) : Bytes :=
  filePart field payload ++ argumentParts arguments ++ closing

end LinkShot.Request

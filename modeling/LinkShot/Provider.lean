import LinkShot.FilePath
import LinkShot.OrderedMap

/-! Providers: the web services that screenshots and texts are sent to. -/
namespace LinkShot

inductive Method where
  | get
  | post
  deriving DecidableEq, Repr

def Method.text : Method → String
  | .get => "GET"
  | .post => "POST"

/-- The menu that a provider is listed under. -/
inductive MenuGroup where
  | upload
  | getTool
  | postTool
  deriving DecidableEq, Repr

structure Provider where
  name : String
  method : Method
  address : String
  fileField : Option String
  dataOnly : Bool
  multiline : Bool
  arguments : OrderedMap
  headers : OrderedMap
  patterns : List String
  template : Option String
  source : Option FilePath
  deriving DecidableEq, Repr

namespace Provider

/-- Upload providers take a screenshot as a form file. A GET request has no body to carry one. -/
def isUpload (p : Provider) : Bool := p.fileField.isSome && p.method == .post

def menuGroup (p : Provider) : MenuGroup :=
  if p.isUpload then .upload
  else match p.method with
    | .get => .getTool
    | .post => .postTool

end Provider
end LinkShot

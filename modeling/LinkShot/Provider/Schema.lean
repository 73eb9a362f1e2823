import LinkShot.Json.Schema
import LinkShot.Provider.File

/-! The schema of definition files. -/
namespace LinkShot.Provider

open Json.Schema (Field Kind Shape)

/-- The required fields have no default, although all may be null. -/
def required (key : Key) (description : String) : Field :=
  ⟨key.text, some description, .text, true, none⟩

def optional (key : Key) (kind : Kind) (description : String) : Field :=
  ⟨key.text, some description, kind, true, some .null⟩

def schema : Shape where
  name := "ProviderFile"
  description := "On-disk provider format.

 `Name`, `RequestType` and `RequestURL` are required; everything else is optional."
  fields := [
    required .name "Label shown in menus and prompts (required).",
    required .requestType "\"GET\" or \"POST\" (required).",
    required .requestURL "Endpoint to call (required).",
    optional .fileFormName .text
      "Form field the screenshot is attached under. Marks an upload provider.",
    optional .dataOnly .bool
      "Send the screenshot as the raw request body without a multipart envelope.",
    optional .multiline .bool "Use a multi-line input prompt for `$input$` arguments.",
    optional .arguments .object "Request arguments; values may contain `$input$` or `$random$`.",
    optional .headers .object "Extra request headers; values may contain `$input$` or `$random$`.",
    optional .regexList .texts
      "Patterns applied to the response body. Only the first one is used.",
    optional .url .text "Result template with `$n$` and `$json:key,...$` tokens."]

end LinkShot.Provider

import LinkShot.Json.Printer
import LinkShot.Text.Number

/-! Walking from a JSON value along keys: names in objects, positions in lists. -/
namespace LinkShot.Json

def Value.step? (v : Value) (key : List Char) : Option Value :=
  match v with
  | .object members => members.lookup (String.ofList key)
  | .array items => (Text.word64? key).bind (items[·]?)
  | _ => none

/-- The value at the end of a path, or the shortest part of the path that leads nowhere. `walked`
holds the keys already taken. -/
def Value.walk (walked : List (List Char)) : Value → List (List Char) →
    Except (List (List Char)) Value
  | v, [] => .ok v
  | v, key :: rest =>
    match v.step? key with
    | some next => Value.walk (walked ++ [key]) next rest
    | none => .error (walked ++ [key])

/-- Strings stand for themselves, other values for their JSON text. -/
def Value.plain : Value → String
  | .string s => s
  | v => v.text

end LinkShot.Json

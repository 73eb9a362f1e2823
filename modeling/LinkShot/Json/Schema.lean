import LinkShot.Json.Value

/-! JSON schemas of records: which fields there are, of which types, and what holds when one is left
out. -/
namespace LinkShot.Json

/-- The types that fields have. -/
inductive Schema.Kind where
  | text
  | bool
  | unsigned64
  | signed32
  | texts
  | object
  deriving DecidableEq, Repr

/-- A field may be null if it is optional. -/
structure Schema.Field where
  name : String
  description : Option String
  kind : Schema.Kind
  optional : Bool
  default : Option Value

/-- A record with its fields. -/
structure Schema.Shape where
  name : String
  description : String
  fields : List Schema.Field

namespace Schema

def Kind.word : Kind → String
  | .text => "string"
  | .bool => "boolean"
  | .unsigned64 | .signed32 => "integer"
  | .texts => "array"
  | .object => "object"

/-- What a type says beyond its word. -/
def Kind.details : Kind → List (String × Value)
  | .text | .bool => []
  | .unsigned64 => [("format", .string "uint64"), ("minimum", .number (.int 0))]
  | .signed32 => [("format", .string "int32")]
  | .texts => [("items", .object [("type", .string "string")])]
  | .object => [("additionalProperties", .bool true)]

def Field.members (f : Field) : List (String × Value) :=
  let word := Value.string f.kind.word
  (f.description.map fun d => ("description", .string d)).toList
    ++ [("type", if f.optional then .array [word, .string "null"] else word)]
    ++ f.kind.details
    ++ (f.default.map fun d => ("default", d)).toList

def properties (fields : List Field) : Value :=
  .object (fields.map fun f => (f.name, .object f.members))

/-- A schema stands alone, or among the definitions of another. -/
def Shape.members (s : Shape) : List (String × Value) :=
  [("description", .string s.description), ("type", .string "object"),
    ("properties", properties s.fields)]

def draft : String := "https://json-schema.org/draft/2020-12/schema"

def Shape.document (s : Shape) : Value :=
  .object ([("$schema", .string draft), ("title", .string s.name)] ++ s.members)

/-- A record of which each field is a record of its own, with its default. -/
def documentOf (name description : String) (sections : List (String × Shape)) : Value :=
  let entry := fun (field : String × Shape) =>
    let defaults := field.2.fields.map fun f => (f.name, f.default.getD .null)
    (field.1, Value.object [("$ref", .string ("#/$defs/" ++ field.2.name)),
      ("default", .object defaults)])
  .object [("$schema", .string draft), ("title", .string name),
    ("description", .string description), ("type", .string "object"),
    ("properties", .object (sections.map entry)),
    ("$defs", .object (sections.map fun field => (field.2.name, .object field.2.members)))]

end Schema
end LinkShot.Json

/-! What can be wrong with a JSON text, or with the kind of a value in it. -/
namespace LinkShot.Json

inductive Fault where
  | endInValue
  | endInString
  | endInList
  | endInObject
  | expectedWord
  | expectedValue
  | expectedColon
  | expectedListComma
  | expectedObjectComma
  | keyNotString
  | trailingComma
  | trailingCharacters
  | invalidEscape
  | invalidNumber
  | numberOutOfRange
  | controlCharacter
  | loneSurrogate
  | unpairedSurrogate
  | invalidUtf8
  | tooDeep
  | wrongType (got expected : String)
  | wrongLength (count : Nat) (expected : String)
  | duplicateField (name : String)
  deriving DecidableEq, Repr

def Fault.message : Fault → String
  | .endInValue => "EOF while parsing a value"
  | .endInString => "EOF while parsing a string"
  | .endInList => "EOF while parsing a list"
  | .endInObject => "EOF while parsing an object"
  | .expectedWord => "expected ident"
  | .expectedValue => "expected value"
  | .expectedColon => "expected `:`"
  | .expectedListComma => "expected `,` or `]`"
  | .expectedObjectComma => "expected `,` or `\x7d`"
  | .keyNotString => "key must be a string"
  | .trailingComma => "trailing comma"
  | .trailingCharacters => "trailing characters"
  | .invalidEscape => "invalid escape"
  | .invalidNumber => "invalid number"
  | .numberOutOfRange => "number out of range"
  | .controlCharacter => "control character (\\u0000-\\u001F) found while parsing a string"
  | .loneSurrogate => "lone leading surrogate in hex escape"
  | .unpairedSurrogate => "unexpected end of hex escape"
  | .invalidUtf8 => "invalid unicode code point"
  | .tooDeep => "recursion limit exceeded"
  | .wrongType got expected => "invalid type: " ++ got ++ ", expected " ++ expected
  | .wrongLength count expected => "invalid length " ++ toString count ++ ", expected " ++ expected
  | .duplicateField name => "duplicate field `" ++ name ++ "`"

end LinkShot.Json

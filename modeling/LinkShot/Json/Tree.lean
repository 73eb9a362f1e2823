import LinkShot.Json.Number
import LinkShot.Text.Utf8

/-!
The syntax of a JSON text as a tree. A text with a syntax error has a tree too, broken where reading
stopped: whoever reads the tree in order meets the faults of its values first and the break last.
-/
namespace LinkShot.Json

open Text (Bytes)

/-- A part of a string literal: a byte as it stands, a character escaped by one letter, or a UTF-16
unit escaped by four digits. -/
inductive Piece where
  | raw (b : UInt8)
  | escaped (b : UInt8)
  | unit (u : Nat)
  deriving DecidableEq, Repr

inductive StringEnd where
  | closed
  | missing
  | badEscape
  | badDigits
  | control
  deriving DecidableEq, Repr

structure Literal where
  pieces : List Piece
  ending : StringEnd
  deriving DecidableEq, Repr

/-- Where a syntax error was met. -/
inductive Break where
  | noValue
  | notValue
  | word
  | number
  | numberEnd
  | listEnd
  | listComma
  | listCommaClose
  | objectEnd
  | objectComma
  | objectCommaClose
  | objectCommaEnd
  | keyNotString
  | noColon
  deriving DecidableEq, Repr

inductive Tree where
  | null
  | bool (b : Bool)
  | number (t : NumberText)
  | string (l : Literal)
  | array (items : List Tree) (ending : Option Break)
  | object (members : List (Literal × Tree)) (ending : Option Break)
  | broken (b : Break)
  deriving Repr, Inhabited

/-- The fault that a break is to a reader of values. -/
def Break.fault : Break → Fault
  | .noValue | .numberEnd | .objectCommaEnd => .endInValue
  | .notValue => .expectedValue
  | .word => .expectedWord
  | .number => .invalidNumber
  | .listEnd => .endInList
  | .listComma => .expectedListComma
  | .listCommaClose | .objectCommaClose => .trailingComma
  | .objectEnd => .endInObject
  | .objectComma => .expectedObjectComma
  | .keyNotString => .keyNotString
  | .noColon => .expectedColon

/-- The fault that a break is to a reader that skips a value. -/
def Break.skipFault : Break → Fault
  | .numberEnd => .invalidNumber
  | .listCommaClose => .expectedValue
  | .objectCommaClose => .keyNotString
  | .objectCommaEnd => .endInObject
  | b => b.fault

def StringEnd.fault? : StringEnd → Option Fault
  | .closed => none
  | .missing => some .endInString
  | .badEscape | .badDigits => some .invalidEscape
  | .control => some .controlCharacter

def isLeadSurrogate (u : Nat) : Bool := 0xD800 ≤ u && u ≤ 0xDBFF
def isTailSurrogate (u : Nat) : Bool := 0xDC00 ≤ u && u ≤ 0xDFFF

/-- The bytes that pieces denote; surrogates are required to come in pairs. -/
def Literal.bytesFrom (ending : StringEnd) : List Piece → Except Fault Bytes
  | [] => match ending.fault? with
    | none => .ok []
    | some f => .error f
  | .raw b :: rest => (bytesFrom ending rest).map (b :: ·)
  | .escaped b :: rest => (bytesFrom ending rest).map (b :: ·)
  | .unit u :: rest =>
    if isTailSurrogate u then .error .loneSurrogate
    else if isLeadSurrogate u then
      match rest with
      | [] => match ending with
        | .missing => .error .endInString
        | .badDigits => .error .invalidEscape
        | _ => .error .unpairedSurrogate
      | .unit v :: rest =>
        if isTailSurrogate v then
          let c := Char.ofNat (0x10000 + (u - 0xD800) * 0x400 + (v - 0xDC00))
          (bytesFrom ending rest).map (String.utf8EncodeChar c ++ ·)
        else .error .loneSurrogate
      | _ => .error .unpairedSurrogate
    else (bytesFrom ending rest).map (String.utf8EncodeChar (Char.ofNat u) ++ ·)

def Literal.text (l : Literal) : Except Fault String :=
  match Literal.bytesFrom l.ending l.pieces with
  | .error f => .error f
  | .ok bytes => match Text.decode? bytes with
    | some s => .ok s
    | none => .error .invalidUtf8

def Literal.skip (l : Literal) : Except Fault Unit :=
  match l.ending.fault? with
  | none => .ok ()
  | some f => .error f

def skipEnd : Option Break → Except Fault Unit
  | none => .ok ()
  | some b => .error b.skipFault

mutual

/-- The first fault met when the value is passed over: syntax only, so that neither numbers nor
surrogates nor nesting are judged. -/
def Tree.skip : Tree → Except Fault Unit
  | .null | .bool _ | .number _ => .ok ()
  | .string l => l.skip
  | .array items ending => do skipItems items; skipEnd ending
  | .object members ending => do skipMembers members; skipEnd ending
  | .broken b => .error b.skipFault

def skipItems : List Tree → Except Fault Unit
  | [] => .ok ()
  | item :: rest => do item.skip; skipItems rest

def skipMembers : List (Literal × Tree) → Except Fault Unit
  | [] => .ok ()
  | (key, value) :: rest => do key.skip; value.skip; skipMembers rest

end

end LinkShot.Json

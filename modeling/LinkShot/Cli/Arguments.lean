import LinkShot.Cli.Error

/-!
Reading the command line. A value may be joined to its option or stand behind it; one that stands
behind is checked only when the next option is read, so that an unknown argument is found before it.
-/
namespace LinkShot.Cli

open Capture (Mode)

/-- What a command line asks for. -/
structure Arguments where
  daemon : Bool
  list : Bool
  run : Option String
  capture : Option Mode
  folder : Option String
  deriving DecidableEq, Repr

/-- Why a command line starts nothing. Help and the version are long behind two dashes. -/
inductive Stop where
  | help (long : Bool)
  | version (long : Bool)
  | error (e : Error)
  deriving DecidableEq, Repr

namespace Arguments

def none : Arguments := ⟨false, false, .none, .none, .none⟩

/-- Modes are spelled as they are listed. -/
def mode (value : String) : Except Stop Mode :=
  match Mode.all.find? (·.word == value) with
  | some mode => .ok mode
  | .none =>
    .error (.error (if value = "" then .missingValue .capture else .invalidValue value .capture))

/-- Stores the value of an option; the options that take none have no value. -/
def store (given : Arguments) (switch : Switch) (value : String) : Except Stop Arguments :=
  match switch with
  | .run =>
    if given.run.isSome then .error (.error (.repeated switch))
    else .ok { given with run := some value }
  | .capture =>
    if given.capture.isSome then .error (.error (.repeated switch))
    else (mode value).map fun mode => { given with capture := some mode }
  | .folder =>
    if given.folder.isSome then .error (.error (.repeated switch))
    else if value = "" then .error (.error (.missingValue switch))
    else .ok { given with folder := some value }
  | .daemon | .list | .help | .version => .error (.error (.unexpectedValue value switch))

/-- Stores an option without a value. -/
def mark (given : Arguments) (switch : Switch) (long : Bool) : Except Stop Arguments :=
  match switch with
  | .daemon =>
    if given.daemon then .error (.error (.repeated switch)) else .ok { given with daemon := true }
  | .list =>
    if given.list then .error (.error (.repeated switch)) else .ok { given with list := true }
  | .help => .error (.help long)
  | .version => .error (.version long)
  | .run | .capture | .folder => .error (.error (.missingValue switch))

end Arguments

/-- An option whose value stands behind it, with the value once that is read. -/
structure Pending where
  switch : Switch
  value : Option String

structure Reading where
  given : Arguments
  pending : Option Pending

namespace Reading

/-- Stores the option that waits. -/
def settle (r : Reading) : Except Stop Arguments :=
  match r.pending with
  | none => .ok r.given
  | some ⟨switch, none⟩ => .error (.error (.missingValue switch))
  | some ⟨switch, some value⟩ => r.given.store switch value

def mark (r : Reading) (switch : Switch) (long : Bool) : Except Stop Reading := do
  return ⟨← (← r.settle).mark switch long, none⟩

/-- An option that takes a value, with the value if it is joined to it. -/
def valued (r : Reading) (switch : Switch) (joined : Option (List Char)) : Except Stop Reading := do
  let given ← r.settle
  match joined with
  | some value => return ⟨← given.store switch (String.ofList value), none⟩
  | none => return ⟨given, some ⟨switch, none⟩⟩

/-- The text behind two dashes: a name, and perhaps `=` and a value. -/
def word (r : Reading) (text : List Char) : Except Stop Reading :=
  let name := text.takeWhile (· ≠ '=')
  let joined := match text.dropWhile (· ≠ '=') with
    | _ :: value => some value
    | [] => none
  match Switch.ofName? name with
  | none => .error (.error (.unknown (String.ofList ('-' :: '-' :: name))))
  | some switch =>
    if switch.takesValue then r.valued switch joined
    else match joined with
      | some value => .error (.error (.unexpectedValue (String.ofList value) switch))
      | none => r.mark switch true

/-- The letters behind one dash. What follows an option that takes a value is its value. -/
def letters (r : Reading) : List Char → Except Stop Reading
  | [] => .ok r
  | letter :: rest =>
    match Switch.ofLetter? letter with
    | none => .error (.error (.unknown (String.ofList ['-', letter])))
    | some switch =>
      if switch.takesValue then
        r.valued switch (match rest with
          | [] => none
          | '=' :: value => some value
          | value => some value)
      else do (← r.mark switch false).letters rest

/-- A word that is no option is the value of the option before it. -/
def plain (r : Reading) (argument : String) : Except Stop Reading :=
  match r.pending with
  | some ⟨switch, none⟩ => .ok { r with pending := some ⟨switch, some argument⟩ }
  | some ⟨_, some _⟩ | none => .error (.error (.unknown argument))

/-- Behind two dashes alone there are no options. -/
def all (r : Reading) : List String → Except Stop Arguments
  | [] => r.settle
  | argument :: rest =>
    match argument.toList with
    | ['-', '-'] => match rest with
      | [] => r.settle
      | first :: _ => .error (.error (.unknown first))
    | '-' :: '-' :: text => do (← r.word text).all rest
    | '-' :: letter :: more => do (← r.letters (letter :: more)).all rest
    | _ => do (← r.plain argument).all rest

end Reading

/-- A capture mode is of use to a run only. -/
def parse (arguments : List String) : Except Stop Arguments := do
  let given ← Reading.all ⟨.none, none⟩ arguments
  if given.capture.isSome && given.run.isNone then throw (.error .missingRun)
  return given

end LinkShot.Cli

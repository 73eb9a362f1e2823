import LinkShot.Capture.Mode

/-! The options of the command line. -/
namespace LinkShot.Cli

inductive Switch where
  | daemon
  | list
  | run
  | capture
  | folder
  | help
  | version
  deriving DecidableEq, Repr

namespace Switch

/-- All options, in the order of the help text. -/
def all : List Switch := [.daemon, .list, .run, .capture, .folder, .help, .version]

/-- The name behind two dashes. -/
def name : Switch → String
  | .daemon => "daemon"
  | .list => "list"
  | .run => "run"
  | .capture => "capture"
  | .folder => "providers-dir"
  | .help => "help"
  | .version => "version"

/-- The letter behind one dash. -/
def letter? : Switch → Option Char
  | .daemon => some 'd'
  | .list => some 'l'
  | .run => some 'r'
  | .capture => some 'c'
  | .folder => none
  | .help => some 'h'
  | .version => some 'V'

/-- What stands for the value of an option that takes one. -/
def valueName? : Switch → Option String
  | .run => some "NAME"
  | .capture => some "MODE"
  | .folder => some "DIR"
  | .daemon | .list | .help | .version => none

def takesValue (s : Switch) : Bool := s.valueName?.isSome

/-- The option as messages name it. -/
def text (s : Switch) : String :=
  "--" ++ s.name ++ match s.valueName? with
    | some value => " <" ++ value ++ ">"
    | none => ""

def ofName? (name : List Char) : Option Switch := all.find? fun s => s.name.toList == name

def ofLetter? (letter : Char) : Option Switch := all.find? fun s => s.letter? == some letter

end Switch
end LinkShot.Cli

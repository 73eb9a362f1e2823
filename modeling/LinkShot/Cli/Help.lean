import LinkShot.Cli.Switch
import LinkShot.Version

/-! The texts that explain the command line. -/
namespace LinkShot.Cli

open Capture (Mode)

def program : String := "wayshare"

def about : String := "Screenshot and link sharing through configurable web providers"

def unlines (lines : List String) : String := String.join (lines.map (· ++ "\n"))

/-- A text with blanks behind it up to a width. -/
def paddedRight (width : Nat) (text : String) : String :=
  text ++ String.ofList (List.replicate (width - text.length) ' ')

namespace Switch

def explanation (long : Bool) : Switch → String
  | .daemon => "Run as daemon (system tray menu, SIGUSR1 runs the hotkey provider)"
  | .list => "List loaded providers and exit"
  | .run => "Run a single provider by name and print its result"
  | .capture => "Screenshot mode for upload providers run with --run"
  | .folder => "Read provider definitions from this directory instead of the configured one"
  | .help =>
    if long then "Print help (see a summary with '-h')" else "Print help (see more with '--help')"
  | .version => "Print version"

/-- The values that an option may have, with what each means. -/
def values : Switch → List (String × String)
  | .capture => Mode.all.map fun mode => (mode.word, mode.description)
  | .daemon | .list | .run | .folder | .help | .version => []

/-- The letter and the name of an option. -/
def spelling (s : Switch) : String :=
  (match s.letter? with
    | some letter => String.ofList ['-', letter, ',', ' ']
    | none => "    ") ++ s.text

/-- One line for an option, the explanations below one another. -/
def shortHelp (width : Nat) (s : Switch) : String :=
  "  " ++ paddedRight width s.spelling ++ "  " ++ s.explanation false ++
    (if s.values.isEmpty then ""
    else " [possible values: " ++ ", ".intercalate (s.values.map (·.1)) ++ "]")

/-- The values of an option, one to a line. -/
def valueLines (s : Switch) : List String :=
  if s.values.isEmpty then []
  else
    let width := (s.values.map (·.1.length)).foldl max 0 + 2
    ["", "Possible values:"] ++ s.values.map fun (value, meaning) =>
      "- " ++ paddedRight width (value ++ ":") ++ meaning

def indented (line : String) : String := if line = "" then "" else "          " ++ line

/-- The lines of an option. -/
def longHelp (s : Switch) : List String :=
  ("  " ++ s.spelling) :: (s.explanation true :: s.valueLines).map indented

end Switch

def optionLines (long : Bool) : List String :=
  if long then ((Switch.all.map Switch.longHelp).intersperse [""]).flatten
  else
    let width := (Switch.all.map (·.spelling.length)).foldl max 0
    Switch.all.map (·.shortHelp width)

def helpText (long : Bool) : String :=
  unlines ([about, "", "Usage: " ++ program ++ " [OPTIONS]", "", "Options:"] ++ optionLines long)

/-- The long form names the build, which is not known. -/
def versionText (long : Bool) : String :=
  program ++ " " ++ version ++ (if long then " (unknown)" else "") ++ "\n"

/-- What is told when nothing is asked for. -/
def usageText (providersFolder : String) : String :=
  unlines
    [program ++ ": " ++ about,
      "",
      "Usage:",
      "  " ++ program ++ " --daemon                 Run the tray menu in the background",
      "  " ++ program ++ " --list                   List loaded providers",
      "  " ++ program ++ " --run NAME [--capture M] Run one provider and print the result",
      "  " ++ program ++ " --help                   Show help",
      "",
      "Providers are JSON files read from:",
      "  " ++ providersFolder,
      "",
      "Hotkey (Hyprland):",
      "  1. Set [daemon] hotkey_provider in ~/.config/wayshare/config.toml",
      "  2. bind = SUPER SHIFT, S, exec, pkill -SIGUSR1 wayshare"]

end LinkShot.Cli

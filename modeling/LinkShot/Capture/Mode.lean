/-! Which part of the screen a screenshot shows. -/
namespace LinkShot.Capture

inductive Mode where
  | full
  | region
  | window
  deriving DecidableEq, Repr

namespace Mode

/-- All modes, in menu order. -/
def all : List Mode := [.full, .region, .window]

def menuLabel : Mode → String
  | .full => "Full Screenshot"
  | .region => "Region Screenshot"
  | .window => "Window Screenshot"

/-- The word for a mode in settings and on the command line. -/
def word : Mode → String
  | .full => "full"
  | .region => "region"
  | .window => "window"

def description : Mode → String
  | .full => "Every output"
  | .region => "A rectangle selected with the pointer"
  | .window => "The focused window"

/-- The mode that a setting names, in letters of either case. -/
def ofWord? (text : String) : Option Mode :=
  all.find? (fun mode => mode.word.toList == text.toList.map Char.toLower)

/-- The mode of a setting, the whole screen if it names none. -/
def ofSetting (setting : Option String) : Mode := (setting.bind ofWord?).getD .full

end Mode
end LinkShot.Capture

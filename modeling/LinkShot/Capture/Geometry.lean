import LinkShot.Binary64
import LinkShot.Capture.Error
import LinkShot.Json.Path

/-!
Rectangles on the screen. A window's rectangle is in units that a monitor's scale turns into pixels;
the grabber takes whole numbers.
-/
namespace LinkShot.Capture

open Json (Value)

/-- Screen coordinates; nothing stands for a number that is too large for one. -/
abbrev Coordinate := Option Binary64

/-- The sign decides which end of the range a coordinate that is too large is moved to. -/
structure Scaled where
  negative : Bool
  value : Coordinate
  deriving DecidableEq, Repr

/-- The window's position and its size, both of which are positive. -/
structure Geometry where
  x : Binary64
  y : Binary64
  width : Binary64
  height : Binary64
  deriving DecidableEq, Repr

def scale (x factor : Binary64) : Scaled :=
  if factor.isNearOne then ⟨x.negative, some x⟩
  else ⟨x.negative != factor.negative, x.mul factor⟩

/-- Rounds to the nearest whole number in a range, a half away from zero. -/
def wholeIn (low high : Int) (s : Scaled) : Int :=
  match s.value with
  | some x => max low (min high x.roundAway)
  | none => if s.negative then low else high

/-- Positions are signed and sizes unsigned numbers of 32 bits. -/
def positionText (s : Scaled) : String := toString (wholeIn (-2147483648) 2147483647 s)

def sizeText (s : Scaled) : String := toString (wholeIn 0 4294967295 s)

namespace Geometry

/-- The rectangle in pixels, as the grabber takes it. -/
def text (g : Geometry) (factor : Binary64) : String :=
  positionText (scale g.x factor) ++ "," ++ positionText (scale g.y factor) ++ " "
    ++ sizeText (scale g.width factor) ++ "x" ++ sizeText (scale g.height factor)

def real? (v : Value) : Option Binary64 := v.asNumber?.map Json.Number.toReal

/-- The first two items of a list of numbers. -/
def pair (window : Value) (key : String) : Except Error (Binary64 × Binary64) :=
  match (window.get? key).bind Value.asList? with
  | none => .error (.invalidResponse ("Missing '" ++ key ++ "' for active window"))
  | some items =>
    match (items[0]?).bind real?, (items[1]?).bind real? with
    | some a, some b => .ok (a, b)
    | _, _ => .error (.invalidResponse ("Invalid '" ++ key ++ "' for active window"))

/-- The rectangle of a window as the window manager describes it. -/
def ofWindow (window : Value) : Except Error Geometry := do
  let (x, y) ← pair window "at"
  let (width, height) ← pair window "size"
  if width.isPositive && height.isPositive then return ⟨x, y, width, height⟩
  else .error (.invalidResponse "Active window has non-positive dimensions")

end Geometry

def int64? (v : Value) : Option Int := v.asNumber?.bind Json.Number.toInt64?

/-- The number of the monitor that a window is on. -/
def monitorOf (window : Value) : Option Int := (window.get? "monitor").bind int64?

/-- The scale of a monitor in a list of monitors. -/
def scaleOf (monitors : Value) (monitor : Int) : Option Binary64 := do
  let found ← (← monitors.asList?).find? fun m => (m.get? "id").bind int64? == some monitor
  Geometry.real? (← found.get? "scale")

end LinkShot.Capture

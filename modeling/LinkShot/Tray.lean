import LinkShot.Registry
import LinkShot.Version

/-! How the tray item presents itself: texts, and an icon of a camera. -/
namespace LinkShot

namespace Tray

def id : String := "wayshare"

def title : String := "Wayshare"

def iconName : String := "camera-photo"

def tipTitle : String := title ++ " " ++ version

def tip (r : Registry) : String := toString r.size ++ " provider(s) loaded"

def category : String := "ApplicationStatus"

def status : String := "Active"

/-- A colour with its opacity. -/
structure Pixel where
  alpha : UInt8
  red : UInt8
  green : UInt8
  blue : UInt8
  deriving DecidableEq, Repr

def iconSize : Nat := 22

/-- A lens in a ring, around it the body, and above the body a finder. -/
def pixel (x y : Nat) : Pixel :=
  let dx : Int := x - 11
  let dy : Int := y - 12
  let distance := dx * dx + dy * dy
  if distance ≤ 9 then ⟨255, 90, 170, 255⟩
  else if distance ≤ 20 then ⟨255, 40, 40, 40⟩
  else if 2 ≤ x ∧ x ≤ 19 ∧ 6 ≤ y ∧ y ≤ 18 then ⟨255, 200, 200, 200⟩
  else if 7 ≤ x ∧ x ≤ 14 ∧ 3 ≤ y ∧ y ≤ 5 then ⟨255, 160, 160, 160⟩
  else ⟨0, 0, 0, 0⟩

/-- The icon from top to bottom and from left to right. -/
def icon : List (List Pixel) :=
  (List.range iconSize).map fun y => (List.range iconSize).map fun x => pixel x y

end Tray
end LinkShot

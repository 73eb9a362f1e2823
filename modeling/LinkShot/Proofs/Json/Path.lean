import LinkShot.Json.Path
import Mathlib.Data.List.Infix

/-! Where a walk along keys ends. -/
namespace LinkShot.Json.Value

variable {v w : Value} {key : List Char} {keys walked : List (List Char)}

/-- The value that a path leads to, step after step. -/
def at? (v : Value) (keys : List (List Char)) : Option Value := keys.foldlM step? v

/-- The shortest beginning of a path that leads nowhere. -/
def lost? (v : Value) (keys : List (List Char)) : Option (List (List Char)) :=
  keys.inits.find? fun taken => (v.at? taken).isNone

@[simp] theorem at?_nil : v.at? [] = some v := rfl

@[simp] theorem at?_cons : v.at? (key :: keys) = (v.step? key).bind (·.at? keys) := rfl

theorem lost?_cons : v.lost? (key :: keys) = match v.step? key with
    | some w => (w.lost? keys).map (key :: ·)
    | none => some [key] := by
  rw [lost?, List.inits_cons, List.find?_cons_of_neg (by simp), List.find?_map]
  cases h : v.step? key with
  | some w =>
    have hstep : (fun taken => (v.at? taken).isNone) ∘ (key :: ·) =
        fun taken => (w.at? taken).isNone := by
      funext taken
      rw [Function.comp_apply, at?_cons, h, Option.bind_some]
    rw [hstep]
    rfl
  | none => cases keys <;> simp [h]

theorem walk_eq : v.walk walked keys = match v.at? keys with
    | some w => .ok w
    | none => .error (walked ++ (v.lost? keys).getD keys) := by
  induction keys generalizing v walked with
  | nil => rfl
  | cons key keys ih =>
    cases h : v.step? key with
    | some w =>
      cases hw : w.at? keys <;> simp [walk, h, ih, hw, lost?_cons]
    | none => simp [walk, h, lost?_cons]

end LinkShot.Json.Value

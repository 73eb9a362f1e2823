/-! Reading unsigned 64-bit numbers from decimal text. -/
namespace LinkShot.Text

def digitValue (c : Char) : Nat := c.toNat - '0'.toNat

/-- The value of a run of decimal digits, or nothing if another character is among them. -/
def digits? (cs : List Char) : Option Nat :=
  if cs.all Char.isDigit then some (cs.foldl (fun n c => 10 * n + digitValue c) 0) else none

/-- At least one digit, one `+` before them allowed, below 2^64. -/
def word64? (cs : List Char) : Option Nat :=
  let body := match cs with
    | '+' :: rest => rest
    | _ => cs
  if body.isEmpty then none
  else (digits? body).filter (· < UInt64.size)

end LinkShot.Text

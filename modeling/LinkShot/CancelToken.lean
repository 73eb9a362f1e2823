/-!
Cancel tokens. A clone shares its family's flag with the token it was made from; a waiter keeps a
clone of its own. So a family is cancelled by any of its tokens and stays cancelled when they are
dropped, and nobody waits for a flag that no one is left to set.
-/
namespace LinkShot

/-- What the tokens of a family share: the flag, and how often it has been set. -/
structure TokenFamily where
  cancelled : Bool
  version : Nat
  deriving Repr, DecidableEq

/-- A waiter looks at the flag, and if it is not set sleeps until the version has changed since it
looked. It is abandoned if it would sleep and nobody holds on to the family any more. -/
inductive WaiterPhase where
  | looking
  | sleeping (seen : Nat)
  | woken
  | abandoned
  deriving Repr, DecidableEq

structure Waiter where
  family : Nat
  phase : WaiterPhase
  deriving Repr, DecidableEq

/-- Families are numbered; each token and each waiter belongs to one, and a dropped token to
none. -/
structure TokenPool where
  families : List TokenFamily
  tokens : List (Option Nat)
  waiters : List Waiter
  deriving Repr, DecidableEq

namespace TokenPool

def freshFamily : TokenFamily := ⟨false, 0⟩

/-- One token to start with. -/
def initial : TokenPool := ⟨[freshFamily], [some 0], []⟩

/-- The family of a live token. -/
def family? (p : TokenPool) (token : Nat) : Option Nat := (p.tokens[token]?).join

def familyAt (p : TokenPool) (f : Nat) : TokenFamily := p.families.getD f freshFamily

def isCancelled (p : TokenPool) (f : Nat) : Bool := (p.familyAt f).cancelled

/-- How many hold on to a family: its live tokens, and each waiter by its clone until it is
woken. -/
def holders (p : TokenPool) (f : Nat) : Nat :=
  p.tokens.count (some f) + p.waiters.countP fun w => w.family == f && w.phase != .woken

/-- One step of a waiter. A changed version is seen before it counts who is left. -/
def advance (p : TokenPool) (w : Waiter) : Waiter :=
  let f := p.familyAt w.family
  match w.phase with
  | .looking => { w with phase := if f.cancelled then .woken else .sleeping f.version }
  | .sleeping seen =>
    if f.version ≠ seen then { w with phase := .looking }
    else if p.holders w.family = 0 then { w with phase := .abandoned }
    else w
  | .woken | .abandoned => w

/-- The waiter when it can go no further: two steps lead from a changed version to the flag. -/
def settle (p : TokenPool) (w : Waiter) : Waiter := p.advance (p.advance (p.advance w))

def settleAll (p : TokenPool) : TokenPool := { p with waiters := p.waiters.map p.settle }

def cancelFamily (p : TokenPool) (f : Nat) : TokenPool :=
  { p with families := p.families.set f ⟨true, (p.familyAt f).version + 1⟩ }

inductive Op where
  | make
  | clone (token : Nat)
  | drop (token : Nat)
  | cancel (token : Nat)
  | poll (token : Nat)
  | wait (token : Nat)
  deriving Repr, DecidableEq

inductive Answer where
  | gone
  | nothing
  | index (i : Nat)
  | ready (b : Bool)
  deriving Repr, DecidableEq

/-- What an operation answers, and the pool after it, before any waiter has moved. -/
def apply (p : TokenPool) (op : Op) : Answer × TokenPool :=
  match op with
  | .make =>
    (.index p.tokens.length,
      { p with
        families := p.families ++ [freshFamily]
        tokens := p.tokens ++ [some p.families.length] })
  | .clone token => match p.family? token with
    | none => (.gone, p)
    | some f => (.index p.tokens.length, { p with tokens := p.tokens ++ [some f] })
  | .drop token => match p.family? token with
    | none => (.gone, p)
    | some _ => (.nothing, { p with tokens := p.tokens.set token none })
  | .cancel token => match p.family? token with
    | none => (.gone, p)
    | some f => (.nothing, p.cancelFamily f)
  | .poll token => match p.family? token with
    | none => (.gone, p)
    | some f => (.ready ((p.settle ⟨f, .looking⟩).phase == .woken), p)
  | .wait token => match p.family? token with
    | none => (.gone, p)
    | some f => (.index p.waiters.length, { p with waiters := p.waiters ++ [⟨f, .looking⟩] })

/-- The flag of each live token. -/
def states (p : TokenPool) : List (Option Bool) := p.tokens.map (·.map p.isCancelled)

def woken (p : TokenPool) : List Bool := p.waiters.map (·.phase == .woken)

end TokenPool
end LinkShot

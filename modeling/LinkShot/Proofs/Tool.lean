import LinkShot.Tool

/-!
The calls that a computation makes and what comes of it. Only calls that can be started are noted,
so that the notes tell the calls that are made in their order.
-/
namespace LinkShot.Tool

variable {ε α β : Type} {x : ExceptT ε Run α} {f : α → ExceptT ε Run β}
  {handle : ε → ExceptT ε Run α} {calls calls' : List Call} {r : Except ε α} {s : Except ε β}
  {a : α} {e : ε}

/-- What comes of a call. One that cannot be started does not reach the program. -/
def answer (tools : Tools) (call : Call) : Outcome :=
  if call.canStart then tools call else .notStarted "nul byte found in provided data"

/-- The computation makes these calls and no others, in this order, and ends with this result. -/
def Makes (x : ExceptT ε Run α) (calls : List Call) (r : Except ε α) : Prop :=
  ∀ log, x.run.run log = (r, log ++ calls.filter Call.canStart)

theorem run_eq (tools : Tools) (call : Call) (log : List Call) :
    (run tools call).run log = (answer tools call, log ++ [call].filter Call.canStart) := by
  unfold run answer
  cases h : call.canStart with
  | true =>
    simp only [if_true, List.filter_cons, h, List.filter_nil]
    rfl
  | false =>
    simp only [Bool.false_eq_true, if_false, List.filter_cons, h, List.filter_nil, List.append_nil]
    rfl

theorem makes_run (tools : Tools) (call : Call) :
    Makes (liftM (run tools call) : ExceptT ε Run Outcome) [call] (.ok (answer tools call)) := by
  intro log
  rw [ExceptT.run_liftM, StateT.run_map, run_eq]
  rfl

theorem run_bind (log : List Call) : (x >>= f).run.run log = match x.run.run log with
    | (.ok a, log) => (f a).run.run log
    | (.error e, log) => (.error e, log) := by
  rw [ExceptT.run_bind, StateT.run_bind]
  rcases x.run.run log with ⟨_ | a, log⟩ <;> rfl

theorem run_tryCatch (log : List Call) : (tryCatch x handle).run.run log = match x.run.run log with
    | (.ok a, log) => (.ok a, log)
    | (.error e, log) => (handle e).run.run log := by
  rw [ExceptT.run_tryCatch, StateT.run_bind]
  rcases x.run.run log with ⟨_ | a, log⟩ <;> rfl

theorem makes_pure (a : α) : Makes (pure a : ExceptT ε Run α) [] (.ok a) := by
  intro log
  rw [List.filter_nil, List.append_nil]
  rfl

theorem makes_throw (e : ε) : Makes (throw e : ExceptT ε Run α) [] (.error e) := by
  intro log
  rw [List.filter_nil, List.append_nil]
  rfl

theorem makes_lift (r : Except ε α) : Makes (liftM r : ExceptT ε Run α) [] r := by
  intro log
  rw [List.filter_nil, List.append_nil]
  rfl

theorem makes_bind (hx : Makes x calls (.ok a)) (hf : Makes (f a) calls' s) :
    Makes (x >>= f) (calls ++ calls') s := by
  intro log
  rw [run_bind, hx log]
  dsimp only
  rw [hf, List.filter_append, List.append_assoc]

theorem makes_bind_error (hx : Makes x calls (.error e)) : Makes (x >>= f) calls (.error e) := by
  intro log
  rw [run_bind, hx log]

theorem makes_map (g : α → β) (hx : Makes x calls r) :
    Makes (x >>= fun a => pure (g a)) calls (r.map g) := by
  cases r with
  | error e => exact makes_bind_error hx
  | ok a =>
    have hmap := makes_bind (f := fun a => pure (g a)) hx (makes_pure (g a))
    rwa [List.append_nil] at hmap

/-- A computation whose errors are replaced makes the same calls. -/
theorem makes_recover (fallback : α) (hx : Makes x calls r) :
    Makes (tryCatch x fun _ => pure fallback) calls (.ok (r.toOption.getD fallback)) := by
  intro log
  rw [run_tryCatch, hx log]
  cases r <;> rfl

end LinkShot.Tool

import LinkShot.Action.Placeholder
import Mathlib.Data.List.Infix

/-!
Replacing a token: its occurrences are taken from left to right, each beginning behind the one
before, and what is put in their places is not looked at again.
-/
namespace LinkShot.Action

variable {token new text result before after : List Char}

/-- The token occurs behind `before`, and nowhere earlier. -/
structure FirstAt (token before text : List Char) : Prop where
  here : before ++ token <+: text
  first : ∀ earlier, earlier ++ token <+: text → before.length ≤ earlier.length

inductive Replaced (token new : List Char) : List Char → List Char → Prop where
  | free {text : List Char} : ¬ token <:+: text → Replaced token new text text
  | first {before after replaced : List Char} :
      FirstAt token before (before ++ token ++ after) → Replaced token new after replaced →
      Replaced token new (before ++ token ++ after) (before ++ new ++ replaced)

theorem occurs_iff : occurs token text = true ↔ token <:+: text := by
  induction text with
  | nil => simp [occurs]
  | cons c rest ih => simp [occurs, ih, List.infix_cons_iff]

theorem exists_firstAt (h : token <:+: text) : ∃ before, FirstAt token before text := by
  induction text with
  | nil =>
    obtain rfl := List.infix_nil.mp h
    exact ⟨[], by simp, by simp⟩
  | cons c rest ih =>
    by_cases hp : token <+: c :: rest
    · exact ⟨[], hp, by simp⟩
    · obtain ⟨before, hf⟩ := ih ((List.infix_cons_iff.mp h).resolve_left hp)
      refine ⟨c :: before, by simpa using hf.here, ?_⟩
      intro earlier he
      cases earlier with
      | nil => exact absurd he hp
      | cons d earlier =>
        have := hf.first earlier (List.cons_prefix_cons.mp he).2
        simpa using this

theorem firstAt_of_cons (h : FirstAt token (c :: before) (c :: text)) :
    FirstAt token before text := by
  refine ⟨(List.cons_prefix_cons.mp h.here).2, fun earlier he => ?_⟩
  have hlen := h.first (c :: earlier) (List.cons_prefix_cons.mpr ⟨rfl, he⟩)
  simpa using hlen

/-- The characters left of an occurrence are passed by. -/
theorem replaceFrom_passes (passed : List Char) :
    replaceFrom token new passed.length (passed ++ after) = replaceFrom token new 0 after := by
  induction passed with
  | nil => rfl
  | cons c passed ih => exact ih

theorem replaceFrom_free (h : ¬ token <:+: text) : replaceFrom token new 0 text = text := by
  induction text with
  | nil => rfl
  | cons c rest ih =>
    rw [List.infix_cons_iff, not_or] at h
    rw [replaceFrom, if_neg (by simpa using h.1), ih h.2]

theorem replaceFrom_token (hne : token ≠ []) :
    replaceFrom token new 0 (token ++ after) = new ++ replaceFrom token new 0 after := by
  obtain ⟨c, tail, rfl⟩ := List.exists_cons_of_ne_nil hne
  have hp : (c :: tail).isPrefixOf (c :: (tail ++ after)) = true :=
    List.isPrefixOf_iff_prefix.mpr (List.prefix_append (c :: tail) after)
  rw [List.cons_append, replaceFrom, if_pos hp]
  exact congrArg (new ++ ·) (replaceFrom_passes tail)

theorem replaceFrom_first (hne : token ≠ []) (h : FirstAt token before (before ++ token ++ after)) :
    replaceFrom token new 0 (before ++ token ++ after) =
      before ++ new ++ replaceFrom token new 0 after := by
  induction before with
  | nil => simpa using replaceFrom_token hne
  | cons c before ih =>
    have hp : ¬ token.isPrefixOf (c :: (before ++ token ++ after)) = true := by
      intro hp
      have hlen := h.first [] (List.isPrefixOf_iff_prefix.mp hp)
      simp at hlen
    have hrest := ih (firstAt_of_cons h)
    simp only [List.cons_append, replaceFrom, if_neg hp, hrest]

theorem replaceFrom_of_replaced (hne : token ≠ []) (h : Replaced token new text result) :
    replaceFrom token new 0 text = result := by
  induction h with
  | free hn => exact replaceFrom_free hn
  | first hf _ ih => rw [replaceFrom_first hne hf, ih]

theorem exists_replaced (hne : token ≠ []) (new text : List Char) :
    ∃ result, Replaced token new text result := by
  by_cases hi : token <:+: text
  · obtain ⟨before, hf⟩ := exists_firstAt hi
    obtain ⟨after, rfl⟩ := hf.here
    -- what is behind the occurrence is shorter, as the token is not empty
    have hlen : after.length < (before ++ token ++ after).length := by
      have := List.length_pos_of_ne_nil hne
      simp only [List.length_append]
      omega
    obtain ⟨replaced, hr⟩ := exists_replaced hne new after
    exact ⟨_, .first hf hr⟩
  · exact ⟨text, .free hi⟩
termination_by text.length

theorem replaced_iff (hne : token ≠ []) :
    Replaced token new text result ↔ replaceFrom token new 0 text = result := by
  refine ⟨replaceFrom_of_replaced hne, ?_⟩
  rintro rfl
  obtain ⟨result, hr⟩ := exists_replaced hne new text
  rwa [replaceFrom_of_replaced hne hr]

end LinkShot.Action

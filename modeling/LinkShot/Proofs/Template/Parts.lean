import LinkShot.Template.Reference
import Mathlib.Data.List.Basic

/-!
The parts of a token: what is left of its text when it is cut at every separator, so that each part
is found again however the parts are put together.
-/
namespace LinkShot.Template

variable {c : Char} {before body after gap part rest text xs ys : List Char}
  {ps : List (List Char)}

/-- A text that no separator cuts. -/
structure IsPart (part : List Char) : Prop where
  ne_nil : part ≠ []
  no_colon : ':' ∉ part
  no_comma : ',' ∉ part

/-- Separators only, or nothing. -/
def IsRun (gap : List Char) : Prop := ∀ c ∈ gap, c = ':' ∨ c = ','

/-- Parts in a row, with a run of separators between every two of them. -/
inductive Spaced : List (List Char) → List Char → Prop where
  | nil : Spaced [] []
  | one {part : List Char} : IsPart part → Spaced [part] part
  | cons {part gap next text : List Char} {ps : List (List Char)} :
      IsPart part → IsRun gap → gap ≠ [] → Spaced (next :: ps) text →
      Spaced (part :: next :: ps) (part ++ gap ++ text)

/-- Parts in a row that more separators may stand before and behind. -/
inductive Joined (ps : List (List Char)) : List Char → Prop where
  | intro {before body after : List Char} :
      IsRun before → Spaced ps body → IsRun after → Joined ps (before ++ body ++ after)

theorem isSeparator_iff : isSeparator c = true ↔ c = ':' ∨ c = ',' := by simp [isSeparator]

theorem isPart_iff : IsPart part ↔ part ≠ [] ∧ ∀ c ∈ part, isSeparator c = false := by
  constructor
  · intro h
    refine ⟨h.ne_nil, fun c hc => ?_⟩
    rw [Bool.eq_false_iff, ne_eq, isSeparator_iff]
    rintro (rfl | rfl)
    · exact h.no_colon hc
    · exact h.no_comma hc
  · rintro ⟨hne, h⟩
    exact ⟨hne, fun hc => absurd (h _ hc) (by decide), fun hc => absurd (h _ hc) (by decide)⟩

theorem isRun_nil : IsRun [] := fun _ hc => absurd hc List.not_mem_nil

theorem isRun_cons (hc : isSeparator c = true) (h : IsRun gap) : IsRun (c :: gap) :=
  List.forall_mem_cons.mpr ⟨isSeparator_iff.mp hc, h⟩

theorem partsFrom_part (h : ∀ c ∈ xs, isSeparator c = false) :
    partsFrom part (xs ++ rest) = partsFrom (xs.reverse ++ part) rest := by
  induction xs generalizing part with
  | nil => rfl
  | cons c xs ih =>
    obtain ⟨hc, hxs⟩ := List.forall_mem_cons.mp h
    rw [List.cons_append, partsFrom, hc, if_neg Bool.false_ne_true, ih hxs, List.reverse_cons,
      List.append_assoc, List.singleton_append]

theorem partsFrom_append (hc : isSeparator c = true) :
    partsFrom part (xs ++ c :: ys) = partsFrom part xs ++ parts ys := by
  induction xs generalizing part with
  | nil => by_cases hp : part = [] <;> simp [partsFrom, parts, hc, hp]
  | cons d xs ih =>
    rw [List.cons_append, partsFrom, partsFrom]
    split_ifs with hd hp
    · exact ih
    · rw [ih, List.cons_append]
    · exact ih

/-- A separator cuts: nothing that stands before it is in one part with what follows. -/
theorem parts_append (hc : isSeparator c = true) : parts (xs ++ c :: ys) = parts xs ++ parts ys :=
  partsFrom_append hc

theorem parts_part (h : IsPart part) : parts part = [part] := by
  have hone : partsFrom [] (part ++ []) = partsFrom (part.reverse ++ []) [] :=
    partsFrom_part (isPart_iff.mp h).2
  simpa [parts, partsFrom, h.ne_nil] using hone

theorem parts_run_append (h : IsRun gap) : parts (gap ++ text) = parts text := by
  induction gap with
  | nil => rfl
  | cons c gap ih =>
    obtain ⟨hc, hgap⟩ := List.forall_mem_cons.mp h
    have hcut : parts ([] ++ c :: (gap ++ text)) = parts [] ++ parts (gap ++ text) :=
      parts_append (isSeparator_iff.mpr hc)
    exact hcut.trans (ih hgap)

theorem parts_run (h : IsRun gap) : parts gap = [] := by
  have hgap : parts (gap ++ []) = parts [] := parts_run_append h
  rwa [List.append_nil] at hgap

theorem parts_append_run (h : IsRun gap) : parts (text ++ gap) = parts text := by
  cases gap with
  | nil => rw [List.append_nil]
  | cons c gap =>
    obtain ⟨hc, hgap⟩ := List.forall_mem_cons.mp h
    rw [parts_append (isSeparator_iff.mpr hc), parts_run hgap, List.append_nil]

theorem parts_between (h : IsRun gap) (hne : gap ≠ []) :
    parts (xs ++ gap ++ ys) = parts xs ++ parts ys := by
  cases gap with
  | nil => exact absurd rfl hne
  | cons c gap =>
    obtain ⟨hc, hgap⟩ := List.forall_mem_cons.mp h
    rw [List.append_assoc, List.cons_append, parts_append (isSeparator_iff.mpr hc),
      parts_run_append hgap]

theorem parts_of_spaced (h : Spaced ps text) : parts text = ps := by
  induction h with
  | nil => rfl
  | one hpart => exact parts_part hpart
  | cons hpart hgap hne _ ih =>
    rw [parts_between hgap hne, parts_part hpart, ih, List.singleton_append]

theorem parts_of_joined (h : Joined ps text) : parts text = ps := by
  obtain ⟨hbefore, hbody, hafter⟩ := h
  rw [List.append_assoc, parts_run_append hbefore, parts_append_run hafter, parts_of_spaced hbody]

theorem joined_separator (hc : isSeparator c = true) (h : Joined ps text) :
    Joined ps (c :: text) := by
  obtain ⟨hbefore, hbody, hafter⟩ := h
  exact .intro (isRun_cons hc hbefore) hbody hafter

theorem joined_of_spaced (h : Spaced ps text) : Joined ps text := by
  have hall : Joined ps ([] ++ text ++ []) := .intro isRun_nil h isRun_nil
  rwa [List.append_nil] at hall

/-- The run before a first part stands behind the part that is put in front of it. -/
theorem joined_cons (h : IsPart part) (hc : isSeparator c = true) (hj : Joined ps text) :
    Joined (part :: ps) (part ++ c :: text) := by
  obtain @⟨before, body, after, hbefore, hbody, hafter⟩ := hj
  have hgap : IsRun (c :: before) := isRun_cons hc hbefore
  cases ps with
  | nil =>
    cases hbody
    have hrun : IsRun (c :: before ++ after) := List.forall_mem_append.mpr ⟨hgap, hafter⟩
    simpa using Joined.intro isRun_nil (.one h) hrun
  | cons next ps =>
    simpa using Joined.intro isRun_nil (.cons h hgap (List.cons_ne_nil c before) hbody) hafter

theorem isPart_reverse (hne : ¬part.isEmpty = true) (h : ∀ c ∈ part, isSeparator c = false) :
    IsPart part.reverse := by
  refine isPart_iff.mpr ⟨fun hnil => hne ?_, fun c hc => h c (List.mem_reverse.mp hc)⟩
  rw [List.reverse_eq_nil_iff.mp hnil, List.isEmpty_nil]

/-- With a part begun, the parts that are read are those of the part and the rest together. -/
theorem joined_partsFrom (h : ∀ c ∈ part, isSeparator c = false) :
    Joined (partsFrom part text) (part.reverse ++ text) := by
  have hnone : ∀ c ∈ ([] : List Char), isSeparator c = false :=
    fun _ hc => absurd hc List.not_mem_nil
  -- a text ends or a separator comes, each with a part begun or with none, or the part goes on
  fun_induction partsFrom part text with
  | case1 part he =>
    cases List.isEmpty_iff.mp he
    exact joined_of_spaced .nil
  | case2 part he =>
    rw [List.append_nil]
    exact joined_of_spaced (.one (isPart_reverse he h))
  | case3 part c text hc he ih =>
    cases List.isEmpty_iff.mp he
    exact joined_separator hc (ih hnone)
  | case4 part c text hc he ih => exact joined_cons (isPart_reverse he h) hc (ih hnone)
  | case5 part c text hc ih =>
    have hrest := ih (List.forall_mem_cons.mpr ⟨Bool.eq_false_iff.mpr hc, h⟩)
    rwa [List.reverse_cons, List.append_assoc, List.singleton_append] at hrest

/-- The parts of a text are those that it is joined of, and no others. -/
theorem joined_iff : Joined ps text ↔ parts text = ps := by
  constructor
  · exact parts_of_joined
  · rintro rfl
    exact joined_partsFrom fun _ hc => absurd hc List.not_mem_nil

example : parts ":a,,b:".toList = [['a'], ['b']] := rfl

theorem spaced_intercalate (h : ∀ part ∈ ps, IsPart part) : Spaced ps ([','].intercalate ps) := by
  induction ps with
  | nil => exact .nil
  | cons part ps ih =>
    obtain ⟨hpart, hps⟩ := List.forall_mem_cons.mp h
    cases ps with
    | nil =>
      rw [List.intercalate_singleton]
      exact .one hpart
    | cons next ps =>
      have hcomma : IsRun [','] := isRun_cons rfl isRun_nil
      rw [List.intercalate_cons_cons]
      exact .cons hpart hcomma (List.cons_ne_nil _ _) (ih hps)

instance : Decidable (Joined ps text) := decidable_of_iff _ joined_iff.symm

end LinkShot.Template

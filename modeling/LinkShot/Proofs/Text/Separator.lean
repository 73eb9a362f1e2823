import Mathlib.Data.List.Infix

/-!
Texts cut at a mark, or at a separator that begins with its only mark: such a separator never
overlaps itself, so its places do not depend on where the search begins.
-/
namespace LinkShot.Text

variable {α : Type} [DecidableEq α] {mark c : α} {tail xs ys zs : List α} {parts : List (List α)}

theorem first_mark (mark : α) (xs : List α) :
    mark ∉ xs ∨ ∃ before after, xs = before ++ mark :: after ∧ mark ∉ before := by
  by_cases h : mark ∈ xs
  · exact .inr (List.eq_append_cons_of_mem h)
  · exact .inl h

theorem takeWhile_mark (h : mark ∉ xs) : (xs ++ mark :: ys).takeWhile (· ≠ mark) = xs := by
  rw [List.takeWhile_append_of_pos (by grind)]
  simp

theorem dropWhile_mark (h : mark ∉ xs) :
    (xs ++ mark :: ys).dropWhile (· ≠ mark) = mark :: ys := by
  rw [List.dropWhile_append_of_pos (by grind)]
  simp

theorem dropWhile_no_mark (h : mark ∉ xs) : xs.dropWhile (· ≠ mark) = [] := by
  have he : (xs ++ []).dropWhile (· ≠ mark) = [] := List.dropWhile_append_of_pos (by grind)
  rwa [List.append_nil] at he

omit [DecidableEq α] in
/-- What has no mark in it cannot reach over one. -/
theorem prefix_before_mark (h : mark ∉ xs) (hp : xs <+: ys ++ mark :: zs) : xs <+: ys := by
  rcases List.prefix_or_prefix_of_prefix hp (List.prefix_append ys (mark :: zs)) with
    h' | ⟨rest, rfl⟩
  · exact h'
  · cases rest with
    | nil => simp
    | cons c rest =>
      have hc := List.cons_prefix_cons.mp ((List.prefix_append_right_inj ys).mp hp)
      exact absurd (by simp [hc.1]) h

omit [DecidableEq α] in
theorem infix_beside_mark (h : mark ∉ xs) (hi : xs <:+: ys ++ mark :: zs) :
    xs <:+: ys ∨ xs <:+: zs := by
  induction ys with
  | nil =>
    rcases List.infix_cons_iff.mp hi with hp | hz
    · exact .inl (prefix_before_mark h hp).isInfix
    · exact .inr hz
  | cons c ys ih =>
    rcases List.infix_cons_iff.mp hi with hp | hz
    · exact .inl (prefix_before_mark h hp).isInfix
    · rcases ih hz with hy | hz
      · exact .inl (List.infix_cons hy)
      · exact .inr hz

omit [DecidableEq α] in
/-- What begins with a mark does not begin where there is none. -/
theorem infix_past (h : mark ∉ xs) (hi : mark :: tail <:+: xs ++ ys) : mark :: tail <:+: ys := by
  induction xs with
  | nil => exact hi
  | cons c xs ih =>
    rw [List.mem_cons, not_or] at h
    rcases List.infix_cons_iff.mp hi with hp | hi
    · exact absurd (List.cons_prefix_cons.mp hp).1 h.1
    · exact ih h.2 hi

/-- The parts between the places of a separator, which are sought from left to right. -/
def split (mark : α) (tail : List α) : List α → List (List α)
  | [] => [[]]
  | c :: rest =>
    if c = mark ∧ tail <+: rest then [] :: split mark tail (rest.drop tail.length)
    else (split mark tail rest).modifyHead (c :: ·)
termination_by xs => xs.length
decreasing_by
  · simp only [List.length_drop, List.length_cons]
    omega
  · exact Nat.lt_succ_self _

theorem split_ne_nil : split mark tail xs ≠ [] := by
  fun_induction split mark tail xs <;> simp_all

theorem split_of_free (h : ¬mark :: tail <:+: xs) : split mark tail xs = [xs] := by
  fun_induction split mark tail xs with
  | case1 => rfl
  | case2 c rest hs ih =>
    exact absurd (List.cons_prefix_cons.mpr ⟨hs.1.symm, hs.2⟩).isInfix h
  | case3 c rest hs ih =>
    rw [ih fun hr => h (List.infix_cons hr)]
    rfl

theorem split_append (h : mark ∉ tail) :
    split mark tail (xs ++ mark :: (tail ++ ys)) = split mark tail xs ++ split mark tail ys := by
  fun_induction split mark tail xs with
  | case1 => simp [split]
  | case2 c rest hs ih =>
    obtain ⟨hc, rest, rfl⟩ := hs
    rw [List.drop_left] at ih
    rw [List.cons_append, split, if_pos ⟨hc, by simp⟩, List.append_assoc, List.drop_left, ih,
      List.drop_left]
    rfl
  | case3 c rest hs ih =>
    have hn : ¬(c = mark ∧ tail <+: rest ++ mark :: (tail ++ ys)) :=
      fun hp => hs ⟨hp.1, prefix_before_mark h hp.2⟩
    rw [List.cons_append, split, if_neg hn, ih]
    cases hr : split mark tail rest with
    | nil => exact absurd hr split_ne_nil
    | cons part parts => rfl

theorem flatMap_split :
    (split mark tail xs).flatMap (mark :: tail ++ ·) = mark :: tail ++ xs := by
  fun_induction split mark tail xs with
  | case1 => simp
  | case2 c rest hs ih =>
    obtain ⟨rfl, rest, rfl⟩ := hs
    rw [List.drop_left] at ih ⊢
    rw [List.flatMap_cons, ih, List.append_nil]
    rfl
  | case3 c rest hs ih =>
    cases hr : split mark tail rest with
    | nil => exact absurd hr split_ne_nil
    | cons part parts =>
      rw [hr, List.flatMap_cons, List.append_assoc, List.append_cancel_left_eq] at ih
      rw [List.modifyHead_cons, List.flatMap_cons, List.append_assoc, List.append_cancel_left_eq,
        List.cons_append, ih]

theorem split_inj : split mark tail xs = split mark tail ys ↔ xs = ys := by
  constructor
  · intro h
    have hf : mark :: tail ++ xs = mark :: tail ++ ys := by
      rw [← flatMap_split, h, flatMap_split]
    exact List.append_cancel_left hf
  · rintro rfl
    rfl

theorem split_flatMap (h : mark ∉ tail) :
    split mark tail (xs ++ parts.flatMap (mark :: tail ++ ·)) =
      split mark tail xs ++ parts.flatMap (split mark tail) := by
  induction parts generalizing xs with
  | nil => simp
  | cons part parts ih =>
    rw [List.flatMap_cons, List.append_assoc, List.cons_append, split_append h, ih,
      List.flatMap_cons]

theorem flatMap_split_of_free (hp : ∀ part ∈ parts, ¬mark :: tail <:+: part) :
    parts.flatMap (split mark tail) = parts := by
  rw [List.flatMap_congr fun part hm => split_of_free (hp part hm), List.flatMap_singleton']

/-- Parts that are free of the separator come back when one is put before each of them. -/
theorem split_join (h : mark ∉ tail) (hx : ¬mark :: tail <:+: xs)
    (hp : ∀ part ∈ parts, ¬mark :: tail <:+: part) :
    split mark tail (xs ++ parts.flatMap (mark :: tail ++ ·)) = xs :: parts := by
  rw [split_flatMap h, split_of_free hx, flatMap_split_of_free hp]
  rfl

theorem length_split_pos (mark : α) (tail xs : List α) : 0 < (split mark tail xs).length :=
  List.length_pos_of_ne_nil split_ne_nil

theorem length_split_iff (h : mark ∉ tail) :
    (split mark tail xs).length = 1 ↔ ¬mark :: tail <:+: xs := by
  constructor
  · rintro hlen ⟨before, after, rfl⟩
    rw [List.append_assoc, List.cons_append, split_append h, List.length_append] at hlen
    have hbefore := length_split_pos mark tail before
    have hafter := length_split_pos mark tail after
    omega
  · intro hn
    rw [split_of_free hn]
    rfl

theorem length_le_flatMap_split (mark : α) (tail : List α) (parts : List (List α)) :
    parts.length ≤ (parts.flatMap (split mark tail)).length := by
  induction parts with
  | nil => simp
  | cons part parts ih =>
    have hpart := length_split_pos mark tail part
    rw [List.flatMap_cons, List.length_append, List.length_cons]
    omega

/-- There are as many pieces as parts only if every part is free of the separator. -/
theorem length_flatMap_split_iff (h : mark ∉ tail) :
    (parts.flatMap (split mark tail)).length = parts.length ↔
      ∀ part ∈ parts, ¬mark :: tail <:+: part := by
  induction parts with
  | nil => simp
  | cons part parts ih =>
    have hpart := length_split_pos mark tail part
    have hparts := length_le_flatMap_split mark tail parts
    rw [List.forall_mem_cons, ← ih, ← length_split_iff h, List.flatMap_cons, List.length_append,
      List.length_cons]
    omega

end LinkShot.Text

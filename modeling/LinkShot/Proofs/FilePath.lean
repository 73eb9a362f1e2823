import LinkShot.Proofs.FileTree
import LinkShot.Proofs.Text.Separator
import Mathlib.Data.List.TakeDrop
import Mathlib.Tactic.SplitIfs

/-! The names of a path, of its parent and of a path that is taken from a folder. -/
namespace LinkShot

open Text (Bytes)

variable {path parent folder name : FilePath} {b : UInt8} {xs ys ending : Bytes}

theorem Text.splitOn_eq_split {α : Type} [DecidableEq α] (mark : α) (xs : List α) :
    Text.splitOn mark xs = Text.split mark [] xs := by
  induction xs with
  | nil => simp [splitOn, split]
  | cons c rest ih =>
    rw [splitOn, split, ih]
    by_cases hc : c = mark
    · simp [hc]
    · rw [if_neg hc, if_neg fun h => hc h.1]
      cases hs : split mark [] rest with
      | nil => exact absurd hs split_ne_nil
      | cons => rfl

namespace FileTree

open FilePath (slash dot)

theorem steps_slash : steps ⟨xs ++ slash :: ys⟩ = steps ⟨xs⟩ ++ steps ⟨ys⟩ := by
  have hsplit : Text.split slash [] (xs ++ slash :: ([] ++ ys)) =
      Text.split slash [] xs ++ Text.split slash [] ys := Text.split_append (by simp)
  simp only [steps, FilePath.names, Text.splitOn_eq_split, List.nil_append] at hsplit ⊢
  rw [hsplit, List.map_append, List.map_append]

theorem steps_name (h : slash ∉ xs) : steps ⟨xs⟩ = [if xs = [] then .stay else ⟨xs⟩] := by
  have hfree : ¬[slash] <:+: xs := by simpa [List.singleton_infix_iff] using h
  rw [steps, FilePath.names, Text.splitOn_eq_split, Text.split_of_free hfree]
  rfl

/-- The names of a path apart from those that lead nowhere. -/
def named (bs : Bytes) : List FilePath := (steps ⟨bs⟩).filter (· ≠ .stay)

theorem named_slash : named (xs ++ slash :: ys) = named xs ++ named ys := by
  rw [named, steps_slash, List.filter_append]
  rfl

theorem named_nil : named [] = [] := by decide

theorem named_dot : named [dot] = [] := by decide

theorem named_name (h : slash ∉ xs) (hn : xs ≠ []) (hd : xs ≠ [dot]) : named xs = [⟨xs⟩] := by
  rw [named, steps_name h, if_neg hn]
  simp [FilePath.stay, hd]

end FileTree

namespace FilePath

open FileTree (named named_slash named_nil named_dot named_name)

theorem named_trim (xs : Bytes) : named (trimReversed xs).reverse = named xs.reverse := by
  fun_induction trimReversed xs with
  | case1 | case2 | case4 => rfl
  | case3 b c rest hb ih =>
    rw [ih]
    rcases hb with rfl | ⟨rfl, rfl⟩
    · rw [List.reverse_cons (a := slash), named_slash, named_nil, List.append_nil]
    · have hdot : (dot :: slash :: rest).reverse = rest.reverse ++ slash :: [dot] := by simp
      rw [List.reverse_cons, hdot, named_slash, named_slash, named_nil, named_dot]

theorem getLast?_trim (xs : Bytes) : (trimReversed xs).getLast? = xs.getLast? := by
  fun_induction trimReversed xs with
  | case1 | case2 | case4 => rfl
  | case3 b c rest _ ih => rw [ih, List.getLast?_cons_cons]

/-- A trimmed path ends in a name, or is one byte long. -/
theorem trimmed (h : trimReversed xs = b :: ys) :
    ys = [] ∨ b ≠ slash ∧ ∀ rest, b :: ys ≠ dot :: slash :: rest := by
  fun_induction trimReversed xs with
  | case1 => cases h
  | case2 d =>
    cases h
    exact .inl rfl
  | case3 _ _ _ _ ih => exact ih h
  | case4 c d rest hd =>
    cases h
    rw [not_or, not_and] at hd
    refine .inr ⟨hd.1, fun rest' he => ?_⟩
    cases he
    exact hd.2 rfl rfl

/-- The last name of a trimmed path is one that leads on. -/
theorem named_last {before after : Bytes} (h : trimReversed xs = before ++ slash :: after)
    (hfree : slash ∉ before) (hroot : before ++ slash :: after ≠ [slash]) :
    named before.reverse = [⟨before.reverse⟩] := by
  apply named_name
  · rwa [List.mem_reverse]
  · rintro hnil
    rw [List.reverse_eq_nil_iff] at hnil
    subst hnil
    rcases trimmed h with rfl | ⟨hslash, -⟩
    · exact hroot rfl
    · exact hslash rfl
  · intro hdot
    rw [List.reverse_eq_iff] at hdot
    subst hdot
    rcases trimmed h with hnil | ⟨-, hdots⟩
    · cases hnil
    · exact hdots after rfl

/-- A path leads through the names of its parent to one more name. -/
theorem named_parent (h : path.parent? = some parent) (hp : parent.bytes ≠ []) :
    isAbsolute parent = isAbsolute path ∧
      ∃ last, named path.bytes = named parent.bytes ++ [last] := by
  have hlast := getLast?_trim path.bytes.reverse
  have hnamed := named_trim path.bytes.reverse
  rw [List.getLast?_reverse] at hlast
  rw [List.reverse_reverse] at hnamed
  unfold parent? at h
  dsimp only at h
  split_ifs at h with hroot
  · cases h
    rw [not_or] at hroot
    rcases Text.first_mark slash (trimReversed path.bytes.reverse) with
      hfree | ⟨before, after, htrim, hfree⟩
    · rw [Text.dropWhile_no_mark hfree] at hp
      exact absurd rfl hp
    · have hbefore := named_last htrim hfree (htrim ▸ hroot.2)
      rw [htrim] at hlast hnamed
      rw [htrim, Text.dropWhile_mark hfree]
      have hpast := getLast?_trim (slash :: after)
      have hparent := named_trim (slash :: after)
      constructor
      · rw [isAbsolute, isAbsolute, List.head?_reverse, hpast, ← hlast, List.getLast?_append_cons]
      · refine ⟨⟨before.reverse⟩, ?_⟩
        have hwhole :
            (before ++ slash :: after).reverse = after.reverse ++ slash :: before.reverse := by
          simp
        rw [hparent, ← hnamed, hwhole, List.reverse_cons, named_slash, named_slash, named_nil,
          List.append_nil, hbefore]

/-- A name that an entry of a folder can have. -/
structure IsName (name : FilePath) : Prop where
  free : slash ∉ name.bytes
  nonempty : name.bytes ≠ []
  plain : FileTree.Plain name

instance (name : FilePath) : Decidable (IsName name) :=
  decidable_of_iff (slash ∉ name.bytes ∧ name.bytes ≠ [] ∧ FileTree.Plain name)
    ⟨fun h => ⟨h.1, h.2.1, h.2.2⟩, fun h => ⟨h.free, h.nonempty, h.plain⟩⟩

theorem isAbsolute_name (hn : IsName name) : isAbsolute name = false := by
  rw [isAbsolute, beq_eq_false_iff_ne]
  exact fun hhead => hn.free (List.mem_of_head? hhead)

theorem steps_of_name (hn : IsName name) : FileTree.steps name = [name] := by
  have hsteps := FileTree.steps_name hn.free
  rwa [if_neg hn.nonempty] at hsteps

theorem isAbsolute_join (hf : folder.bytes ≠ []) (hn : IsName name) :
    isAbsolute (join folder name) = isAbsolute folder := by
  obtain ⟨b, rest, hfolder⟩ := List.exists_cons_of_ne_nil hf
  rw [join, isAbsolute_name hn, Bool.false_or, decide_eq_false hf, if_neg (by simp)]
  split <;> simp [isAbsolute, hfolder]

/-- The steps to an entry are those to its folder, apart from a final dot, and its name. -/
theorem steps_join (hf : folder.bytes ≠ []) (hn : IsName name) :
    ∃ way, (FileTree.steps folder = way ∨ FileTree.steps folder = way ++ [stay]) ∧
      FileTree.steps (join folder name) = way ++ [name] := by
  rw [join, isAbsolute_name hn, Bool.false_or, decide_eq_false hf, if_neg (by simp)]
  split
  · rename_i hslash
    obtain ⟨way, hway⟩ := List.getLast?_eq_some_iff.mp hslash
    have hfolder : folder = ⟨way ++ slash :: []⟩ := congrArg FilePath.mk hway
    refine ⟨FileTree.steps ⟨way⟩, .inr ?_, ?_⟩
    · rw [hfolder, FileTree.steps_slash]
      rfl
    · rw [hway, List.append_assoc, List.singleton_append, FileTree.steps_slash, steps_of_name hn]
  · exact ⟨FileTree.steps folder, .inl rfl, by rw [FileTree.steps_slash, steps_of_name hn]⟩

/-- An extension is what follows the last dot, with something before that dot. -/
theorem extension?_iff : name.extension? = some ending ↔ name ≠ up ∧
    dot ∉ ending ∧ ∃ stem, stem ≠ [] ∧ name.bytes = stem ++ dot :: ending := by
  rw [extension?, List.span_eq_takeWhile_dropWhile]
  constructor
  · intro h
    rcases Text.first_mark dot name.bytes.reverse with hfree | ⟨before, after, hname, hfree⟩
    · rw [Text.dropWhile_no_mark hfree] at h
      cases h
    · rw [hname, Text.takeWhile_mark hfree, Text.dropWhile_mark hfree] at h
      cases after with
      | nil => cases h
      | cons c after =>
        dsimp only at h
        split_ifs at h with hdots
        obtain rfl := Option.some.inj h
        refine ⟨hdots, by simpa using hfree, (c :: after).reverse, by simp, ?_⟩
        rw [← List.reverse_reverse name.bytes, hname]
        simp
  · rintro ⟨hdots, hfree, stem, hstem, hname⟩
    obtain ⟨c, first, hfirst⟩ := List.exists_cons_of_ne_nil (List.reverse_ne_nil_iff.mpr hstem)
    have hreverse : name.bytes.reverse = ending.reverse ++ dot :: c :: first := by
      rw [hname, ← hfirst]
      simp
    rw [← List.mem_reverse] at hfree
    rw [hreverse, Text.takeWhile_mark hfree, Text.dropWhile_mark hfree]
    dsimp only
    rw [if_neg hdots, List.reverse_reverse]

end FilePath
end LinkShot

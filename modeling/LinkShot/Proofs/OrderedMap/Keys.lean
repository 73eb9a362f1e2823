import LinkShot.Request.Prepared
import Mathlib.Data.Finset.Card
import Mathlib.Data.Set.Card
import Mathlib.Data.List.Nodup

/-!
The keys of a map. Adding an entry under its key keeps the keys apart. Adding one under a header
name does so too, unless the key is there already, behind another spelling of the same name: then
the other spelling is overwritten and the key stands twice.
-/
namespace LinkShot.OrderedMap

variable {m : OrderedMap} {key value k : String} {same : String → Bool}
  {entries : List (String × String)}

/-- What a map is made by. -/
inductive Change where
  | rebuild (pairs : List (String × String))
  | insert (key value : String)
  | insertName (key value : String)

def change (m : OrderedMap) : Change → OrderedMap
  | .rebuild pairs => ofList pairs
  | .insert key value => m.insert key value
  | .insertName key value => m.insertName key value

/-- The map that a sequence of changes makes. -/
def after (cs : List Change) : OrderedMap := cs.foldl change empty

/-- The key is there, but another spelling of it is found first. -/
def Shadows (m : OrderedMap) (key : String) : Prop :=
  key ∈ m.keys ∧ m.keys.find? (sameName · key) ≠ some key

/-- No entry is added under a header name that is shadowed at that time. -/
def Unshadowed (cs : List Change) : Prop :=
  ∀ before key value rest, cs = before ++ .insertName key value :: rest →
    ¬ (after before).Shadows key

theorem sameName_self (key : String) : sameName key key = true := by
  simp [sameName]

/-- An entry comes to the end, or takes the place of the first that is the same. -/
theorem keys_place (same : String → Bool) (key value : String) (entries : List (String × String)) :
    (∀ k ∈ entries.map (·.1), same k = false) ∧
        (place same (key, value) entries).2.map (·.1) = entries.map (·.1) ++ [key] ∨
      ∃ before k behind, entries.map (·.1) = before ++ k :: behind ∧ same k = true ∧
        (∀ k ∈ before, same k = false) ∧
        (place same (key, value) entries).2.map (·.1) = before ++ key :: behind := by
  induction entries with
  | nil => exact .inl ⟨by simp, rfl⟩
  | cons entry rest ih =>
    obtain ⟨k, v⟩ := entry
    cases hk : same k with
    | true => exact .inr ⟨[], k, rest.map (·.1), rfl, hk, by simp, by simp [place, hk]⟩
    | false =>
      rcases ih with ⟨hnone, heq⟩ | ⟨before, k', behind, hkeys, hsame, hfirst, heq⟩
      · exact .inl ⟨List.forall_mem_cons.mpr ⟨hk, hnone⟩, by simp [place, hk, heq]⟩
      · exact .inr ⟨k :: before, k', behind, by simp [hkeys], hsame,
          List.forall_mem_cons.mpr ⟨hk, hfirst⟩, by simp [place, hk, heq]⟩

theorem keys_insert (m : OrderedMap) (key value : String) :
    (m.insert key value).keys = if key ∈ m.keys then m.keys else m.keys ++ [key] := by
  rcases keys_place (· == key) key value m.entries with
    ⟨hnone, heq⟩ | ⟨before, k, behind, hkeys, hsame, _, heq⟩
  · have hnew : key ∉ m.keys := by
      intro hin
      simpa using hnone key hin
    rw [if_neg hnew]
    exact heq
  · obtain rfl : k = key := by simpa using hsame
    have hold : k ∈ m.keys := by simp [keys, hkeys]
    rw [if_pos hold]
    exact heq.trans hkeys.symm

theorem nodup_insert (hm : m.keys.Nodup) (key value : String) :
    (m.insert key value).keys.Nodup := by
  rw [keys_insert]
  split
  · exact hm
  · rename_i hnew
    exact List.concat_eq_append ▸ hm.concat hnew

theorem nodup_empty : empty.keys.Nodup := List.nodup_nil

theorem nodup_ofList (pairs : List (String × String)) : (ofList pairs).keys.Nodup := by
  have hfold (m : OrderedMap) (hm : m.keys.Nodup) :
      (pairs.foldl (fun m p => m.insert p.1 p.2) m).keys.Nodup := by
    induction pairs generalizing m with
    | nil => exact hm
    | cons p pairs ih => exact ih _ (nodup_insert hm _ _)
  exact hfold empty nodup_empty

/-- An entry under a new key comes to the end, and the other entries stay. -/
theorem entries_insert_of_new (h : key ∉ m.keys) :
    (m.insert key value).entries = m.entries ++ [(key, value)] := by
  obtain ⟨entries⟩ := m
  suffices hp : (place (· == key) (key, value) entries).2 = entries ++ [(key, value)] from hp
  induction entries with
  | nil => rfl
  | cons entry rest ih =>
    simp only [keys, List.map_cons, List.mem_cons, not_or] at h
    have hk : (entry.1 == key) = false := beq_false_of_ne fun he => h.1 he.symm
    simp [place, hk, ih h.2]

/-- A map keeps the pairs that it is made of, unless two of them share a key. -/
theorem entries_ofList {pairs : List (String × String)} (h : (pairs.map (·.1)).Nodup) :
    (ofList pairs).entries = pairs := by
  have hfold (m : OrderedMap) (hm : (m.keys ++ pairs.map (·.1)).Nodup) :
      (pairs.foldl (fun m p => m.insert p.1 p.2) m).entries = m.entries ++ pairs := by
    induction pairs generalizing m with
    | nil => simp
    | cons p pairs ih =>
      have hnew : p.1 ∉ m.keys := by
        intro hin
        rw [List.map_cons, List.nodup_middle, List.nodup_cons] at hm
        exact hm.1 (List.mem_append_left _ hin)
      have hins : (m.insert p.1 p.2).entries = m.entries ++ [(p.1, p.2)] :=
        entries_insert_of_new hnew
      have hkeys : (m.insert p.1 p.2).keys = m.keys ++ [p.1] := by simp [keys, hins]
      rw [List.map_cons] at h
      rw [List.foldl_cons, ih h.of_cons _ (by simpa [hkeys] using hm), hins]
      simp
  exact hfold empty h

theorem mem_keys_ofList {pairs : List (String × String)} :
    key ∈ (ofList pairs).keys ↔ key ∈ pairs.map (·.1) := by
  have hfold (m : OrderedMap) : key ∈ (pairs.foldl (fun m p => m.insert p.1 p.2) m).keys ↔
      key ∈ m.keys ∨ key ∈ pairs.map (·.1) := by
    induction pairs generalizing m with
    | nil => simp
    | cons p pairs ih =>
      have hinsert : key ∈ (m.insert p.1 p.2).keys ↔ key ∈ m.keys ∨ key = p.1 := by
        rw [keys_insert]
        split <;> grind
      rw [List.foldl_cons, ih, hinsert, List.map_cons, List.mem_cons, or_assoc]
  have hempty : key ∉ empty.keys := by simp [empty, keys]
  exact (hfold empty).trans (or_iff_right hempty)

/-- The keys of a map are told by the keys of the pairs that it is made of. -/
theorem keys_ofList_congr {pairs others : List (String × String)}
    (h : pairs.map (·.1) = others.map (·.1)) : (ofList pairs).keys = (ofList others).keys := by
  have hfold (m n : OrderedMap) (hm : m.keys = n.keys) :
      (pairs.foldl (fun m p => m.insert p.1 p.2) m).keys =
        (others.foldl (fun m p => m.insert p.1 p.2) n).keys := by
    induction pairs generalizing others m n with
    | nil =>
      obtain rfl : others = [] := List.map_eq_nil_iff.mp h.symm
      exact hm
    | cons p pairs ih =>
      cases others with
      | nil => cases h
      | cons q others =>
        obtain ⟨hp, h⟩ := List.cons.inj h
        have hkey : p.1 = q.1 := hp
        exact ih h _ _ (by rw [keys_insert, keys_insert, hm, hkey])
  exact hfold empty empty rfl

theorem keys_insertName (m : OrderedMap) (key value : String) :
    m.keys.find? (sameName · key) = none ∧ (m.insertName key value).keys = m.keys ++ [key] ∨
      ∃ before k behind, m.keys.find? (sameName · key) = some k ∧
        m.keys = before ++ k :: behind ∧ key ∉ before ∧
        (m.insertName key value).keys = before ++ key :: behind := by
  rcases keys_place (sameName · key) key value m.entries with
    ⟨hnone, heq⟩ | ⟨before, k, behind, hkeys, hsame, hfirst, heq⟩
  · refine .inl ⟨?_, heq⟩
    rw [List.find?_eq_none]
    intro k hin
    simp [hnone k hin]
  · refine .inr ⟨before, k, behind, ?_, hkeys, ?_, heq⟩
    · rw [List.find?_eq_some_iff_append]
      exact ⟨hsame, before, behind, hkeys, fun k hin => by simp [hfirst k hin]⟩
    · intro hin
      simpa [sameName_self] using hfirst key hin

theorem not_mem_of_find?_none (hf : m.keys.find? (sameName · key) = none) : key ∉ m.keys := by
  intro hin
  simpa [sameName_self] using List.find?_eq_none.mp hf key hin

/-- Adding under a header name doubles a key exactly when the key is shadowed. -/
theorem nodup_insertName_iff (hm : m.keys.Nodup) :
    (m.insertName key value).keys.Nodup ↔ ¬ m.Shadows key := by
  rcases keys_insertName m key value with ⟨hf, hnew⟩ | ⟨before, k, behind, hf, hkeys, hbefore, hnew⟩
  · have hfresh := not_mem_of_find?_none hf
    rw [hnew, ← List.concat_eq_append]
    exact ⟨fun _ hs => hfresh hs.1, fun _ => hm.concat hfresh⟩
  · rw [hkeys, List.nodup_middle, List.nodup_cons] at hm
    rw [hnew, List.nodup_middle, List.nodup_cons, Shadows, hf, hkeys]
    obtain ⟨hk, hrest⟩ := hm
    by_cases hsame : k = key
    · subst hsame
      simp [hk, hrest]
    · have hne : key ≠ k := fun he => hsame he.symm
      simp [hrest, hsame, hne]

/-- The name that a key spells. -/
def nameOf (key : String) : List Char := key.toList.map Char.toLower

def names (m : OrderedMap) : List (List Char) := m.keys.map nameOf

theorem sameName_iff {a b : String} : sameName a b = true ↔ nameOf a = nameOf b := by
  simp [sameName, nameOf]

/-- Where no name is spelled twice, no spelling hides another. -/
theorem not_shadows_of_names (hm : m.names.Nodup) : ¬ m.Shadows key := by
  rintro ⟨hin, hfirst⟩
  cases hf : m.keys.find? (sameName · key) with
  | none => exact not_mem_of_find?_none hf hin
  | some k =>
    have hsame : sameName k key = true := by simpa using List.find?_some hf
    have hname : nameOf k = nameOf key := sameName_iff.mp hsame
    have heq := List.inj_on_of_nodup_map hm (List.mem_of_find?_eq_some hf) hin hname
    exact hfirst (heq ▸ hf)

theorem names_insertName (hm : m.names.Nodup) (key value : String) :
    (m.insertName key value).names.Nodup := by
  rcases keys_insertName m key value with ⟨hf, hnew⟩ | ⟨before, k, behind, hf, hkeys, _, hnew⟩
  · have hfresh : nameOf key ∉ m.names := by
      intro hin
      obtain ⟨k, hk, hname⟩ := List.mem_map.mp hin
      exact List.find?_eq_none.mp hf k hk (sameName_iff.mpr hname)
    rw [names, hnew, List.map_append, List.map_singleton, ← List.concat_eq_append]
    exact hm.concat hfresh
  · have hsame : sameName k key = true := by simpa using List.find?_some hf
    have hname : nameOf k = nameOf key := sameName_iff.mp hsame
    rw [names, hkeys, List.map_append, List.map_cons, hname] at hm
    rwa [names, hnew, List.map_append, List.map_cons]

theorem nodup_of_names (hm : m.names.Nodup) : m.keys.Nodup := hm.of_map _

theorem after_snoc (cs : List Change) (c : Change) : after (cs ++ [c]) = (after cs).change c := by
  simp [after]

theorem nodup_change_iff (hm : m.keys.Nodup) (c : Change) :
    (m.change c).keys.Nodup ↔ ∀ key value, c = .insertName key value → ¬ m.Shadows key := by
  cases c with
  | rebuild pairs => simp [change, nodup_ofList]
  | insert key value => simp [change, nodup_insert hm]
  | insertName key value =>
    rw [change, nodup_insertName_iff hm]
    simp

theorem unshadowed_before {before rest : List Change} (hu : Unshadowed (before ++ rest)) :
    Unshadowed before := by
  rintro first key value behind rfl
  exact hu first key value (behind ++ rest) (by simp)

theorem unshadowed_snoc {cs : List Change} {c : Change} (hu : Unshadowed (cs ++ [c])) :
    Unshadowed cs ∧ ∀ key value, c = .insertName key value → ¬ (after cs).Shadows key := by
  refine ⟨unshadowed_before hu, ?_⟩
  rintro key value rfl
  exact hu cs key value [] rfl

theorem nodup_after {cs : List Change} (hu : Unshadowed cs) : (after cs).keys.Nodup := by
  induction cs using List.reverseRecOn with
  | nil => exact nodup_empty
  | append_singleton cs c ih =>
    obtain ⟨hcs, hc⟩ := unshadowed_snoc hu
    rw [after_snoc]
    exact (nodup_change_iff (ih hcs) c).mpr hc

theorem names_after {cs : List Change} (hc : ∀ c ∈ cs, ∃ key value, c = .insertName key value) :
    (after cs).names.Nodup := by
  induction cs using List.reverseRecOn with
  | nil => exact List.nodup_nil
  | append_singleton cs c ih =>
    obtain ⟨key, value, rfl⟩ := hc c (by simp)
    rw [after_snoc]
    exact names_insertName (ih fun c hin => hc c (List.mem_append_left _ hin)) key value

theorem isSome_get?_iff : (m.get? key).isSome = true ↔ key ∈ m.keys := by
  rw [get?, List.lookup_isSome_iff, keys, List.mem_map]
  constructor
  · rintro ⟨entry, hin, heq⟩
    exact ⟨entry, hin, (eq_of_beq heq).symm⟩
  · rintro ⟨entry, hin, rfl⟩
    exact ⟨entry, hin, beq_self_eq_true _⟩

/-- As many keys have a value as there are entries. -/
theorem ncard_keys (hm : m.keys.Nodup) : {key | (m.get? key).isSome = true}.ncard = m.size := by
  have hset : {key | (m.get? key).isSome = true} = (m.keys.toFinset : Set String) := by
    ext key
    simp [isSome_get?_iff]
  rw [hset, Set.ncard_coe_finset, List.toFinset_card_of_nodup hm, keys, List.length_map, size]

/-- No two keys are the same: as many of them have a value as there are entries, and each stands
once. -/
structure Distinct (m : OrderedMap) : Prop where
  apart : m.keys.Nodup
  size : {key | (m.get? key).isSome = true}.ncard = m.size
  once : ∀ key, m.keys.count key ≤ 1

theorem distinct_of_nodup (hm : m.keys.Nodup) : m.Distinct :=
  ⟨hm, ncard_keys hm, List.nodup_iff_count_le_one.mp hm⟩

/-- Adding under a shadowed name is seen in the keys of the map that it makes. -/
theorem unshadowed_of_distinct {cs : List Change}
    (hd : ∀ before, before <+: cs → (after before).Distinct) : Unshadowed cs := by
  rintro before key value rest rfl
  have hbefore := (hd before (List.prefix_append _ _)).apart
  have hnext := (hd (before ++ [.insertName key value]) ⟨rest, by simp⟩).apart
  rw [after_snoc] at hnext
  exact (nodup_change_iff hbefore _).mp hnext key value rfl

/-- However maps are made of one another, the keys of all of them are distinct exactly when nothing
is added under a header name while that is shadowed. Nothing ever is shadowed where entries are
added only under keys, or only under header names. -/
theorem keys_distinct (cs : List Change) :
    ((∀ before, before <+: cs → (after before).Distinct) ↔ Unshadowed cs) ∧
    ((∀ key value, .insertName key value ∉ cs) → Unshadowed cs) ∧
    ((∀ c ∈ cs, ∃ key value, c = .insertName key value) → Unshadowed cs) := by
  refine ⟨⟨unshadowed_of_distinct, ?_⟩, ?_, ?_⟩
  · rintro hu before ⟨rest, rfl⟩
    exact distinct_of_nodup (nodup_after (unshadowed_before hu))
  · rintro hn before key value rest rfl
    exact absurd (by simp) (hn key value)
  · rintro hc before key value rest rfl
    exact not_shadows_of_names (names_after fun c hin => hc c (List.mem_append_left _ hin))

/-- Not every map has distinct keys: a key that stands behind another spelling of its name is
doubled when an entry is added under it as a header name. -/
theorem doubled_key : ¬ ∀ cs, (after cs).keys.Nodup := by
  intro hall
  have hdoubled :
      (after [.insert "a" "1", .insert "A" "2", .insertName "A" "3"]).keys = ["A", "A"] := by
    decide
  have hm := hall [.insert "a" "1", .insert "A" "2", .insertName "A" "3"]
  rw [hdoubled] at hm
  simp at hm

theorem names_formHeaders (headers : OrderedMap) : (Request.formHeaders headers).names.Nodup := by
  have hfold (m : OrderedMap) (hm : m.names.Nodup) :
      (headers.entries.foldl (fun merged entry => merged.insertName entry.1 entry.2)
        m).names.Nodup := by
    generalize headers.entries = entries
    induction entries generalizing m with
    | nil => exact hm
    | cons entry entries ih => exact ih _ (names_insertName hm _ _)
  exact hfold _ (List.nodup_singleton _)

/-- The headers of a form are only added under their names, and so none of them is sent twice. -/
theorem distinct_formHeaders (headers : OrderedMap) : (Request.formHeaders headers).Distinct :=
  distinct_of_nodup (nodup_of_names (names_formHeaders headers))

end LinkShot.OrderedMap

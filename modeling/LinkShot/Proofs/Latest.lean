import LinkShot.Json.Value
import LinkShot.Proofs.Outcome
import Mathlib.Data.List.Induction
import Mathlib.Data.List.Nodup

/-!
Lists of pairs in which keys may repeat. The latest of them keep each key once, where it was first,
with the value that it had last; setting the members of a JSON object one by one comes to that.
-/
namespace LinkShot

variable {α β : Type} {key k : String} {value v : α} {pairs latest : List (String × α)}

/-- Each key of the pairs once, in the order of first occurrences, with the value of the last. -/
structure Latest (pairs latest : List (String × α)) : Prop where
  keys : latest.map (·.1) = (pairs.map (·.1)).eraseDups
  values : ∀ key, latest.lookup key = pairs.reverse.lookup key

theorem lookup_pair (l : List (String × α)) :
    ((k, v) :: l).lookup key = if key = k then some v else l.lookup key := by
  rw [List.lookup_cons]
  cases h : key == k with
  | true => simp [eq_of_beq h]
  | false => simp [ne_of_beq_false h]

theorem eraseDups_snoc (keys : List String) (key : String) :
    (keys ++ [key]).eraseDups = if key ∈ keys then keys.eraseDups else keys.eraseDups ++ [key] := by
  rw [List.eraseDups_append]
  by_cases h : key ∈ keys <;> simp [h, List.removeAll, List.eraseDups_cons]

theorem nodup_eraseDups (keys : List String) : keys.eraseDups.Nodup := by
  induction keys using List.reverseRecOn with
  | nil => simp
  | append_singleton keys key ih =>
    rw [eraseDups_snoc]
    split
    · exact ih
    · rename_i hnew
      rw [← List.concat_eq_append]
      exact ih.concat (by simpa using hnew)

theorem eraseDups_of_nodup {keys : List String} (h : keys.Nodup) : keys.eraseDups = keys := by
  induction keys using List.reverseRecOn with
  | nil => rfl
  | append_singleton keys key ih =>
    obtain ⟨hkeys, -, hnew⟩ := List.nodup_append.mp h
    have hnot : key ∉ keys := fun hin => hnew key hin key (by simp) rfl
    rw [eraseDups_snoc, if_neg hnot, ih hkeys]

theorem Latest.nodup (h : Latest pairs latest) : (latest.map (·.1)).Nodup := by
  rw [h.keys]
  exact nodup_eraseDups _

theorem latest_nil : Latest ([] : List (String × α)) [] := ⟨by simp, by simp⟩

theorem lookup_of_mem (hn : (latest.map (·.1)).Nodup) (h : (key, value) ∈ latest) :
    latest.lookup key = some value := by
  induction latest with
  | nil => cases h
  | cons entry rest ih =>
    rw [List.map_cons, List.nodup_cons] at hn
    rcases List.mem_cons.mp h with rfl | h
    · simp
    · have hne : key ≠ entry.1 := fun he => hn.1 (he ▸ List.mem_map_of_mem h)
      rw [List.lookup_cons, beq_false_of_ne hne]
      exact ih hn.2 h

theorem mem_of_lookup (h : latest.lookup key = some value) : (key, value) ∈ latest := by
  obtain ⟨before, after, rfl, -⟩ := List.lookup_eq_some_iff.mp h
  exact List.mem_append_right _ List.mem_cons_self

/-- The latest are told by the pairs alone. -/
theorem Latest.values_eq (fallback : α) (h : Latest pairs latest) : latest.map (·.2) =
    (pairs.map (·.1)).eraseDups.map fun key => (pairs.reverse.lookup key).getD fallback := by
  rw [← h.keys, List.map_map]
  refine List.map_congr_left fun entry hentry => ?_
  simp [← h.values, lookup_of_mem h.nodup hentry]

theorem lookup_map_values (f : α → β) (pairs : List (String × α)) (key : String) :
    (pairs.map fun p => (p.1, f p.2)).lookup key = (pairs.lookup key).map f := by
  induction pairs with
  | nil => rfl
  | cons p pairs ih =>
    rw [List.map_cons, lookup_pair, lookup_pair, ih]
    split <;> rfl

/-- What every value is turned into, the latest are turned into. -/
theorem Latest.map (f : α → β) (h : Latest pairs latest) :
    Latest (pairs.map fun p => (p.1, f p.2)) (latest.map fun p => (p.1, f p.2)) := by
  constructor
  · simpa [Function.comp_def] using h.keys
  · intro key
    rw [← List.map_reverse, lookup_map_values, lookup_map_values, h.values]

namespace Json

variable {members : List (String × Value)} {value : Value} {pairs : List (String × Value)}

theorem keys_setMember : (setMember key value members).map (·.1) =
    if key ∈ members.map (·.1) then members.map (·.1) else members.map (·.1) ++ [key] := by
  induction members with
  | nil => rfl
  | cons member rest ih =>
    obtain ⟨k, v⟩ := member
    by_cases hk : k = key
    · simp [setMember, hk]
    · have hk' : key ≠ k := fun he => hk he.symm
      simp only [setMember, if_neg hk, List.map_cons, ih, List.mem_cons, hk', false_or]
      split <;> rfl

theorem lookup_setMember : (setMember key value members).lookup k =
    if k = key then some value else members.lookup k := by
  induction members with
  | nil => exact lookup_pair []
  | cons member rest ih =>
    obtain ⟨k', v⟩ := member
    by_cases hk : k' = key
    · subst hk
      simp only [setMember, if_pos, lookup_pair]
      split <;> rfl
    · simp only [setMember, if_neg hk, lookup_pair, ih]
      by_cases hkey : k = key
      · simp [hkey, Ne.symm hk]
      · simp [hkey]

theorem setMember_new (h : key ∉ members.map (·.1)) :
    setMember key value members = members ++ [(key, value)] := by
  induction members with
  | nil => rfl
  | cons member members ih =>
    rw [List.map_cons, List.mem_cons, not_or] at h
    rw [setMember, if_neg (Ne.symm h.1), ih h.2]
    rfl

theorem latest_setMember (h : Latest pairs members) :
    Latest (pairs ++ [(key, value)]) (setMember key value members) := by
  constructor
  · rw [keys_setMember, h.keys, List.map_append, List.map_singleton, eraseDups_snoc]
    simp only [List.mem_eraseDups]
  · intro k
    rw [lookup_setMember, List.reverse_append, List.reverse_singleton, List.singleton_append,
      lookup_pair, h.values]

/-- The members of an object as they are written, those with a fault left out. -/
def written (room : Nat) (members : List (Literal × Tree)) : List (String × Value) :=
  members.filterMap fun (key, tree) => do
    return (← key.text.toOption, ← (tree.value room).toOption)

theorem latest_memberValues {room : Nat} {trees : List (Literal × Tree)}
    {values : List (String × Value)} (hp : Latest pairs members)
    (h : memberValues room members trees = .ok values) :
    Latest (pairs ++ written room trees) values := by
  induction trees generalizing pairs members with
  | nil =>
    cases h
    simpa [written] using hp
  | cons member rest ih =>
    obtain ⟨literal, tree⟩ := member
    simp only [memberValues, bind_eq_ok_iff] at h
    obtain ⟨key, hk, value, hv, h⟩ := h
    simpa [written, hk, hv, Except.toOption] using ih (latest_setMember hp) h

end Json
end LinkShot

import LinkShot.Proofs.Latest
import LinkShot.Proofs.OrderedMap.Keys
import LinkShot.Request.Header

/-!
Maps to which entries are added one after another. Keys count as the same if they have the same
name, which is the key itself or, for headers, the key in small letters; the map then has the latest
entry of each name, where the name came first.
-/
namespace LinkShot.OrderedMap

open Request (lowerName)

variable {m : OrderedMap} {f : String → String} {key name : String} {entry : String × String}
  {entries : List (String × String)} {pairs : List (String × (String × String))}

/-- Entries with the names of their keys. -/
def under (f : String → String) (entries : List (String × String)) :
    List (String × (String × String)) :=
  entries.map fun entry => (f entry.1, entry)

/-- Adds an entry in the place of the one whose key has the same name, or at the end. -/
def add (f : String → String) (m : OrderedMap) (entry : String × String) : OrderedMap :=
  ⟨(place (f · == f entry.1) entry m.entries).2⟩

theorem lowerName_eq_iff {a b : String} : lowerName a = lowerName b ↔ nameOf a = nameOf b :=
  String.ofList_inj

theorem sameName_eq (a b : String) : sameName a b = (lowerName a == lowerName b) := by
  rw [Bool.eq_iff_iff, sameName_iff, beq_iff_eq, lowerName_eq_iff]

theorem insertName_eq (m : OrderedMap) (entry : String × String) :
    m.insertName entry.1 entry.2 = m.add lowerName entry := by
  simp only [insertName, exchangeName, add, sameName_eq]

theorem under_cons : under f (entry :: entries) = (f entry.1, entry) :: under f entries := rfl

theorem under_append (f : String → String) (before behind : List (String × String)) :
    under f (before ++ behind) = under f before ++ under f behind := List.map_append

theorem names_under (f : String → String) (entries : List (String × String)) :
    (under f entries).map (·.1) = (entries.map (·.1)).map f := by
  simp [under]

/-- A name that is there keeps its place, a new one comes to the end. -/
theorem names_place : (under f (place (f · == f entry.1) entry entries).2).map (·.1) =
    if f entry.1 ∈ (under f entries).map (·.1) then (under f entries).map (·.1)
    else (under f entries).map (·.1) ++ [f entry.1] := by
  simp only [names_under]
  rcases keys_place (f · == f entry.1) entry.1 entry.2 entries with
    ⟨hnone, heq⟩ | ⟨before, k, behind, hkeys, hsame, -, heq⟩
  · have hnew : f entry.1 ∉ (entries.map (·.1)).map f := by
      intro hin
      obtain ⟨k, hk, hname⟩ := List.mem_map.mp hin
      exact ne_of_beq_false (hnone k hk) hname
    rw [if_neg hnew]
    exact (congrArg (List.map f) heq).trans List.map_append
  · have hname : f k = f entry.1 := eq_of_beq hsame
    rw [if_pos (by simp [hkeys, hname]), hkeys, List.map_append, List.map_cons, hname]
    exact (congrArg (List.map f) heq).trans List.map_append

theorem lookup_place : (under f (place (f · == f entry.1) entry entries).2).lookup name =
    if name = f entry.1 then some entry else (under f entries).lookup name := by
  induction entries with
  | nil => exact lookup_pair []
  | cons first rest ih =>
    by_cases hf : f first.1 = f entry.1
    · simp only [place, hf, beq_self_eq_true, if_true, under, List.map_cons, lookup_pair]
      split <;> rfl
    · have hplace : (place (f · == f entry.1) entry (first :: rest)).2 =
          first :: (place (f · == f entry.1) entry rest).2 := by simp [place, hf]
      rw [hplace, under_cons, under_cons, lookup_pair, lookup_pair, ih]
      by_cases hname : name = f first.1
      · simp [hname, hf]
      · simp [hname]

theorem latest_add (h : Latest pairs (under f m.entries)) :
    Latest (pairs ++ under f [entry]) (under f (m.add f entry).entries) := by
  constructor
  · rw [add, names_place, h.keys, List.map_append]
    simp only [under, List.map_singleton, eraseDups_snoc, List.mem_eraseDups]
  · intro name
    rw [add, lookup_place, h.values, List.reverse_append]
    simp only [under, List.map_singleton, List.reverse_singleton, List.singleton_append,
      lookup_pair]

/-- Of the entries that are added the latest of each name are kept. -/
theorem latest_foldl (h : Latest pairs (under f m.entries)) :
    Latest (pairs ++ under f entries) (under f (entries.foldl (add f) m).entries) := by
  induction entries generalizing m pairs with
  | nil => simpa [under] using h
  | cons entry entries ih =>
    rw [← List.singleton_append, under_append, ← List.append_assoc]
    exact ih (latest_add h)

theorem latest_added (f : String → String) (entries : List (String × String)) :
    Latest (under f entries) (under f (entries.foldl (add f) empty).entries) := by
  have hempty : Latest [] (under f empty.entries) := latest_nil
  exact latest_foldl hempty

theorem latest_ofList (entries : List (String × String)) :
    Latest entries (ofList entries).entries := by
  have hadded : Latest (under id entries) (under id (ofList entries).entries) :=
    latest_added id entries
  simpa [under, Function.comp_def] using hadded.map Prod.snd

end LinkShot.OrderedMap

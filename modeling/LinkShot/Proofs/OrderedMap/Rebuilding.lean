import LinkShot.Proofs.Action.Resolution
import LinkShot.Proofs.OrderedMap.Adding
import LinkShot.Proofs.Provider.Judging

/-!
Maps that are made of pairs, and made again of their own entries. A pair whose key is there already
changes the value where the key stands, so that only maps with a doubled key do not come back.
-/
namespace LinkShot

variable {pairs : List (String × String)} {key value : String} {map : OrderedMap}

namespace OrderedMap

theorem place_fst (key value : String) (entries : List (String × String)) :
    (place (· == key) (key, value) entries).1 = entries.lookup key := by
  induction entries with
  | nil => rfl
  | cons entry rest ih =>
    rw [lookup_pair]
    by_cases hk : entry.1 = key
    · simp [place, hk]
    · simp [place, hk, Ne.symm hk, ih]

/-- Adding an entry returns what was found under its key. -/
theorem exchange_eq (map : OrderedMap) (key value : String) :
    map.exchange key value = (map.get? key, map.insert key value) :=
  Prod.ext (place_fst key value map.entries) rfl

theorem insert_ofList (pairs : List (String × String)) (key value : String) :
    (ofList pairs).insert key value = ofList (pairs ++ [(key, value)]) := by
  simp [ofList]

theorem get?_insert_ofList (other : String) : ((ofList pairs).insert key value).get? other =
    if other = key then some value else (ofList pairs).get? other := by
  rw [insert_ofList, get?, get?, (latest_ofList _).values, (latest_ofList _).values,
    List.reverse_append, List.reverse_singleton, List.singleton_append, lookup_pair]

theorem count_keys_ofList (pairs : List (String × String)) (key : String) :
    (ofList pairs).keys.count key = if key ∈ pairs.map (·.1) then 1 else 0 := by
  rw [(nodup_ofList pairs).count]
  simp only [mem_keys_ofList]

theorem ofList_entries_iff : ofList map.entries = map ↔ map.keys.Nodup := by
  constructor
  · intro h
    rw [← h]
    exact nodup_ofList _
  · intro h
    exact congrArg OrderedMap.mk (entries_ofList h)

end OrderedMap

namespace Action

/-- The entries of a map are resolved in their places unless a key is doubled. -/
theorem walked_of_resolveAll {name : String} {multiline : Bool} {h : List Exchange}
    {resolved : OrderedMap} (hk : map.keys.Nodup)
    (hr : (resolveAll map name multiline).Returns h (some resolved)) :
    Walked name multiline map.entries h resolved.entries := by
  obtain ⟨found, hw, rfl⟩ := resolveAll_returns_iff.mp hr
  have hfound : (found.map (·.1)).Nodup := keys_of_walked hw ▸ hk
  rwa [OrderedMap.entries_ofList hfound]

end Action

namespace Provider

open Json (Value)

/-- The map has every member of a JSON object in its place, as text. -/
def Holds (map : OrderedMap) (members : List (String × Value)) : Prop :=
  map.entries = members.map fun member => (member.1, memberText member.2)

theorem holds_of_stringMap {field : String} {members : List (String × Value)}
    (hn : (members.map (·.1)).Nodup) (h : stringMap field .empty members = .ok map) :
    Holds map members := by
  have hkeys : (OrderedMap.empty.keys ++ members.map (·.1)).Nodup := hn
  rw [stringMap_eq hkeys] at h
  split at h
  · cases h
  · cases h
    rfl

/-- The keys of an object are distinct once it has been read. -/
theorem nodup_of_read {raw : Text.Bytes} {file : File} (h : File.read raw = .ok file) :
    ((file.arguments.getD []).map (·.1)).Nodup ∧ ((file.headers.getD []).map (·.1)).Nodup := by
  have htree := Json.tree_of_readWith h
  have harguments : Latest _ (file.arguments.getD []) := has_ofTree htree .arguments
  have hheaders : Latest _ (file.headers.getD []) := has_ofTree htree .headers
  exact ⟨harguments.nodup, hheaders.nodup⟩

theorem holds_of_parse {raw : Text.Bytes} {provider : Provider} (h : parse raw = .ok provider) :
    ∃ file, File.read raw = .ok file ∧ Holds provider.arguments (file.arguments.getD []) ∧
      Holds provider.headers (file.headers.getD []) := by
  unfold parse at h
  split at h
  · rename_i file hread
    obtain ⟨hna, hnh⟩ := nodup_of_read hread
    obtain ⟨ha, hh⟩ := stringMaps_of_ofFile h
    exact ⟨file, hread, holds_of_stringMap hna ha, holds_of_stringMap hnh hh⟩
  · cases h

end Provider

namespace OrderedMap

/-- However keys are repeated, the map that pairs make has each of them once, where it came first,
with the value that came last. Another pair returns the value that its key had and leaves the other
keys alone. The entries of the map make it again: resolving them loses and moves none, and neither
does taking over the members of an object from a definition file. -/
theorem first_place_last_value (pairs : List (String × String)) :
    (Latest pairs (ofList pairs).entries ∧
      ∀ key, (ofList pairs).keys.count key = if key ∈ pairs.map (·.1) then 1 else 0) ∧
    (∀ key value,
      (ofList pairs).exchange key value =
        ((ofList pairs).get? key, ofList (pairs ++ [(key, value)])) ∧
      ((ofList pairs).insert key value).get? key = some value ∧
      ∀ other, other ≠ key →
        ((ofList pairs).insert key value).get? other = (ofList pairs).get? other) ∧
    ofList (ofList pairs).entries = ofList pairs ∧
    (∀ name multiline h resolved,
      (Action.resolveAll (ofList pairs) name multiline).Returns h (some resolved) →
        Action.Walked name multiline (ofList pairs).entries h resolved.entries) ∧
    ∀ raw provider, Provider.parse raw = .ok provider →
      ∃ file, Provider.File.read raw = .ok file ∧
        Provider.Holds provider.arguments (file.arguments.getD []) ∧
        Provider.Holds provider.headers (file.headers.getD []) := by
  have hn : (ofList pairs).keys.Nodup := nodup_ofList pairs
  refine ⟨⟨latest_ofList pairs, count_keys_ofList pairs⟩, ?_, ofList_entries_iff.mpr hn, ?_, ?_⟩
  · intro key value
    refine ⟨by rw [exchange_eq, insert_ofList], by simp [get?_insert_ofList], ?_⟩
    intro other hne
    rw [get?_insert_ofList, if_neg hne]
  · intro name multiline h resolved hr
    exact Action.walked_of_resolveAll hn hr
  · intro raw provider h
    exact Provider.holds_of_parse h

/-- The first place of `a` and its last value, with a key of another spelling between. -/
example : (ofList [("a", "1"), ("A", "2"), ("b", "3"), ("a", "4")]).entries =
    [("a", "4"), ("A", "2"), ("b", "3")] := by decide

end OrderedMap
end LinkShot

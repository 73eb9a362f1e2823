import LinkShot.Proofs.OrderedMap.Keys
import LinkShot.Provider.Definition

/-! Providers as definition files give them. -/
namespace LinkShot.Provider

open Json (Value)

variable {provider : Provider} {file : File} {map found : OrderedMap}

/-- No two arguments share a key, and no two headers. -/
structure Keyed (provider : Provider) : Prop where
  arguments : provider.arguments.keys.Nodup
  headers : provider.headers.keys.Nodup

theorem nodup_stringMap {field : String} {members : List (String × Value)}
    (hm : map.keys.Nodup) (h : stringMap field map members = .ok found) : found.keys.Nodup := by
  induction members generalizing map with
  | nil =>
    cases h
    exact hm
  | cons member rest ih =>
    rw [stringMap] at h
    split at h
    · exact ih (OrderedMap.nodup_insert hm _ _) h
    · cases h

theorem stringMaps_of_ofFile (h : ofFile file = .ok provider) :
    stringMap Key.arguments.text .empty (file.arguments.getD []) = .ok provider.arguments ∧
      stringMap Key.headers.text .empty (file.headers.getD []) = .ok provider.headers := by
  simp only [ofFile, bind, Except.bind, pure, Except.pure] at h
  repeat' split at h
  all_goals cases h
  exact ⟨by assumption, by assumption⟩

theorem keyed_of_parse {raw : Text.Bytes} (h : parse raw = .ok provider) : provider.Keyed := by
  unfold parse at h
  split at h
  · obtain ⟨ha, hh⟩ := stringMaps_of_ofFile h
    exact ⟨nodup_stringMap OrderedMap.nodup_empty ha, nodup_stringMap OrderedMap.nodup_empty hh⟩
  · cases h

end LinkShot.Provider

import LinkShot.Proofs.Template.Paths
import LinkShot.Proofs.Text.Number
import Mathlib.Algebra.Group.Nat.Defs

/-!
What tokens refer to. Only the parts of a token matter, and of those the first decides: a numeral is
a group whatever follows it, `json` leads along the keys behind it, and any other token is plain
text.
-/
namespace LinkShot.Template

open Text (IsNumeral word64?_eq_some_iff)

variable {text first : List Char} {keys ps rest : List (List Char)} {n : Nat}

/-- What a token with these parts refers to. -/
structure Refers (ps : List (List Char)) (reference : Reference) : Prop where
  group : ∀ n, reference = .group n ↔
    ∃ first rest, ps = first :: rest ∧ IsNumeral n first ∧ n < 2 ^ 64
  json : ∀ keys, reference = .json keys ↔ ps = "json".toList :: keys ∧ keys ≠ []
  literal : reference = .literal ↔
    (∀ n first rest, ps = first :: rest → IsNumeral n first → 2 ^ 64 ≤ n) ∧
      ∀ keys, ps = "json".toList :: keys → keys = []
  empty : ps = [] → reference = .literal
  large : ∀ n first rest, ps = first :: rest → IsNumeral n first → 2 ^ 64 ≤ n → reference = .literal

theorem not_isNumeral_json : ¬ IsNumeral n "json".toList := by
  rintro (h | ⟨rest, heq, -⟩)
  · have hdigit := h.isDigit 'j' (by decide)
    cases hdigit
  · cases heq

theorem classify_number (hp : parts text = first :: rest) (hn : IsNumeral n first)
    (hlt : n < 2 ^ 64) : classify text = .group n := by
  have hword : Text.word64? first = some n := word64?_eq_some_iff.mpr ⟨hn, hlt⟩
  simp only [classify, hp, hword]

theorem classify_json (hp : parts text = "json".toList :: keys) (hne : keys ≠ []) :
    classify text = .json keys := by
  have hword : Text.word64? "json".toList = none := by decide
  simp only [classify, hp, hword]
  exact if_pos ⟨rfl, hne⟩

theorem classify_cases (text : List Char) :
    (∃ n first rest, parts text = first :: rest ∧ IsNumeral n first ∧ n < 2 ^ 64 ∧
      classify text = .group n) ∨
    (∃ keys, parts text = "json".toList :: keys ∧ keys ≠ [] ∧ classify text = .json keys) ∨
    classify text = .literal := by
  cases hp : parts text with
  | nil => exact .inr (.inr (by rw [classify, hp]))
  | cons first rest =>
    cases hw : Text.word64? first with
    | some n =>
      obtain ⟨hn, hlt⟩ := word64?_eq_some_iff.mp hw
      exact .inl ⟨n, first, rest, rfl, hn, hlt, classify_number hp hn hlt⟩
    | none =>
      by_cases hjson : first = "json".toList ∧ rest ≠ []
      · obtain ⟨rfl, hne⟩ := hjson
        exact .inr (.inl ⟨rest, rfl, hne, classify_json hp hne⟩)
      · refine .inr (.inr ?_)
        simp only [classify, hp, hw]
        exact if_neg hjson

theorem classify_eq_group_iff : classify text = .group n ↔
    ∃ first rest, parts text = first :: rest ∧ IsNumeral n first ∧ n < 2 ^ 64 := by
  constructor
  · intro h
    rcases classify_cases text with ⟨m, first, rest, hp, hn, hlt, hc⟩ | ⟨keys, -, -, hc⟩ | hc
    · rw [h] at hc
      cases hc
      exact ⟨first, rest, hp, hn, hlt⟩
    · rw [h] at hc
      cases hc
    · rw [h] at hc
      cases hc
  · rintro ⟨first, rest, hp, hn, hlt⟩
    exact classify_number hp hn hlt

theorem classify_eq_json_iff : classify text = .json keys ↔
    parts text = "json".toList :: keys ∧ keys ≠ [] := by
  constructor
  · intro h
    rcases classify_cases text with ⟨n, first, rest, -, -, -, hc⟩ | ⟨names, hp, hne, hc⟩ | hc
    · rw [h] at hc
      cases hc
    · rw [h] at hc
      cases hc
      exact ⟨hp, hne⟩
    · rw [h] at hc
      cases hc
  · rintro ⟨hp, hne⟩
    exact classify_json hp hne

theorem classify_eq_literal_iff : classify text = .literal ↔
    (∀ n first rest, parts text = first :: rest → IsNumeral n first → 2 ^ 64 ≤ n) ∧
      ∀ keys, parts text = "json".toList :: keys → keys = [] := by
  constructor
  · intro h
    refine ⟨fun n first rest hp hn => ?_, fun keys hp => ?_⟩
    · by_contra hlt
      have hgroup := classify_eq_group_iff.mpr ⟨first, rest, hp, hn, Nat.lt_of_not_le hlt⟩
      rw [h] at hgroup
      cases hgroup
    · by_contra hne
      have hjson := classify_eq_json_iff.mpr ⟨hp, hne⟩
      rw [h] at hjson
      cases hjson
  · rintro ⟨hgroup, hjson⟩
    cases hc : classify text with
    | group n =>
      obtain ⟨first, rest, hp, hn, hlt⟩ := classify_eq_group_iff.mp hc
      exact absurd (hgroup n first rest hp hn) (Nat.not_le_of_lt hlt)
    | json keys =>
      obtain ⟨hp, hne⟩ := classify_eq_json_iff.mp hc
      exact absurd (hjson keys hp) hne
    | literal => rfl

/-- A number that 64 bits cannot hold is no group, and its digits are no `json` either. -/
theorem classify_large (hp : parts text = first :: rest) (hn : IsNumeral n first)
    (hle : 2 ^ 64 ≤ n) : classify text = .literal := by
  refine classify_eq_literal_iff.mpr ⟨fun m first' rest' heq hm => ?_, fun keys heq => ?_⟩
  · cases hp.symm.trans heq
    rwa [hm.unique hn]
  · cases hp.symm.trans heq
    exact absurd hn not_isNumeral_json

theorem refers_classify (text : List Char) : Refers (parts text) (classify text) where
  group _ := classify_eq_group_iff
  json _ := classify_eq_json_iff
  literal := classify_eq_literal_iff
  empty hp := by rw [classify, hp]
  large _ _ _ hp hn hle := classify_large hp hn hle

theorem tokenize_path (h : ∀ key ∈ keys, IsKey key) : tokenize (pathTemplate keys).toList =
    [⟨0, byteLength (pathTemplate keys).toList, pathInner keys⟩] := by
  have hpieces := pieces_path h
  have hsource := @source_pieces (pathTemplate keys).toList
  rw [hpieces, List.flatMap_singleton] at hsource
  rw [tokenize, hpieces, tokensFrom, hsource]
  simp [tokensFrom]

/-- Parts are found again however runs of separators join them, and they alone decide what the token
refers to. Keys that are put behind `json` are found as they are. -/
theorem refers_by_parts :
    (∀ ps text, Joined ps text → parts text = ps ∧ Refers ps (classify text) ∧
      ∀ other, Joined ps other → classify other = classify text) ∧
    ∀ keys, IsPath keys → tokenize (pathTemplate keys).toList =
      [⟨0, byteLength (pathTemplate keys).toList, pathInner keys⟩] ∧
      classify (pathInner keys) = .json keys := by
  refine ⟨fun ps text h => ?_, fun keys h => ⟨tokenize_path h.2, classify_path h⟩⟩
  have hparts : parts text = ps := parts_of_joined h
  refine ⟨hparts, hparts ▸ refers_classify text, fun other ho => ?_⟩
  rw [classify, classify, parts_of_joined ho, hparts]

/-- The last number that 64 bits hold is a group, with a sign, zeros and other parts about it, and
the next number is plain text. -/
theorem refers_by_parts_bounds :
    Joined ["+018446744073709551615".toList, "é$".toList] ":+018446744073709551615,:é$,".toList ∧
    parts ":+018446744073709551615,:é$,".toList = ["+018446744073709551615".toList, "é$".toList] ∧
    classify ":+018446744073709551615,:é$,".toList = .group 18446744073709551615 ∧
    classify "+018446744073709551615:é$".toList = .group 18446744073709551615 ∧
    Joined ["18446744073709551616".toList] "18446744073709551616:".toList ∧
    classify "18446744073709551616:".toList = .literal ∧
    IsPath ["é".toList, "+0".toList] ∧
    tokenize "$json:é,+0$".toList = [⟨0, 12, "json:é,+0".toList⟩] ∧
    classify "json:é,+0".toList = .json ["é".toList, "+0".toList] := by
  have hjoined : Joined ["+018446744073709551615".toList, "é$".toList]
      ":+018446744073709551615,:é$,".toList := by decide
  have hother : Joined ["+018446744073709551615".toList, "é$".toList]
      "+018446744073709551615:é$".toList := by decide
  have hnext : Joined ["18446744073709551616".toList] "18446744073709551616:".toList := by decide
  have hpath : IsPath ["é".toList, "+0".toList] := by decide
  obtain ⟨hrefers, htokens⟩ := refers_by_parts
  obtain ⟨hparts, hfound, hsame⟩ := hrefers _ _ hjoined
  obtain ⟨-, hlarge, -⟩ := hrefers _ _ hnext
  obtain ⟨htoken, hkeys⟩ := htokens _ hpath
  have hgroup := (hfound.group 18446744073709551615).mpr
    ⟨_, _, rfl, word64?_eq_some_iff.mp (by decide)⟩
  refine ⟨hjoined, hparts, hgroup, (hsame _ hother).trans hgroup, hnext,
    hlarge.large 18446744073709551616 _ _ rfl (.inl ⟨0, ?_⟩) (by decide), hpath, htoken, hkeys⟩
  decide +kernel

end LinkShot.Template

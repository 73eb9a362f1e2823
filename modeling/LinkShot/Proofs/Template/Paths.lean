import LinkShot.Proofs.Json.RoundTrip
import LinkShot.Proofs.Template.Extraction
import LinkShot.Proofs.Template.Parts

/-!
Paths into responses. A template that is one path takes the value at its end, and if that is a list
or an object whose numbers are integers, taking it and then a part of it is taking the part at once.
-/
namespace LinkShot.Template

open Json (Value)
open Text (encode)

variable {key : List Char} {keys ks ls : List (List Char)} {provider : Provider}
  {body : String} {json value : Value} {found : Option Match}

/-- A key that a template can name: one that ends neither itself nor the token. -/
def IsKey (key : List Char) : Prop := key ≠ [] ∧ ∀ c ∈ key, c ∉ [':', ',', '$']

instance : DecidablePred IsKey := fun key =>
  have := List.decidableBAll (· ∉ [':', ',', '$']) key
  inferInstanceAs (Decidable (_ ∧ _))

def IsPath (keys : List (List Char)) : Prop := keys ≠ [] ∧ ∀ key ∈ keys, IsKey key

instance : DecidablePred IsPath := fun _ => inferInstanceAs (Decidable (_ ∧ _))

/-- The template `$json:..$` for the value at the end of a path. -/
def pathTemplate (keys : List (List Char)) : String :=
  "$json:" ++ ",".intercalate (keys.map String.ofList) ++ "$"

/-- The provider whose results are the values at the end of the path. -/
def along (provider : Provider) (keys : List (List Char)) : Provider :=
  { provider with template := some (pathTemplate keys) }

theorem IsKey.isPart (h : IsKey key) : IsPart key :=
  ⟨h.1, fun hc => absurd (h.2 _ hc) (by decide), fun hc => absurd (h.2 _ hc) (by decide)⟩

/-- What stands between the marks of a path. -/
def pathInner (keys : List (List Char)) : List Char := "json:".toList ++ [','].intercalate keys

theorem parts_path (h : ∀ key ∈ keys, IsKey key) :
    parts (pathInner keys) = "json".toList :: keys := by
  have hkeys := parts_of_spaced (spaced_intercalate fun key hkey => (h key hkey).isPart)
  have hcut : parts ("json".toList ++ ':' :: [','].intercalate keys) =
      parts "json".toList ++ parts ([','].intercalate keys) := parts_append rfl
  rw [hkeys] at hcut
  exact hcut

theorem classify_path (h : IsPath keys) : classify (pathInner keys) = .json keys := by
  have hnumber : Text.word64? ['j', 's', 'o', 'n'] = none := by decide
  simp [classify, parts_path h.2, hnumber, h.1]

theorem not_mem_pathInner (h : ∀ key ∈ keys, IsKey key) : '$' ∉ pathInner keys := by
  have hkeys : '$' ∉ [','].intercalate keys := by
    intro hm
    induction keys with
    | nil => cases hm
    | cons key keys ih =>
      obtain ⟨hkey, hkeys⟩ := List.forall_mem_cons.mp h
      have hmark : '$' ∉ key := fun hc => hkey.2 _ hc (by simp)
      cases keys with
      | nil => exact hmark (by simpa using hm)
      | cons next keys => exact ih hkeys (by simpa [List.intercalate_cons_cons, hmark] using hm)
  simpa [pathInner] using hkeys

theorem pieces_path (h : ∀ key ∈ keys, IsKey key) :
    pieces (pathTemplate keys).toList = [.token (pathInner keys)] := by
  have htext : (pathTemplate keys).toList = '$' :: (pathInner keys ++ ['$']) := by
    simp [pathTemplate, pathInner, String.toList_intercalate]
  have hne : pathInner keys ≠ [] := by simp [pathInner]
  rw [htext, pieces_token (tokenAt_token (not_mem_pathInner h) hne)]
  rfl

theorem render_path (h : IsPath keys) : render (pathTemplate keys) body found =
    match Value.read (encode body) with
    | .ok json => keyText json keys
    | .error fault => .error (.invalidJson fault) := by
  have hany : [Piece.token (pathInner keys)].any isJson = true := by simp [isJson, classify_path h]
  rw [render, pieces_path h.2, jsonOf, hany]
  cases Value.read (encode body) with
  | error fault => rfl
  | ok json =>
    simp only [fill, resolve, classify_path h, lookup_eq, if_true, bind, Except.bind]
    cases keyText json keys <;> simp [Except.map, pure, Except.pure]

theorem plain_of_nested (h : value.isNested = true) : value.plain = value.text := by
  cases value <;> first | rfl | cases h

section

variable [Regex.Engine]

/-- Whether the pattern that is matched, if there is one, is valid. -/
def hasValidPattern (provider : Provider) : Bool :=
  provider.patterns.head?.all fun pattern => (Regex.Engine.compile pattern).isSome

theorem extract_path (h : IsPath keys) : (extract (along provider keys) body).toOption =
    if hasValidPattern provider then
      ((Value.read (encode body)).toOption.bind (·.at? keys)).map Value.plain
    else none := by
  have hrender (found : Option Match) : (render (pathTemplate keys) body found).toOption =
      ((Value.read (encode body)).toOption.bind (·.at? keys)).map Value.plain := by
    rw [render_path h]
    cases Value.read (encode body) with
    | error fault => rfl
    | ok json =>
      simp only [keyText, Except.toOption, Option.bind_some]
      cases json.at? keys <;> rfl
  rw [extract, along, hasValidPattern]
  cases provider.patterns with
  | nil => exact (hrender none).trans (if_pos rfl).symm
  | cons pattern patterns =>
    cases hc : Regex.Engine.compile pattern with
    | none =>
      simp only [Match.find, List.head?_cons, Option.all_some, hc]
      rfl
    | some p =>
      simp only [Match.find, List.head?_cons, Option.all_some, hc]
      exact hrender _

/-- The text that is taken for a list or an object is JSON for that value, and what a path takes
from it is what the whole path takes from the response. -/
theorem paths_compose (provider : Provider) (hbody : Value.read (encode body) = .ok json)
    (hks : IsPath ks) (hls : IsPath ls) (hat : json.at? ks = some value)
    (hnested : value.isNested = true)
    (hnumbers : ∀ n ∈ value.numbers, n.IsWord) :
    Value.read (encode value.text) = .ok value ∧
    (hasValidPattern provider = true → extract (along provider ks) body = .ok value.text) ∧
    (extract (along provider (ks ++ ls)) body).toOption =
      (extract (along provider ks) body).toOption.bind fun text =>
        (extract (along provider ls) text).toOption := by
  have hread := Json.read_text (Json.within_at (Json.within_read hbody) hat) hnumbers
  have hboth : IsPath (ks ++ ls) :=
    ⟨by simp [hks.1], fun key hk => (List.mem_append.mp hk).elim (hks.2 key) (hls.2 key)⟩
  have hall : json.at? (ks ++ ls) = value.at? ls := by
    rw [Value.at?, List.foldlM_append]
    exact congrArg (·.bind (·.at? ls)) hat
  have htake : (extract (along provider ks) body).toOption =
      if hasValidPattern provider then some value.text else none := by
    rw [extract_path hks, toOption_eq_some_iff.mpr hbody, Option.bind_some, hat, Option.map_some,
      plain_of_nested hnested]
  refine ⟨hread, fun hvalid => ?_, ?_⟩
  · rw [← toOption_eq_some_iff, htake, if_pos hvalid]
  · rw [htake, extract_path hboth, toOption_eq_some_iff.mpr hbody, Option.bind_some, hall]
    split_ifs with hvalid
    · rw [Option.bind_some, extract_path hls, if_pos hvalid, toOption_eq_some_iff.mpr hread,
        Option.bind_some]
    · rfl

end

/-- A provider without patterns. -/
def patternless : Provider :=
  ⟨"Paste", .get, "https://paste.test", none, false, false, .empty, .empty, [], none, none⟩

/-- A response with a repeated key, an escaped control character and a text like a token. -/
def nestedBody : String := "\x7b\"a\":\x7b\"k\":1,\"k\":[-2,\"\\u0001$1$\"]\x7d\x7d"

theorem paths_compose_escaped : IsPath [['a']] ∧ IsPath [['k'], ['1']] ∧
    ∃ json value, Value.read (encode nestedBody) = .ok json ∧ json.at? [['a']] = some value ∧
      value.isNested = true ∧ (∀ n ∈ value.numbers, n.IsWord) ∧
      Value.read (encode value.text) = .ok value ∧
      extract (along patternless [['a']]) nestedBody = .ok value.text ∧
      (extract (along patternless [['k'], ['1']]) value.text).toOption = some "\x01$1$" := by
  have hks : IsPath [['a']] := by decide
  have hls : IsPath [['k'], ['1']] := by decide
  have hshape : ((Value.read (encode nestedBody)).toOption.bind fun json =>
      (json.at? [['a']]).map fun value => (value.isNested, value.numbers)) =
        some (true, [.int (-2)]) := by decide +kernel
  have hwhole : (extract (along patternless [['a'], ['k'], ['1']]) nestedBody).toOption =
      some "\x01$1$" := by decide +kernel
  obtain ⟨json, hjson, hshape⟩ := Option.bind_eq_some_iff.mp hshape
  obtain ⟨value, hat, hshape⟩ := Option.map_eq_some_iff.mp hshape
  obtain ⟨hnested, hnumbers⟩ := Prod.mk.inj hshape
  have hbody := toOption_eq_some_iff.mp hjson
  have hwords : ∀ n ∈ value.numbers, n.IsWord := by simp [hnumbers, Json.Number.IsWord]
  obtain ⟨hread, htake, hboth⟩ :=
    paths_compose patternless hbody hks hls hat hnested hwords
  have htake := htake rfl
  rw [htake] at hboth
  exact ⟨hks, hls, json, value, hbody, hat, hnested, hwords, hread, htake, hboth.symm.trans hwhole⟩

end LinkShot.Template

import LinkShot.Template.Extraction
import LinkShot.Regex.Search
import LinkShot.Proofs.Json.Path
import LinkShot.Proofs.Template.Tokens

/-!
What a provider makes of a response, told by the bytes of its template: the spans of the tokens that
stand for something are replaced by texts of the response, and every other byte stays.
-/
namespace LinkShot.Template

open Json (Value)
open Text (Bytes utf8 encode)

variable {source done : Bytes} {last : Nat} {token : Token} {tokens : List Token}
  {texts : List (Token × Except Error String)} {json : Value} {patterns : List String}
  {body text : String} {inner : List Char} {ps : List Piece} {found : Option Match}

def keyText (json : Value) (keys : List (List Char)) : Except Error String :=
  match json.at? keys with
  | some value => .ok value.plain
  | none =>
    let lost := (json.lost? keys).getD keys
    .error (.missingKey (",".intercalate (lost.map String.ofList)))

/-- The bytes of a source from a place on, with spans after it replaced. -/
def splice (source : Bytes) (last : Nat) : List (Token × String) → Bytes
  | [] => source.drop last
  | (token, text) :: edits =>
    (source.take token.start).drop last ++ encode text ++ splice source token.stop edits

def failure? (texts : List (Token × Except Error String)) : Option Error :=
  texts.findSome? fun (_, text) => match text with
    | .error error => some error
    | .ok _ => none

/-- The source with all texts in place, or the first failure among them. -/
def substitute (source : Bytes) (last : Nat) (texts : List (Token × Except Error String)) :
    Except Error Bytes :=
  match failure? texts with
  | some error => .error error
  | none =>
    .ok (splice source last (texts.filterMap fun (token, text) => text.toOption.map (token, ·)))

def needsJson (tokens : List Token) : Bool :=
  tokens.any fun token => match classify token.inner with
    | .json _ => true
    | _ => false

theorem substitute_ok : substitute source last ((token, .ok text) :: texts) =
    (substitute source token.stop texts).map
      ((source.take token.start).drop last ++ encode text ++ ·) := by
  have h : failure? ((token, .ok text) :: texts) = failure? texts := rfl
  rw [substitute, substitute, h]
  cases failure? texts <;> rfl

theorem lookup_eq {keys : List (List Char)} : lookup json keys = keyText json keys := by
  rw [lookup, keyText, Value.walk_eq]
  cases json.at? keys with
  | some value => rfl
  | none =>
    have h (path : List (List Char)) : String.ofList (path.intersperse [',']).flatten =
        ",".intercalate (path.map String.ofList) := by
      rw [← String.toList_inj, String.toList_intercalate]
      simp [List.intercalate]
    dsimp only
    rw [h, List.nil_append]

theorem any_isJson {offset : Nat} : ps.any isJson = needsJson (tokensFrom offset ps) := by
  induction ps generalizing offset with
  | nil => rfl
  | cons piece ps ih =>
    cases piece with
    | plain c => exact ih
    | token inner =>
      rw [List.any_cons, ih]
      rfl

section

variable [Regex.Engine]

/-- The text of a group of the first pattern, which is taken to compile. -/
def groupText (patterns : List String) (body : String) (index : Nat) : Except Error String :=
  match patterns with
  | [] => .error (.noPattern index)
  | pattern :: _ =>
    match (Regex.Engine.compile pattern).bind (· body) with
    | none => .error (.noMatch pattern)
    | some groups =>
      if h : index < groups.length then .ok (groups[index].getD "")
      else .error (.groupOutOfRange index (groups.length - 1))

/-- What a token stands for; unknown ones stand for nothing. -/
def textOf (patterns : List String) (body : String) (json : Value) (inner : List Char) :
    Option (Except Error String) :=
  match classify inner with
  | .group index => some (groupText patterns body index)
  | .json keys => some (keyText json keys)
  | .literal => none

def textsOf (patterns : List String) (body : String) (json : Value) (tokens : List Token) :
    List (Token × Except Error String) :=
  tokens.filterMap fun token => (textOf patterns body json token.inner).map (token, ·)

/-- The template with its tokens replaced. -/
def filled (patterns : List String) (body template : String) : Except Error Bytes :=
  let tokens := tokensAt 0 template.toList
  let result := fun json => substitute (encode template) 0 (textsOf patterns body json tokens)
  if needsJson tokens then
    match Value.read (encode body) with
    | .ok json => result json
    | .error fault => .error (.invalidJson fault)
  else result .null

/-- The result of a provider as its template and its first pattern determine it. -/
def outcome (provider : Provider) (body : String) : Except Error Bytes :=
  match provider.patterns.head?.filter fun pattern => (Regex.Engine.compile pattern).isNone with
  | some pattern => .error (.invalidPattern pattern)
  | none =>
    match provider.template with
    | none => .ok (encode body)
    | some template => filled provider.patterns body template

theorem textsOf_cons : textsOf patterns body json (token :: tokens) =
    match textOf patterns body json token.inner with
    | some text => (token, text) :: textsOf patterns body json tokens
    | none => textsOf patterns body json tokens := by
  rw [textsOf, List.filterMap_cons]
  cases textOf patterns body json token.inner <;> rfl

/-- What the pieces still to be filled make of a source when those before them are `done`. -/
theorem map_fill (hr : ∀ inner, resolve json found inner =
      match textOf patterns body json inner with
      | some text => text.map String.toList
      | none => .ok (Piece.token inner).source)
    (hs : source = done ++ utf8 (ps.flatMap Piece.source)) (hl : last ≤ done.length) :
    (fill json found ps).map (fun cs => done.drop last ++ utf8 cs) = substitute source last
      (textsOf patterns body json (tokensFrom done.length ps)) := by
  induction ps generalizing done last with
  | nil => simp [fill, Except.map, hs, tokensFrom, textsOf, substitute, failure?, splice]
  | cons piece ps ih =>
    have hn : done.length + byteLength piece.source = (done ++ utf8 piece.source).length := by
      rw [List.length_append, length_utf8]
    have hs' : source = done ++ utf8 piece.source ++ utf8 (ps.flatMap Piece.source) := by
      simpa using hs
    have hl' : last ≤ (done ++ utf8 piece.source).length := by
      rw [List.length_append]
      omega
    cases piece with
    | plain c =>
      rw [tokensFrom, hn, ← ih hs' hl', fill]
      cases fill json found ps <;>
        simp [Except.map, List.drop_append_of_le_length hl, Piece.source, Text.utf8_cons]
    | token inner =>
      rw [tokensFrom, hn, fill, hr, textsOf_cons]
      cases ht : textOf patterns body json inner with
      | none =>
        dsimp only
        rw [← ih hs' hl']
        cases fill json found ps <;>
          simp [Except.map, bind, Except.bind, pure, Except.pure, List.drop_append_of_le_length hl]
      | some text =>
        cases text with
        | error error => rfl
        | ok text =>
          rw [substitute_ok, ← ih hs' (Nat.le_refl _)]
          have htake : source.take done.length = done := by simp [hs]
          cases fill json found ps <;>
            simp [Except.map, bind, Except.bind, pure, Except.pure, htake, encode]

/-- The first pattern, which is taken to compile, with its groups. -/
def foundFirst (patterns : List String) (body : String) : Option Match :=
  patterns.head?.map fun pattern => ⟨pattern, (Regex.Engine.compile pattern).bind (· body)⟩

theorem resolve_eq : resolve json (foundFirst patterns body) inner =
    match textOf patterns body json inner with
    | some text => text.map String.toList
    | none => .ok (Piece.token inner).source := by
  rw [resolve, textOf]
  cases classify inner with
  | literal => rfl
  | json keys => exact congrArg (Except.map String.toList) lookup_eq
  | group index =>
    cases patterns with
    | nil => rfl
    | cons pattern patterns =>
      simp only [foundFirst, List.head?_cons, Option.map_some, Match.group, groupText]
      cases (Regex.Engine.compile pattern).bind (· body) with
      | none => rfl
      | some groups =>
        by_cases h : index < groups.length <;> simp [h]

theorem render_eq (patterns : List String) (body template : String) :
    (render template body (foundFirst patterns body)).map encode =
      filled patterns body template := by
  have hf (json : Value) :
      (fill json (foundFirst patterns body) (pieces template.toList)).map utf8 =
        substitute (encode template) 0 (textsOf patterns body json
          (tokensAt 0 template.toList)) := by
    have hs : encode template = [] ++ utf8 ((pieces template.toList).flatMap Piece.source) := by
      rw [source_pieces]
      rfl
    simpa [tokensFrom_pieces] using map_fill (fun _ => resolve_eq) hs (Nat.le_refl 0)
  have hm (filled : Except Error (List Char)) :
      (filled >>= fun cs => pure (String.ofList cs)).map encode = filled.map utf8 := by
    cases filled <;> simp [bind, Except.bind, pure, Except.pure, Except.map]
  have hj : (pieces template.toList).any isJson = needsJson (tokensAt 0 template.toList) := by
    rw [← tokensFrom_pieces, any_isJson]
  rw [render, jsonOf, hj, filled]
  cases needsJson (tokensAt 0 template.toList) with
  | false => exact (hm _).trans (hf .null)
  | true =>
    cases Value.read (encode body) with
    | ok json => exact (hm _).trans (hf json)
    | error fault => rfl

theorem extract_eq_outcome {provider : Provider} :
    (extract provider body).map encode = outcome provider body := by
  rw [extract, outcome]
  cases provider.patterns with
  | nil =>
    cases provider.template with
    | none => rfl
    | some template => exact render_eq [] body template
  | cons pattern patterns =>
    have hf := render_eq (pattern :: patterns) body
    simp only [foundFirst, List.head?_cons, Option.map_some] at hf
    simp only [Match.find, List.head?_cons, Option.filter_some]
    cases hc : Regex.Engine.compile pattern with
    | none => rfl
    | some p =>
      rw [hc] at hf
      cases provider.template with
      | none => rfl
      | some template => exact hf template

/-- Extraction is what the template and the first pattern determine, whatever matches the pattern;
other patterns never matter. -/
theorem extract_from_template (provider : Provider) (body : String) :
    (extract provider body).map encode = outcome provider body ∧
      extract { provider with patterns := provider.patterns.take 1 } body =
        extract provider body := by
  refine ⟨extract_eq_outcome, ?_⟩
  rw [extract, extract]
  cases provider.patterns <;> rfl

end

example : extract ⟨"Paste", .get, "https://paste.test", none, false, false, .empty, .empty,
    ["i(d)"], some "$1$/$x$/$json:k$", none⟩ "\x7b\"k\": \"$1$id\"\x7d" = .ok "d/$x$/$1$id" := by
  decide +kernel

end LinkShot.Template

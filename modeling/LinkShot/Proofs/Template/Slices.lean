import LinkShot.Template.Extraction
import LinkShot.Proofs.Template.Tokens

/-!
Templates by slices. A slice lies between two places of a template, counted in bytes, and there is
one only if both places are between characters. Rendering can be done by slices: what stands between
two replaced tokens is cut out, and none of the cuts fails.
-/
namespace LinkShot.Template

variable {c : Char} {cs before text after kept pending inner : List Char} {start stop n : Nat}
  {ps : List Piece} {json : Json.Value} {found : Option Match} {template body : String}

/-- A text cut behind that many bytes, if that is between two characters. -/
def cut? : Nat → List Char → Option (List Char × List Char)
  | 0, cs => some ([], cs)
  | _ + 1, [] => none
  | n + 1, c :: cs =>
    if c.utf8Size ≤ n + 1 then (cut? (n + 1 - c.utf8Size) cs).map fun (before, after) =>
      (c :: before, after)
    else none

/-- The text between two places, if both are between characters and in this order. -/
def slice? (cs : List Char) (start stop : Nat) : Option (List Char) :=
  if start ≤ stop then do
    let (_, rest) ← cut? start cs
    let (text, _) ← cut? (stop - start) rest
    return text
  else none

@[simp] theorem byteLength_nil : byteLength [] = 0 := rfl

@[simp] theorem byteLength_cons : byteLength (c :: cs) = c.utf8Size + byteLength cs := rfl

@[simp] theorem byteLength_append :
    byteLength (before ++ after) = byteLength before + byteLength after := by
  induction before with
  | nil => simp
  | cons c before ih => simp [ih, Nat.add_assoc]

theorem cut?_append : cut? (byteLength before) (before ++ after) = some (before, after) := by
  induction before with
  | nil => simp [cut?]
  | cons c before ih =>
    have hpos := c.utf8Size_pos
    obtain ⟨n, hn⟩ := Nat.exists_eq_add_one.mpr (Nat.add_pos_left hpos (byteLength before))
    have hle : c.utf8Size ≤ n + 1 := by omega
    have hrest : n + 1 - c.utf8Size = byteLength before := by omega
    rw [byteLength_cons, hn, List.cons_append, cut?, if_pos hle, hrest, ih]
    rfl

theorem cut?_eq_some_iff :
    cut? n cs = some (before, after) ↔ cs = before ++ after ∧ byteLength before = n := by
  constructor
  · intro h
    fun_induction cut? n cs generalizing before with
    | case1 cs =>
      cases h
      exact ⟨rfl, rfl⟩
    | case2 n => cases h
    | case3 n c cs hle ih =>
      obtain ⟨⟨first, rest⟩, hcut, heq⟩ := Option.map_eq_some_iff.mp h
      cases heq
      obtain ⟨rfl, hlen⟩ := ih hcut
      exact ⟨rfl, by simp [hlen]; omega⟩
    | case4 n c cs hle => cases h
  · rintro ⟨rfl, rfl⟩
    exact cut?_append

theorem slice?_eq_some_iff : slice? cs start stop = some text ↔
    ∃ before after, cs = before ++ (text ++ after) ∧ byteLength before = start ∧
      start + byteLength text = stop := by
  constructor
  · intro h
    unfold slice? at h
    split at h
    · rename_i hle
      simp only [Option.bind_eq_bind, Option.bind_eq_some_iff, Prod.exists, Option.pure_def,
        Option.some.injEq] at h
      obtain ⟨before, rest, hbefore, text', after, htext, rfl⟩ := h
      obtain ⟨rfl, hstart⟩ := cut?_eq_some_iff.mp hbefore
      obtain ⟨rfl, hlen⟩ := cut?_eq_some_iff.mp htext
      exact ⟨before, after, rfl, hstart, by omega⟩
    · cases h
  · rintro ⟨before, after, rfl, rfl, rfl⟩
    simp [slice?, cut?_append]

/-- Fills a template from its tokens: what stands before each token that is replaced is cut out,
from `last` on, and so is what stands behind the last of them. -/
def fillSlices (json : Json.Value) (found : Option Match) (template : List Char) (last : Nat) :
    List Token → Option (Except Error (List Char))
  | [] => (slice? template last (byteLength template)).map .ok
  | token :: rest =>
    if classify token.inner = .literal then fillSlices json found template last rest
    else match resolve json found token.inner with
      | .error error => some (.error error)
      | .ok text => do
        let before ← slice? template last token.start
        let filled ← fillSlices json found template token.stop rest
        return filled.map (before ++ text ++ ·)

/-- Rendering from tokens and slices; nothing comes of it where a slice is not there. -/
def renderSlices (template body : String) (found : Option Match) : Option (Except Error String) :=
  match jsonOf body (pieces template.toList) with
  | .error error => some (.error error)
  | .ok json =>
    (fillSlices json found template.toList 0 (tokenize template.toList)).map (·.map String.ofList)

/-- Up to a place everything is `kept` or replaced; what is `pending` is cut out with the next
slice. -/
theorem fillSlices_eq (hcs : cs = kept ++ (pending ++ ps.flatMap Piece.source)) :
    fillSlices json found cs (byteLength kept) (tokensFrom (byteLength (kept ++ pending)) ps) =
      some ((fill json found ps).map (pending ++ ·)) := by
  induction ps generalizing kept pending with
  | nil =>
    have hslice : slice? cs (byteLength kept) (byteLength cs) = some pending :=
      slice?_eq_some_iff.mpr ⟨kept, [], by simpa using hcs, rfl, by simp [hcs]⟩
    simp [tokensFrom, fillSlices, hslice, fill, Except.map]
  | cons piece ps ih =>
    have hnext : cs = kept ++ (pending ++ piece.source ++ ps.flatMap Piece.source) := by
      simpa using hcs
    have hstop : byteLength (kept ++ pending) + byteLength piece.source =
        byteLength (kept ++ (pending ++ piece.source)) := by simp [Nat.add_assoc]
    cases piece with
    | plain c =>
      rw [tokensFrom, hstop, ih hnext, fill]
      cases fill json found ps <;> simp [Except.map, Piece.source]
    | token inner =>
      rw [tokensFrom, hstop, fillSlices, fill]
      by_cases hc : classify inner = .literal
      · rw [if_pos hc, ih hnext, resolve, hc]
        cases fill json found ps <;> simp [Except.map, bind, Except.bind, pure, Except.pure]
      · rw [if_neg hc]
        cases resolve json found inner with
        | error error => rfl
        | ok text =>
          have hslice : slice? cs (byteLength kept) (byteLength (kept ++ pending)) = some pending :=
            slice?_eq_some_iff.mpr ⟨kept, _, hcs, rfl, by simp⟩
          have hbehind : cs = kept ++ (pending ++ (Piece.token inner).source) ++
              ([] ++ ps.flatMap Piece.source) := by simpa using hcs
          have hrest := ih hbehind
          rw [List.append_nil] at hrest
          simp only [hslice, hrest]
          cases fill json found ps <;> simp [Except.map, bind, Except.bind, pure, Except.pure]

/-- Every slice that rendering takes is there, and the result is the same. -/
theorem renderSlices_eq : renderSlices template body found = some (render template body found) := by
  have hfill (json : Json.Value) :
      fillSlices json found template.toList 0 (tokenize template.toList) =
        some (fill json found (pieces template.toList)) := by
    have hcs : template.toList = [] ++ ([] ++ (pieces template.toList).flatMap Piece.source) := by
      simp [source_pieces]
    have h : fillSlices json found template.toList 0 _ = _ := fillSlices_eq hcs
    rw [tokenize]
    cases hf : fill json found (pieces template.toList) <;> simpa [hf, Except.map] using h
  rw [renderSlices, render]
  cases jsonOf body (pieces template.toList) with
  | error error => rfl
  | ok json =>
    simp only [hfill, bind, Except.bind, pure, Except.pure]
    cases fill json found (pieces template.toList) <;> rfl

end LinkShot.Template

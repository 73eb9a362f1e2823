import LinkShot.Proofs.Outcome
import LinkShot.Proofs.Template.Slices

/-!
Templates that are put together. Where no mark is left behind the last token, another template may
be added: the tokens are those of both, and so are the results.
-/
namespace LinkShot.Template

open Json (Value)
open Text (utf8 encode)

variable {c : Char} {cs ds rest : List Char} {ps qs : List Piece} {offset n : Nat} {token : Token}
  {json json' : Value} {found : Option Match} {front back template body text : String}

/-- The place where the last token ends, or the first place if there is no token. -/
def lastStop (cs : List Char) : Nat := ((tokenize cs).getLast?.map Token.stop).getD 0

/-- No mark stands behind the last token, and none at all where there is no token. -/
def Settled (cs : List Char) : Prop := 0x24 ∉ (utf8 cs).drop (lastStop cs)

instance : DecidablePred Settled := fun _ => inferInstanceAs (Decidable (_ ∉ _))

/-- The same token so many bytes further on. -/
def Token.shift (n : Nat) (t : Token) : Token := ⟨n + t.start, n + t.stop, t.inner⟩

/-- A token follows behind every mark that is plain text. -/
def Sealed (ps : List Piece) : Prop :=
  ∀ before after, ps = before ++ .plain '$' :: after → ∃ inner, .token inner ∈ after

theorem tokensFrom_append : tokensFrom offset (ps ++ qs) =
    tokensFrom offset ps ++ tokensFrom (offset + byteLength (ps.flatMap Piece.source)) qs := by
  induction ps generalizing offset with
  | nil => simp [tokensFrom]
  | cons piece ps ih => cases piece <;> simp [tokensFrom, ih, Nat.add_assoc]

theorem tokensFrom_shift :
    tokensFrom (n + offset) ps = (tokensFrom offset ps).map (Token.shift n) := by
  induction ps generalizing offset with
  | nil => rfl
  | cons piece ps ih => cases piece <;> simp [tokensFrom, Nat.add_assoc, ih, Token.shift]

theorem tokensFrom_of_no_token (h : ∀ inner, .token inner ∉ ps) : tokensFrom offset ps = [] := by
  induction ps generalizing offset with
  | nil => rfl
  | cons piece ps ih =>
    cases piece with
    | plain c => exact ih fun inner hin => h inner (List.mem_cons_of_mem _ hin)
    | token inner => exact absurd List.mem_cons_self (h inner)

theorem stop_le_of_mem (h : token ∈ tokensFrom offset ps) :
    token.stop ≤ offset + byteLength (ps.flatMap Piece.source) := by
  induction ps generalizing offset with
  | nil => cases h
  | cons piece ps ih =>
    rw [List.flatMap_cons, byteLength_append, ← Nat.add_assoc]
    cases piece with
    | plain c => exact ih h
    | token inner =>
      rcases List.mem_cons.mp h with rfl | h
      · exact Nat.le_add_right _ _
      · exact ih h

/-- The last token ends before what no token follows. -/
theorem lastStop_le (hcs : pieces cs = ps ++ qs) (h : ∀ inner, .token inner ∉ qs) :
    lastStop cs ≤ byteLength (ps.flatMap Piece.source) := by
  rw [lastStop, tokenize, hcs, tokensFrom_append, tokensFrom_of_no_token h, List.append_nil]
  cases hlast : (tokensFrom 0 ps).getLast? with
  | none => exact Nat.zero_le _
  | some token =>
    have hstop := stop_le_of_mem (List.mem_of_getLast? hlast)
    rwa [Nat.zero_add] at hstop

theorem sealed_of_settled (h : Settled cs) : Sealed (pieces cs) := by
  intro before after hcs
  by_contra hnone
  have hlater : ∀ inner, .token inner ∉ Piece.plain '$' :: after := by simpa using hnone
  have hlast := lastStop_le hcs hlater
  have hbytes : utf8 cs = utf8 (before.flatMap Piece.source) ++
      0x24 :: utf8 (after.flatMap Piece.source) := by
    rw [← @source_pieces cs, hcs, List.flatMap_append, Text.utf8_append]
    rfl
  apply h
  rw [hbytes, List.drop_append_of_le_length (by rwa [length_utf8])]
  simp

/-- A mark that opens no token though others follow is followed by another at once. -/
theorem exists_mark_next (hm : '$' ∈ rest) (h : tokenAt ('$' :: rest) = none) :
    ∃ after, rest = '$' :: after := by
  obtain ⟨inner, after, rfl, hin⟩ := List.eq_append_cons_of_mem hm
  cases inner with
  | nil => exact ⟨after, rfl⟩
  | cons d inner =>
    rw [tokenAt_token hin (by simp)] at h
    cases h

theorem mark_mem_of_token {inner : List Char} (h : .token inner ∈ pieces rest) : '$' ∈ rest := by
  rw [← @source_pieces rest, List.mem_flatMap]
  exact ⟨_, h, List.mem_cons_self⟩

/-- No token begins in what is plain and ends in what is added. -/
theorem tokenAt_append_eq_none (h : tokenAt (c :: rest) = none)
    (hs : c = '$' → ∃ inner, .token inner ∈ pieces rest) : tokenAt (c :: (rest ++ ds)) = none := by
  by_cases hc : c = '$'
  · obtain ⟨inner, hin⟩ := hs hc
    subst hc
    obtain ⟨after, rfl⟩ := exists_mark_next (mark_mem_of_token hin) h
    simp [tokenAt]
  · simp [tokenAt, hc]

theorem pieces_append (h : Sealed (pieces cs)) : pieces (cs ++ ds) = pieces cs ++ pieces ds := by
  fun_induction tokensAt 0 cs with
  | case1 => rfl
  | case2 _ c rest inner after ht hlt stop ih =>
    obtain ⟨heq, hin, hne⟩ := tokenAt_eq_some_iff.mp ht
    rw [pieces_token ht] at h ⊢
    have hrest : Sealed (pieces after) := by
      intro front back hafter
      exact h (.token inner :: front) back (by rw [hafter]; rfl)
    have ht' : tokenAt (c :: (rest ++ ds)) = some (inner, after ++ ds) := by
      rw [← List.cons_append, heq, List.cons_append, List.append_assoc, List.cons_append]
      exact tokenAt_token hin hne
    rw [List.cons_append, pieces_token ht', ih hrest, List.cons_append]
  | case3 _ c rest ht ih =>
    rw [pieces_plain ht] at h ⊢
    have hrest : Sealed (pieces rest) := by
      intro front back hback
      exact h (.plain c :: front) back (by rw [hback]; rfl)
    have ht' : tokenAt (c :: (rest ++ ds)) = none :=
      tokenAt_append_eq_none ht fun hc => h [] (pieces rest) (by rw [hc]; rfl)
    rw [List.cons_append, pieces_plain ht', ih hrest, List.cons_append]

theorem tokenize_append (h : Settled cs) :
    tokenize (cs ++ ds) = tokenize cs ++ (tokenize ds).map (Token.shift (byteLength cs)) := by
  rw [tokenize, pieces_append (sealed_of_settled h), tokensFrom_append, source_pieces, Nat.zero_add,
    tokenize, tokenize, ← tokensFrom_shift, Nat.add_zero]

/-- Each half of a template is filled by itself. -/
theorem fill_append_eq_ok_iff : fill json found (ps ++ qs) = .ok cs ↔
    ∃ before after, fill json found ps = .ok before ∧ fill json found qs = .ok after ∧
      cs = before ++ after := by
  induction ps generalizing cs with
  | nil => simp [fill, eq_comm]
  | cons piece ps ih =>
    cases piece with
    | plain c =>
      simp only [List.cons_append, fill, map_eq_ok_iff, ih]
      constructor
      · rintro ⟨_, ⟨before, after, hb, ha, rfl⟩, rfl⟩
        exact ⟨_, after, ⟨before, hb, rfl⟩, ha, rfl⟩
      · rintro ⟨_, after, ⟨before, hb, rfl⟩, ha, rfl⟩
        exact ⟨_, ⟨before, after, hb, ha, rfl⟩, rfl⟩
    | token inner =>
      simp only [List.cons_append, fill, bind_eq_ok_iff, pure_eq_ok_iff, ih]
      constructor
      · rintro ⟨text, ht, _, ⟨before, after, hb, ha, rfl⟩, rfl⟩
        exact ⟨_, after, ⟨text, ht, before, hb, rfl⟩, ha, by rw [List.append_assoc]⟩
      · rintro ⟨_, after, ⟨text, ht, before, hb, rfl⟩, ha, rfl⟩
        exact ⟨text, ht, _, ⟨before, after, hb, ha, rfl⟩, by rw [List.append_assoc]⟩

/-- A response that no token asks for may be any. -/
theorem fill_congr (h : ps.any isJson = false) : fill json found ps = fill json' found ps := by
  induction ps with
  | nil => rfl
  | cons piece ps ih =>
    rw [List.any_cons, Bool.or_eq_false_iff] at h
    cases piece with
    | plain c => rw [fill, fill, ih h.2]
    | token inner =>
      have hresolve : resolve json found inner = resolve json' found inner := by
        have hnot := h.1
        rw [isJson] at hnot
        rw [resolve, resolve]
        cases hc : classify inner with
        | json keys => simp [hc] at hnot
        | _ => rfl
      rw [fill, fill, hresolve, ih h.2]

theorem jsonOf_eq_ok_iff : jsonOf body ps = .ok json ↔
    if ps.any isJson then Value.read (encode body) = .ok json else json = .null := by
  rw [jsonOf]
  split
  · cases Value.read (encode body) <;> simp
  · simp [eq_comm]

/-- Rendering needs the response as JSON only for a template that asks for it. -/
theorem render_eq_ok_iff : render template body found = .ok text ↔
    ∃ json, ((pieces template.toList).any isJson = true → Value.read (encode body) = .ok json) ∧
      fill json found (pieces template.toList) = .ok text.toList := by
  have htext (cs : List Char) : String.ofList cs = text ↔ cs = text.toList := by
    rw [← String.toList_inj, String.toList_ofList]
  simp only [render, bind_eq_ok_iff, pure_eq_ok_iff, jsonOf_eq_ok_iff, htext, exists_eq_right]
  cases hany : (pieces template.toList).any isJson with
  | true => simp
  | false =>
    constructor
    · rintro ⟨json, -, hfill⟩
      exact ⟨json, fun h => absurd h Bool.false_ne_true, hfill⟩
    · rintro ⟨json, -, hfill⟩
      exact ⟨.null, rfl, (fill_congr hany).trans hfill⟩

theorem render_append_eq_ok_iff (h : Settled front.toList) :
    render (front ++ back) body found = .ok text ↔ ∃ first second,
      render front body found = .ok first ∧ render back body found = .ok second ∧
        text = first ++ second := by
  simp only [render_eq_ok_iff, String.toList_append, pieces_append (sealed_of_settled h),
    List.any_append, Bool.or_eq_true, fill_append_eq_ok_iff]
  constructor
  · rintro ⟨json, hread, before, after, hb, ha, htext⟩
    refine ⟨.ofList before, .ofList after, ⟨json, fun hany => hread (.inl hany), ?_⟩,
      ⟨json, fun hany => hread (.inr hany), ?_⟩, ?_⟩
    · rw [hb, String.toList_ofList]
    · rw [ha, String.toList_ofList]
    · rw [← String.toList_inj, htext]
      simp
  · rintro ⟨first, second, ⟨json, hread, hb⟩, ⟨json', hread', ha⟩, rfl⟩
    -- the response is read for the first half, or else whatever the second half takes will do
    cases hany : (pieces front.toList).any isJson with
    | false =>
      refine ⟨json', fun hor => hread' (hor.resolve_left Bool.false_ne_true), _, _, ?_, ha,
        String.toList_append⟩
      rw [fill_congr hany]
      exact hb
    | true =>
      refine ⟨json, fun _ => hread hany, _, _, hb, ?_, String.toList_append⟩
      cases hany' : (pieces back.toList).any isJson with
      | false => exact (fill_congr hany').trans ha
      | true =>
        have hsame := (hread hany).symm.trans (hread' hany')
        cases hsame
        exact ha

/-- A template without a mark behind its last token may be continued by any other. The tokens are
its own and those of the other, so many bytes further on, and the two render together just if each
of them does, to both results one after the other. -/
theorem renders_by_parts (h : Settled front.toList) (back : String) :
    tokenize (front ++ back).toList = tokenize front.toList ++
      (tokenize back.toList).map (Token.shift (byteLength front.toList)) ∧
    ∀ body found text, render (front ++ back) body found = .ok text ↔ ∃ first second,
      render front body found = .ok first ∧ render back body found = .ok second ∧
        text = first ++ second := by
  refine ⟨?_, fun _ _ _ => render_append_eq_ok_iff h⟩
  rw [String.toList_append]
  exact tokenize_append h

/-- Neither the pair of marks at the seam nor the marks that are put in make a token. -/
theorem renders_by_parts_paired : Settled "é$1$".toList ∧
    tokenize ("é$1$" ++ "$$json:k$").toList = [⟨2, 5, ['1']⟩, ⟨6, 14, "json:k".toList⟩] ∧
    render ("é$1$" ++ "$$json:k$") "\x7b\"k\": \"$1$\"\x7d"
      (some ⟨"i(d)", some [some "id", some "d"]⟩) = .ok "éd$$1$" := by
  have hs : Settled "é$1$".toList := by decide +kernel
  obtain ⟨htokens, hrender⟩ := renders_by_parts hs "$$json:k$"
  refine ⟨hs, ?_, (hrender _ _ _).mpr ⟨"éd", "$$1$", ?_, ?_, rfl⟩⟩
  · rw [htokens]
    decide +kernel
  · decide +kernel
  · decide +kernel

end LinkShot.Template

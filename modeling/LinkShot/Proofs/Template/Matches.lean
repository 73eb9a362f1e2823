import LinkShot.Proofs.Template.Slices
import Mathlib.Computability.Language

/-!
Tokens as matches. The tokens of a template are the leftmost matches, none over another, of a mark,
one or more characters that are no marks, and a mark; and they are told by where the marks outside
of them stand: each is followed by another mark at once, unless it is the last mark of all.
-/
namespace LinkShot.Template

open Text (utf8 encode)

variable {c : Char} {cs before text after rest inner : List Char} {start stop first i j k : Nat}
  {spans spans' : List (Nat × Nat)} {tokens : List Token} {token : Token}

/-- One character that is not the mark of tokens. -/
def unmarked : Language Char := {text | ∃ c, c ≠ '$' ∧ text = [c]}

/-- The texts of tokens: `\$[^$]+\$`. -/
def tokenTexts : Language Char := {['$']} * (unmarked * KStar.kstar unmarked) * {['$']}

/-- The text between two places is in the language. -/
def MatchAt (l : Language Char) (cs : List Char) (start stop : Nat) : Prop :=
  ∃ text ∈ l, slice? cs start stop = some text

/-- The spans are matches from a place on, each the first that begins behind the one before, and no
other follows them. -/
inductive Leftmost (l : Language Char) (cs : List Char) : Nat → List (Nat × Nat) → Prop where
  | none {first : Nat} :
      (∀ start stop, first ≤ start → ¬ MatchAt l cs start stop) → Leftmost l cs first []
  | next {first start stop : Nat} {spans : List (Nat × Nat)} :
      first ≤ start → MatchAt l cs start stop →
      (∀ start' stop', first ≤ start' → MatchAt l cs start' stop' → start ≤ start') →
      Leftmost l cs stop spans → Leftmost l cs first ((start, stop) :: spans)

/-- A mark stands at a place of the encoded template. -/
def MarkAt (cs : List Char) (i : Nat) : Prop := (utf8 cs)[i]? = some 0x24

/-- What tells the tokens of a template: each span is a token's text; the spans follow one another;
a mark outside of them that stands before one of them is followed by another mark; and so is a mark
behind them all, unless it is the last. -/
structure IsTokens (cs : List Char) (tokens : List Token) : Prop where
  spans : ∀ t ∈ tokens, t.start < t.stop ∧ t.inner ≠ [] ∧ '$' ∉ t.inner ∧
    slice? cs t.start t.stop = some ('$' :: (t.inner ++ ['$']))
  apart : tokens.Pairwise (·.stop ≤ ·.start)
  before : ∀ i, MarkAt cs i → (∀ t ∈ tokens, i < t.start ∨ t.stop ≤ i) →
    (∃ t ∈ tokens, i < t.start) → MarkAt cs (i + 1)
  behind : ∀ i, MarkAt cs i → (∀ t ∈ tokens, t.stop ≤ i) → (∃ j, i < j ∧ MarkAt cs j) →
    MarkAt cs (i + 1)

def Token.span (t : Token) : Nat × Nat := (t.start, t.stop)

theorem mem_kstar_unmarked : text ∈ KStar.kstar unmarked ↔ '$' ∉ text := by
  rw [Language.mem_kstar]
  constructor
  · rintro ⟨parts, rfl, hparts⟩ hm
    obtain ⟨part, hpart, hin⟩ := List.mem_flatten.mp hm
    obtain ⟨c, hc, rfl⟩ := hparts part hpart
    exact hc (List.mem_singleton.mp hin).symm
  · intro h
    refine ⟨text.map fun c => [c], by simp [← List.flatMap_def], ?_⟩
    intro part hpart
    obtain ⟨c, hc, rfl⟩ := List.mem_map.mp hpart
    exact ⟨c, fun he => h (he ▸ hc), rfl⟩

theorem mem_tokenTexts : text ∈ tokenTexts ↔
    ∃ inner, inner ≠ [] ∧ '$' ∉ inner ∧ text = '$' :: (inner ++ ['$']) := by
  simp only [tokenTexts, Language.mem_mul]
  constructor
  · rintro ⟨_, ⟨_, rfl, _, ⟨_, ⟨c, hc, rfl⟩, tail, htail, rfl⟩, rfl⟩, _, rfl, rfl⟩
    rw [mem_kstar_unmarked] at htail
    exact ⟨c :: tail, by simp, by simp [htail, Ne.symm hc], by simp⟩
  · rintro ⟨inner, hne, hin, rfl⟩
    cases inner with
    | nil => exact absurd rfl hne
    | cons c tail =>
      rw [List.mem_cons, not_or] at hin
      exact ⟨_, ⟨_, rfl, _, ⟨[c], ⟨c, Ne.symm hin.1, rfl⟩, tail, mem_kstar_unmarked.mpr hin.2, rfl⟩,
        rfl⟩, _, rfl, by simp⟩

/-- A match begins where a token does. -/
theorem matchAt_iff : MatchAt tokenTexts cs start stop ↔
    ∃ before rest inner after, cs = before ++ rest ∧ byteLength before = start ∧
      tokenAt rest = some (inner, after) ∧
      stop = start + byteLength (Piece.token inner).source := by
  simp only [MatchAt, mem_tokenTexts, slice?_eq_some_iff, tokenAt_eq_some_iff]
  constructor
  · rintro ⟨_, ⟨inner, hne, hin, rfl⟩, before, after, rfl, hstart, hstop⟩
    exact ⟨before, _, inner, after, rfl, hstart, ⟨by simp, hin, hne⟩, hstop.symm⟩
  · rintro ⟨before, _, inner, after, rfl, hstart, ⟨rfl, hin, hne⟩, rfl⟩
    exact ⟨_, ⟨inner, hne, hin, rfl⟩, before, after, by simp, hstart, rfl⟩

/-- A place is between two characters in one way only. -/
theorem append_inj_of_byteLength {before' rest' : List Char} (h : before ++ rest = before' ++ rest')
    (hlen : byteLength before = byteLength before') : before = before' ∧ rest = rest' := by
  have hcut : cut? (byteLength before) (before ++ rest) = some (before', rest') := by
    rw [h, hlen, cut?_append]
  rw [cut?_append] at hcut
  cases hcut
  exact ⟨rfl, rfl⟩

/-- Where a match begins tells where it ends. -/
theorem stop_unique (h : MatchAt tokenTexts cs start stop) (h' : MatchAt tokenTexts cs start j) :
    stop = j := by
  obtain ⟨before, rest, inner, after, rfl, hb, ht, rfl⟩ := matchAt_iff.mp h
  obtain ⟨before', rest', inner', after', hcs, hb', ht', rfl⟩ := matchAt_iff.mp h'
  obtain ⟨rfl, rfl⟩ := append_inj_of_byteLength hcs (hb.trans hb'.symm)
  rw [ht] at ht'
  cases ht'
  rfl

theorem leftmost_unique (h : Leftmost tokenTexts cs first spans)
    (h' : Leftmost tokenTexts cs first spans') : spans = spans' := by
  induction h generalizing spans' with
  | none hn =>
    cases h' with
    | none => rfl
    | next hle hm => exact absurd hm (hn _ _ hle)
  | next hle hm hfirst _ ih =>
    cases h' with
    | none hn => exact absurd hm (hn _ _ hle)
    | next hle' hm' hfirst' hrest' =>
      obtain rfl := Nat.le_antisymm (hfirst _ _ hle' hm') (hfirst' _ _ hle hm)
      obtain rfl := stop_unique hm hm'
      rw [ih hrest']

/-- Of two places the later one is behind what follows the earlier one. -/
theorem append_of_byteLength_le {before' rest' : List Char} (h : before ++ rest = before' ++ rest')
    (hle : byteLength before ≤ byteLength before') :
    ∃ more, before' = before ++ more ∧ rest = more ++ rest' := by
  rcases List.append_eq_append_iff.mp h with ⟨more, hb, hr⟩ | ⟨more, rfl, rfl⟩
  · exact ⟨more, hb, hr⟩
  · cases more with
    | nil => exact ⟨[], by simp⟩
    | cons c more =>
      have hpos := c.utf8Size_pos
      simp only [byteLength_append, byteLength_cons] at hle
      omega

theorem utf8_mark : utf8 ('$' :: rest) = 0x24 :: utf8 rest := rfl

/-- The byte of a mark stands for a mark, between two characters. -/
theorem markAt_iff : MarkAt cs i ↔
    ∃ before after, cs = before ++ '$' :: after ∧ byteLength before = i := by
  constructor
  · intro h
    induction cs generalizing i with
    | nil => simp [MarkAt] at h
    | cons c cs ih =>
      rw [MarkAt, Text.utf8_cons] at h
      by_cases hi : i < c.utf8Size
      · have hlen : i < (String.utf8EncodeChar c).length := by
          rwa [String.length_utf8EncodeChar]
        rw [List.getElem?_append_left hlen] at h
        have hc : '$' = c := (Text.mem_encodeChar (by decide)).mp (List.mem_of_getElem? h)
        subst hc
        have hsize : ('$' : Char).utf8Size = 1 := rfl
        exact ⟨[], cs, rfl, by rw [byteLength_nil]; omega⟩
      · have hlen : (String.utf8EncodeChar c).length ≤ i := by
          rw [String.length_utf8EncodeChar]
          omega
        rw [List.getElem?_append_right hlen, String.length_utf8EncodeChar] at h
        obtain ⟨before, after, rfl, hb⟩ := ih h
        exact ⟨c :: before, after, rfl, by rw [byteLength_cons]; omega⟩
  · rintro ⟨before, after, rfl, rfl⟩
    rw [MarkAt, Text.utf8_append, utf8_mark, ← length_utf8]
    simp

/-- A mark that is not the last one, and is not followed by another at once, opens a match. -/
theorem matchAt_of_marks (hi : MarkAt cs i) (hj : MarkAt cs j) (hlt : i < j)
    (hn : ¬ MarkAt cs (i + 1)) : ∃ stop, MatchAt tokenTexts cs i stop := by
  obtain ⟨before, rest, rfl, rfl⟩ := markAt_iff.mp hi
  obtain ⟨before', after', hcs, rfl⟩ := markAt_iff.mp hj
  obtain ⟨more, rfl, hrest⟩ := append_of_byteLength_le hcs (Nat.le_of_lt hlt)
  have hm : '$' ∈ rest := by
    cases more with
    | nil => simp at hlt
    | cons c more =>
      obtain ⟨-, rfl⟩ := List.cons.inj hrest
      simp
  obtain ⟨inner, after, rfl, hin⟩ := List.eq_append_cons_of_mem hm
  have hne : inner ≠ [] := by
    rintro rfl
    exact hn (markAt_iff.mpr ⟨before ++ ['$'], after, by simp, by simp; rfl⟩)
  exact ⟨_, matchAt_iff.mpr ⟨before, _, inner, after, rfl, rfl, tokenAt_token hin hne, rfl⟩⟩

/-- A match begins with a mark that no other follows at once, and another follows later. -/
theorem marks_of_matchAt (h : MatchAt tokenTexts cs start stop) :
    MarkAt cs start ∧ ¬ MarkAt cs (start + 1) ∧ ∃ j, start < j ∧ MarkAt cs j := by
  obtain ⟨before, rest, inner, after, rfl, rfl, ht, -⟩ := matchAt_iff.mp h
  obtain ⟨rfl, hin, hne⟩ := tokenAt_eq_some_iff.mp ht
  refine ⟨markAt_iff.mpr ⟨before, _, rfl, rfl⟩, ?_, byteLength (before ++ '$' :: inner), ?_, ?_⟩
  · intro hm
    obtain ⟨before', after', hcs, hb⟩ := markAt_iff.mp hm
    have hcs' : (before ++ ['$']) ++ (inner ++ '$' :: after) = before' ++ '$' :: after' := by
      simpa using hcs
    obtain ⟨-, hrest⟩ := append_inj_of_byteLength hcs' (by rw [hb]; simp; rfl)
    cases inner with
    | nil => exact hne rfl
    | cons c inner => exact hin (by simp [(List.cons.inj hrest).1])
  · have hsize : ('$' : Char).utf8Size = 1 := rfl
    simp only [byteLength_append, byteLength_cons]
    omega
  · exact markAt_iff.mpr ⟨before ++ '$' :: inner, after, by simp, rfl⟩

/-- Places without a match may be passed over. -/
theorem leftmost_of_later {l : Language Char} (h : Leftmost l cs k spans) (hle : first ≤ k)
    (hm : ∀ start stop, first ≤ start → MatchAt l cs start stop → k ≤ start) :
    Leftmost l cs first spans := by
  cases h with
  | none hn =>
    exact .none fun start stop hs hmatch => hn start stop (hm start stop hs hmatch) hmatch
  | next hk hmatch hfirst hrest =>
    exact .next (Nat.le_trans hle hk) hmatch
      (fun start' stop' hs hmatch' => hfirst start' stop' (hm start' stop' hs hmatch') hmatch')
      hrest

theorem leftmost_tokensAt (hcs : cs = before ++ rest) (hb : byteLength before = first) :
    Leftmost tokenTexts cs first ((tokensAt first rest).map Token.span) := by
  fun_induction tokensAt first rest generalizing before with
  | case1 first =>
    refine .none fun start stop hs hm => ?_
    obtain ⟨before', rest', inner, after, hcs', hb', ht, -⟩ := matchAt_iff.mp hm
    obtain ⟨rfl, -, -⟩ := tokenAt_eq_some_iff.mp ht
    obtain ⟨more, -, hrest⟩ := append_of_byteLength_le (hcs.symm.trans hcs') (by omega)
    simp at hrest
  | @case2 first c rest inner after ht hlt stop ih =>
    refine .next (Nat.le_refl _) ?_ (fun start' stop' hs _ => hs) ?_
    · exact matchAt_iff.mpr ⟨before, _, inner, after, hcs, hb, ht, rfl⟩
    · obtain ⟨heq, -, -⟩ := tokenAt_eq_some_iff.mp ht
      have hbehind : cs = before ++ (Piece.token inner).source ++ after := by
        rw [hcs, heq]
        simp [Piece.source]
      exact ih hbehind (by simp [hb, stop])
  | case3 first c rest ht ih =>
    have hbehind : cs = before ++ [c] ++ rest := by simp [hcs]
    have hnext := ih hbehind (by simp [hb])
    refine leftmost_of_later hnext (Nat.le_add_right _ _) fun start stop hs hm => ?_
    -- a match from here on begins behind the character, for it is not the mark of a token
    obtain ⟨before', rest', inner, after, hcs', hb', ht', -⟩ := matchAt_iff.mp hm
    obtain ⟨more, rfl, hrest⟩ := append_of_byteLength_le (hcs.symm.trans hcs') (by omega)
    cases more with
    | nil =>
      rw [hrest, List.nil_append, ht'] at ht
      cases ht
    | cons d more =>
      obtain ⟨rfl, -⟩ := List.cons.inj hrest
      simp only [byteLength_append, byteLength_cons] at hb'
      omega

theorem leftmost_tokenize : Leftmost tokenTexts cs 0 ((tokenize cs).map Token.span) := by
  rw [tokenize, tokensFrom_pieces]
  exact leftmost_tokensAt (List.nil_append cs).symm rfl

/-- Outside of the leftmost matches every mark but the last one is followed by another at once. -/
theorem markAt_succ (h : Leftmost tokenTexts cs first spans) (hi : first ≤ i) (hm : MarkAt cs i)
    (hout : ∀ s ∈ spans, i < s.1 ∨ s.2 ≤ i) (hlt : i < j) (hj : MarkAt cs j) :
    MarkAt cs (i + 1) := by
  induction h with
  | none hn =>
    by_contra hnext
    obtain ⟨stop, hmatch⟩ := matchAt_of_marks hm hj hlt hnext
    exact hn i stop hi hmatch
  | @next first start stop spans hle hmatch hfirst _ ih =>
    rcases hout _ (List.mem_cons_self) with hbefore | hbehind
    · by_contra hnext
      obtain ⟨stop', hmatch'⟩ := matchAt_of_marks hm hj hlt hnext
      exact absurd (hfirst i stop' hi hmatch') (Nat.not_le.mpr hbefore)
    · exact ih hbehind fun s hs => hout s (List.mem_cons_of_mem _ hs)

theorem pairwise_of_leftmost {l : Language Char} (h : Leftmost l cs first spans) :
    (∀ s ∈ spans, first ≤ s.1) ∧ spans.Pairwise (·.2 ≤ ·.1) := by
  induction h with
  | none => simp
  | @next first start stop spans hle hmatch _ _ ih =>
    obtain ⟨hfirst, hpair⟩ := ih
    obtain ⟨text, -, hslice⟩ := hmatch
    obtain ⟨-, -, -, -, hstop⟩ := slice?_eq_some_iff.mp hslice
    refine ⟨?_, List.pairwise_cons.mpr ⟨hfirst, hpair⟩⟩
    intro s hs
    rcases List.mem_cons.mp hs with rfl | hs
    · exact hle
    · have := hfirst s hs
      omega

theorem spans_tokensAt (hcs : cs = before ++ rest) (hb : byteLength before = first)
    (ht : token ∈ tokensAt first rest) :
    token.start < token.stop ∧ token.inner ≠ [] ∧ '$' ∉ token.inner ∧
      slice? cs token.start token.stop = some ('$' :: (token.inner ++ ['$'])) := by
  fun_induction tokensAt first rest generalizing before with
  | case1 => cases ht
  | @case2 first c rest inner after hat hlt stop ih =>
    obtain ⟨heq, hin, hne⟩ := tokenAt_eq_some_iff.mp hat
    rcases List.mem_cons.mp ht with rfl | ht
    · refine ⟨?_, hne, hin, ?_⟩
      · have hpos := ('$' : Char).utf8Size_pos
        simp only [stop, Piece.source, byteLength_cons]
        omega
      · exact slice?_eq_some_iff.mpr ⟨before, after, by rw [hcs, heq]; simp, hb, rfl⟩
    · have hbehind : cs = before ++ (Piece.token inner).source ++ after := by
        rw [hcs, heq]
        simp [Piece.source]
      exact ih hbehind (by simp [hb, stop]) ht
  | case3 first c rest hat ih =>
    have hbehind : cs = before ++ [c] ++ rest := by simp [hcs]
    exact ih hbehind (by simp [hb]) ht

theorem isTokens_tokenize : IsTokens cs (tokenize cs) := by
  have hleft := @leftmost_tokenize cs
  have hout {i : Nat} (h : ∀ t ∈ tokenize cs, i < t.start ∨ t.stop ≤ i) :
      ∀ s ∈ (tokenize cs).map Token.span, i < s.1 ∨ s.2 ≤ i := by
    intro s hs
    obtain ⟨t, ht, rfl⟩ := List.mem_map.mp hs
    exact h t ht
  have hspans (t : Token) (ht : t ∈ tokenize cs) : t.start < t.stop ∧ t.inner ≠ [] ∧ '$' ∉ t.inner ∧
      slice? cs t.start t.stop = some ('$' :: (t.inner ++ ['$'])) := by
    rw [tokenize, tokensFrom_pieces] at ht
    exact spans_tokensAt (List.nil_append cs).symm rfl ht
  constructor
  · exact hspans
  · exact List.pairwise_map.mp (pairwise_of_leftmost hleft).2
  · rintro i hi h ⟨t, ht, hlt⟩
    obtain ⟨-, hne, hin, hslice⟩ := hspans t ht
    have hmatch : MatchAt tokenTexts cs t.start t.stop :=
      ⟨_, mem_tokenTexts.mpr ⟨t.inner, hne, hin, rfl⟩, hslice⟩
    exact markAt_succ hleft (Nat.zero_le _) hi (hout h) hlt (marks_of_matchAt hmatch).1
  · rintro i hi h ⟨j, hlt, hj⟩
    exact markAt_succ hleft (Nat.zero_le _) hi (hout fun t ht => .inr (h t ht)) hlt hj

/-- What is told by the marks outside of it is leftmost. `done` has been passed. -/
theorem leftmost_of_isTokens {done : List Token} (h : IsTokens cs (done ++ tokens))
    (hdone : ∀ t ∈ done, t.stop ≤ first) (hrest : ∀ t ∈ tokens, first ≤ t.start) :
    Leftmost tokenTexts cs first (tokens.map Token.span) := by
  induction tokens generalizing done first with
  | nil =>
    rw [List.append_nil] at h
    refine .none fun start stop hs hm => ?_
    obtain ⟨hstart, hn, hlater⟩ := marks_of_matchAt hm
    exact hn (h.behind start hstart (fun t ht => Nat.le_trans (hdone t ht) hs) hlater)
  | cons t tokens ih =>
    obtain ⟨hlt, hne, hin, hslice⟩ := h.spans t (by simp)
    have hapart := (List.pairwise_append.mp h.apart).2.1
    obtain ⟨hnext, -⟩ := List.pairwise_cons.mp hapart
    refine .next (hrest t (by simp)) ⟨_, mem_tokenTexts.mpr ⟨t.inner, hne, hin, rfl⟩, hslice⟩ ?_ ?_
    · intro start' stop' hs hm
      by_contra hlate
      obtain ⟨hstart, hn, -⟩ := marks_of_matchAt hm
      refine hn (h.before start' hstart ?_ ⟨t, by simp, by omega⟩)
      intro u hu
      rcases List.mem_append.mp hu with hu | hu
      · exact .inr (Nat.le_trans (hdone u hu) hs)
      · rcases List.mem_cons.mp hu with rfl | hu
        · exact .inl (by omega)
        · have := hnext u hu
          exact .inl (by omega)
    · have hpassed : IsTokens cs (done ++ [t] ++ tokens) := by simpa using h
      refine ih hpassed ?_ hnext
      intro u hu
      rcases List.mem_append.mp hu with hu | hu
      · have := hdone u hu
        have := hrest t (by simp)
        omega
      · rw [List.mem_singleton.mp hu]

/-- Spans tell tokens: what is between the marks is cut out of the template. -/
theorem eq_of_spans {tokens' : List Token} (h : IsTokens cs tokens) (h' : IsTokens cs tokens')
    (heq : tokens.map Token.span = tokens'.map Token.span) : tokens = tokens' := by
  have hrebuild {ts : List Token} (hts : IsTokens cs ts) : (ts.map Token.span).map (fun s =>
      (⟨s.1, s.2, ((slice? cs s.1 s.2).getD []).tail.dropLast⟩ : Token)) = ts := by
    rw [List.map_map]
    refine (List.map_congr_left fun t ht => ?_).trans (List.map_id _)
    simp [Token.span, (hts.spans t ht).2.2.2]
  rw [← hrebuild h, heq, hrebuild h']

theorem isTokens_iff : IsTokens cs tokens ↔ tokens = tokenize cs := by
  constructor
  · intro h
    have hnone : IsTokens cs ([] ++ tokens) := h
    have hleft := leftmost_of_isTokens hnone (by simp) fun t _ => Nat.zero_le t.start
    exact eq_of_spans h isTokens_tokenize (leftmost_unique hleft leftmost_tokenize)
  · rintro rfl
    exact isTokens_tokenize

/-- What a token refers to is cut out from between its marks. -/
theorem slice_inner (h : slice? cs start stop = some ('$' :: (inner ++ ['$']))) :
    slice? cs (start + 1) (stop - 1) = some inner := by
  obtain ⟨before, after, rfl, rfl, rfl⟩ := slice?_eq_some_iff.mp h
  have hsize : ('$' : Char).utf8Size = 1 := rfl
  refine slice?_eq_some_iff.mpr ⟨before ++ ['$'], '$' :: after, by simp, by simp [hsize], ?_⟩
  simp only [byteLength_cons, byteLength_append, byteLength_nil, hsize]
  omega

/-- The tokens of a template are told by where its marks stand, and they are its leftmost matches of
a mark, characters that are none, and a mark. All the slices that tokens are taken with, and all
those that rendering takes from one replaced token to the next, are between characters. -/
theorem tokens_by_marks (template : String) :
    (∀ tokens, IsTokens template.toList tokens ↔ tokens = tokenize template.toList) ∧
    (∀ spans, Leftmost tokenTexts template.toList 0 spans ↔
      spans = (tokenize template.toList).map Token.span) ∧
    (∀ t ∈ tokenize template.toList,
      slice? template.toList (t.start + 1) (t.stop - 1) = some t.inner) ∧
    (∀ body found, renderSlices template body found = some (render template body found)) := by
  refine ⟨fun _ => isTokens_iff, fun spans => ⟨fun h => ?_, ?_⟩, ?_, fun _ _ => renderSlices_eq⟩
  · exact leftmost_unique h leftmost_tokenize
  · rintro rfl
    exact leftmost_tokenize
  · intro t ht
    exact slice_inner (isTokens_tokenize.spans t ht).2.2.2

end LinkShot.Template

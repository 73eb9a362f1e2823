import LinkShot.Template.Token
import LinkShot.Proofs.Text.Separator
import LinkShot.Proofs.Text.Utf8

/-!
Tokens by their places. They are sought here from left to right, each where the last one ended,
apart from the pieces that a template is read as; both ways find the same.
-/
namespace LinkShot.Template

open Text (utf8 first_mark takeWhile_mark dropWhile_mark dropWhile_no_mark)

variable {c : Char} {cs ds rest inner after text : List Char} {offset : Nat} {ps : List Piece}

theorem length_utf8 : (utf8 cs).length = byteLength cs := by
  induction cs with
  | nil => rfl
  | cons c cs ih =>
    rw [Text.utf8_cons, List.length_append, ih, String.length_utf8EncodeChar]
    rfl

/-- The inner text of the token that a text begins with, and what follows the token. -/
def tokenAt : List Char → Option (List Char × List Char)
  | '$' :: rest =>
    match rest.takeWhile (· ≠ '$'), rest.dropWhile (· ≠ '$') with
    | [], _ => none
    | _, [] => none
    | inner, _ :: after => some (inner, after)
  | _ => none

theorem tokenAt_token (h : '$' ∉ inner) (hne : inner ≠ []) :
    tokenAt ('$' :: (inner ++ '$' :: after)) = some (inner, after) := by
  rw [tokenAt, takeWhile_mark h, dropWhile_mark h]
  cases inner with
  | nil => exact absurd rfl hne
  | cons c inner => rfl

theorem tokenAt_eq_some_iff : tokenAt cs = some (inner, after) ↔
    cs = '$' :: (inner ++ '$' :: after) ∧ '$' ∉ inner ∧ inner ≠ [] := by
  constructor
  · intro h
    cases cs with
    | nil => simp [tokenAt] at h
    | cons c rest =>
      by_cases hc : c = '$'
      · subst hc
        rcases first_mark '$' rest with hr | ⟨before, after', rfl, hb⟩
        · have hd : rest.dropWhile (· ≠ '$') = [] := dropWhile_no_mark hr
          rw [tokenAt, hd] at h
          grind
        · by_cases hne : before = []
          · subst hne
            simp [tokenAt] at h
          · rw [tokenAt_token hb hne] at h
            cases h
            exact ⟨rfl, hb, hne⟩
      · simp [tokenAt, hc] at h
  · rintro ⟨rfl, h, hne⟩
    exact tokenAt_token h hne

theorem length_after (h : tokenAt cs = some (inner, after)) : after.length < cs.length := by
  rw [(tokenAt_eq_some_iff.mp h).1]
  simp
  omega

/-- The tokens of a text that stands at an offset. -/
def tokensAt (offset : Nat) : List Char → List Token
  | [] => []
  | c :: rest =>
    match h : tokenAt (c :: rest) with
    | some (inner, after) =>
      have := length_after h
      let stop := offset + byteLength (Piece.token inner).source
      ⟨offset, stop, inner⟩ :: tokensAt stop after
    | none => tokensAt (offset + c.utf8Size) rest
termination_by cs => cs.length
decreasing_by
  · exact this
  · exact Nat.lt_succ_self _

theorem scan_plain (h : '$' ∉ cs) : scan none cs = cs.map .plain := by
  induction cs with
  | nil => rfl
  | cons c cs ih =>
    have hc : c ≠ '$' := fun he => h (by simp [he])
    have hcs : '$' ∉ cs := fun hm => h (by simp [hm])
    simp [scan, hc, ih hcs]

/-- A `$` that no other follows is plain. -/
theorem scan_unclosed (h : '$' ∉ cs) :
    scan (some text) cs = .plain '$' :: (text.reverse ++ cs).map .plain := by
  induction cs generalizing text with
  | nil => simp [scan]
  | cons c cs ih =>
    have hc : c ≠ '$' := fun he => h (by simp [he])
    have hcs : '$' ∉ cs := fun hm => h (by simp [hm])
    cases text <;> simp [scan, hc, ih hcs]

theorem scan_closed (h : '$' ∉ cs) (hne : text.reverse ++ cs ≠ []) :
    scan (some text) (cs ++ '$' :: rest) = .token (text.reverse ++ cs) :: scan none rest := by
  induction cs generalizing text with
  | nil =>
    cases text with
    | nil => exact absurd rfl hne
    | cons d text => simp [scan]
  | cons c cs ih =>
    have hc : c ≠ '$' := fun he => h (by simp [he])
    have hcs : '$' ∉ cs := fun hm => h (by simp [hm])
    cases text <;> simp [scan, hc, ih hcs]

theorem pieces_token (h : tokenAt cs = some (inner, after)) :
    pieces cs = .token inner :: pieces after := by
  obtain ⟨rfl, hd, hne⟩ := tokenAt_eq_some_iff.mp h
  have hs : scan (some []) (inner ++ '$' :: after) = .token inner :: scan none after :=
    scan_closed hd hne
  simpa [pieces, scan] using hs

theorem pieces_plain (h : tokenAt (c :: rest) = none) :
    pieces (c :: rest) = .plain c :: pieces rest := by
  by_cases hc : c = '$'
  · subst hc
    rcases first_mark '$' rest with hr | ⟨before, after, rfl, hb⟩
    · simp [pieces, scan, scan_unclosed hr, scan_plain hr]
    · by_cases hne : before = []
      · subst hne
        simp [pieces, scan]
      · rw [tokenAt_token hb hne] at h
        exact absurd h (by simp)
  · simp [pieces, scan, hc]

theorem tokensFrom_pieces : tokensFrom offset (pieces cs) = tokensAt offset cs := by
  fun_induction tokensAt offset cs with
  | case1 => rfl
  | case2 offset c rest inner after h hlt stop ih =>
    rw [pieces_token h, tokensFrom]
    exact congrArg _ ih
  | case3 offset c rest h ih =>
    rw [pieces_plain h, tokensFrom]
    simpa [Piece.source, byteLength] using ih

example : tokenize "a$$1$b$".toList = [⟨2, 5, ['1']⟩] := rfl

theorem source_pieces : (pieces cs).flatMap Piece.source = cs := by
  fun_induction tokensAt 0 cs with
  | case1 => rfl
  | case2 offset c rest inner after h hlt stop ih =>
    rw [pieces_token h, List.flatMap_cons, ih, (tokenAt_eq_some_iff.mp h).1]
    simp [Piece.source]
  | case3 offset c rest h ih =>
    rw [pieces_plain h, List.flatMap_cons, ih]
    rfl

end LinkShot.Template

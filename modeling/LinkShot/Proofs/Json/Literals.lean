import LinkShot.Json.Printer
import LinkShot.Proofs.Text.Utf8

/-!
String literals. A text that is quoted is read back as it was, whatever characters it has: one by
one they are written as pieces that denote just them.
-/
namespace LinkShot.Json

open Text (Bytes utf8 mem_encodeChar encodeChar_ascii)

variable {c : Char} {cs : List Char} {b e : UInt8} {bs rest : Bytes} {ps : List Piece}
  {ending : StringEnd}

/-- Bytes that need no escape. -/
def Bare (bs : Bytes) : Prop := ∀ b ∈ bs, 0x20 ≤ b ∧ b ≠ byteOf '"' ∧ b ≠ byteOf '\\'

theorem readString_bare (h : Bare bs) :
    readString (bs ++ rest) = (bs.map .raw ++ (readString rest).1, (readString rest).2) := by
  induction bs with
  | nil => rfl
  | cons b bs ih =>
    obtain ⟨⟨hlow, hquote, hslash⟩, hbs⟩ := List.forall_mem_cons.mp h
    rw [List.cons_append, readString.eq_def]
    simp only [hquote, UInt8.not_lt.mpr hlow, hslash, if_false, ih hbs, List.map_cons,
      List.cons_append]

theorem bytesFrom_bare : Literal.bytesFrom ending (bs.map .raw ++ ps) =
    (Literal.bytesFrom ending ps).map (bs ++ ·) := by
  induction bs with
  | nil => cases h : Literal.bytesFrom ending ps <;> simp [h, Except.map]
  | cons b bs ih =>
    rw [List.map_cons, List.cons_append, Literal.bytesFrom, ih]
    cases Literal.bytesFrom ending ps <;> rfl

theorem bare_encodeChar (hlow : 0x20 ≤ c.toNat) (hquote : c ≠ '"') (hslash : c ≠ '\\') :
    Bare (String.utf8EncodeChar c) := by
  intro b hb
  have hne {d : Char} (hd : d.toNat < 0x80) (hc : c ≠ d) : b ≠ byteOf d := by
    rintro rfl
    exact hc ((mem_encodeChar hd).mp hb).symm
  refine ⟨?_, hne (by decide) hquote, hne (by decide) hslash⟩
  by_contra hcontrol
  -- a byte below the blank is a character by itself, and there is only one character
  have hb' : b.toNat < 0x20 := UInt8.lt_iff_toNat_lt.mp (UInt8.not_le.mp hcontrol)
  have hchar : ∀ n < 0x20, (Char.ofNat n).toNat = n := by decide
  have hc := hchar b.toNat hb'
  have hb : byteOf (Char.ofNat b.toNat) ∈ String.utf8EncodeChar c := by
    rw [byteOf, hc]
    simpa using hb
  rw [byteOf, mem_encodeChar (by omega)] at hb
  rw [hb] at hc
  omega

theorem utf8_bytes (h : ∀ c ∈ cs, c.toNat < 0x80) : utf8 cs = cs.map byteOf := by
  induction cs with
  | nil => rfl
  | cons c cs ih =>
    obtain ⟨hc, hcs⟩ := List.forall_mem_cons.mp h
    rw [Text.utf8_cons, encodeChar_ascii hc, ih hcs]
    rfl

theorem readString_letter (hu : e ≠ byteOf 'u') (h : escapeLetter e = some b) :
    readString (byteOf '\\' :: e :: rest) =
      ([.escaped b] ++ (readString rest).1, (readString rest).2) := by
  rw [readString.eq_def]
  simp only [hu, h, if_false]
  rfl

theorem readString_unit {h i j k : UInt8} {u : Nat} (hu : hexUnit? h i j k = some u) :
    readString (byteOf '\\' :: byteOf 'u' :: h :: i :: j :: k :: rest) =
      ([.unit u] ++ (readString rest).1, (readString rest).2) := by
  rw [readString.eq_def]
  simp only [hu]
  rfl

theorem bytesFrom_unit {u : Nat} (h : u < 0xD800) : Literal.bytesFrom ending ([.unit u] ++ ps) =
    (Literal.bytesFrom ending ps).map (String.utf8EncodeChar (Char.ofNat u) ++ ·) := by
  have htail : isTailSurrogate u = false := by
    simp [isTailSurrogate]; omega
  have hlead : isLeadSurrogate u = false := by
    simp [isLeadSurrogate]; omega
  rw [List.singleton_append, Literal.bytesFrom.eq_def]
  simp only [htail, hlead, Bool.false_eq_true, if_false]

/-- A character is read back from pieces. -/
def Spelled (c : Char) (written : List Char) : Prop :=
  ∃ ps, (∀ rest, readString (utf8 written ++ rest) =
      (ps ++ (readString rest).1, (readString rest).2)) ∧
    ∀ ending pieces, Literal.bytesFrom ending (ps ++ pieces) =
      (Literal.bytesFrom ending pieces).map (String.utf8EncodeChar c ++ ·)

theorem spelled_letter {d : Char} (hd : d.toNat < 0x80) (hu : byteOf d ≠ byteOf 'u')
    (h : escapeLetter (byteOf d) = some (byteOf c)) (hc : c.toNat < 0x80) :
    Spelled c ['\\', d] := by
  refine ⟨[.escaped (byteOf c)], fun rest => ?_, fun ending pieces => ?_⟩
  · rw [utf8_bytes (by simpa using hd)]
    exact readString_letter hu h
  · rw [List.singleton_append, Literal.bytesFrom, encodeChar_ascii hc]
    rfl

theorem spelled_unit (h : c.toNat < 0x20) : Spelled c
    ['\\', 'u', '0', '0', hexLower (c.toNat / 16), hexLower (c.toNat % 16)] := by
  have hdigit : ∀ n < 16, (hexLower n).toNat < 0x80 := by decide
  have hunit : ∀ n < 0x20, hexUnit? (byteOf '0') (byteOf '0') (byteOf (hexLower (n / 16)))
      (byteOf (hexLower (n % 16))) = some n := by decide
  have hascii : ∀ d ∈ ['\\', 'u', '0', '0', hexLower (c.toNat / 16), hexLower (c.toNat % 16)],
      d.toNat < 0x80 := by
    simp [hdigit (c.toNat / 16) (by omega), hdigit (c.toNat % 16) (by omega)]
  refine ⟨[.unit c.toNat], fun rest => ?_, fun ending pieces => ?_⟩
  · rw [utf8_bytes hascii]
    exact readString_unit (hunit _ h)
  · rw [bytesFrom_unit (by omega), Char.ofNat_toNat]

theorem spelled_bare (hlow : 0x20 ≤ c.toNat) (hquote : c ≠ '"') (hslash : c ≠ '\\') :
    Spelled c [c] := by
  refine ⟨(String.utf8EncodeChar c).map .raw, fun rest => ?_, fun _ _ => bytesFrom_bare⟩
  simpa [Text.utf8_cons] using readString_bare (bare_encodeChar hlow hquote hslash)

theorem spelled_escape (c : Char) : Spelled c (escape c) := by
  unfold escape
  split_ifs with hquote hslash hback htab hline hfeed hreturn hlow
  · subst hquote
    exact spelled_letter (by decide) (by decide) (by decide) (by decide)
  · subst hslash
    exact spelled_letter (by decide) (by decide) (by decide) (by decide)
  · obtain rfl : c = Char.ofNat 8 := by rw [← hback, Char.ofNat_toNat]
    exact spelled_letter (by decide) (by decide) (by decide) (by decide)
  · subst htab
    exact spelled_letter (by decide) (by decide) (by decide) (by decide)
  · subst hline
    exact spelled_letter (by decide) (by decide) (by decide) (by decide)
  · obtain rfl : c = Char.ofNat 12 := by rw [← hfeed, Char.ofNat_toNat]
    exact spelled_letter (by decide) (by decide) (by decide) (by decide)
  · subst hreturn
    exact spelled_letter (by decide) (by decide) (by decide) (by decide)
  · exact spelled_unit hlow
  · exact spelled_bare (by omega) hquote hslash

/-- A quoted text is read back, from behind its first quote to behind its last. -/
theorem readLiteral_quoted (cs : List Char) (rest : Bytes) :
    ∃ l, readLiteral (utf8 (cs.flatMap escape) ++ byteOf '"' :: rest) = (l, some rest) ∧
      l.text = .ok (String.ofList cs) := by
  have hread : ∃ ps,
      readString (utf8 (cs.flatMap escape) ++ byteOf '"' :: rest) = (ps, .closed, rest) ∧
      Literal.bytesFrom .closed ps = .ok (utf8 cs) := by
    induction cs with
    | nil =>
      refine ⟨[], ?_, rfl⟩
      rw [readString.eq_def]
      rfl
    | cons c cs ih =>
      obtain ⟨ps, hps, hbytes⟩ := ih
      obtain ⟨pieces, hread, hpieces⟩ := spelled_escape c
      refine ⟨pieces ++ ps, ?_, ?_⟩
      · rw [List.flatMap_cons, Text.utf8_append, List.append_assoc, hread, hps]
      · rw [hpieces, hbytes]
        rfl
  obtain ⟨ps, hps, hbytes⟩ := hread
  refine ⟨⟨ps, .closed⟩, ?_, ?_⟩
  · rw [readLiteral, hps]
    rfl
  · rw [Literal.text, hbytes, ← Text.encode_ofList]
    simp only [Text.decode_encode]

end LinkShot.Json

import LinkShot.Proofs.Json.Literals
import LinkShot.Text.Number

/-! Integers. One that fits 64 bits, signed or unsigned, is read back from its decimal text. -/
namespace LinkShot.Json

open Text (Bytes utf8 digitValue encodeChar_ascii)

variable {c : Char} {cs : List Char} {n : Nat} {rest : Bytes} {negative : Bool}
  {tail : List Nat} {b : UInt8} {bs : Bytes} {fuel : Nat}

/-- What may follow a number: nothing that would be read as a part of it. -/
def EndsNumber (rest : Bytes) : Prop :=
  ∀ b ∈ rest.head?, isDigitByte b = false ∧ b ≠ byteOf '.' ∧ b ≠ byteOf 'e' ∧ b ≠ byteOf 'E'

theorem endsNumber_cons
    (h : isDigitByte b = false ∧ b ≠ byteOf '.' ∧ b ≠ byteOf 'e' ∧ b ≠ byteOf 'E') :
    EndsNumber (b :: rest) := by
  intro b' hb'
  cases hb'
  exact h

/-- The digits of a number, those of most weight first. -/
def digitsOf (n : Nat) : List Nat := (Nat.toDigits 10 n).map digitValue

theorem digitsOf_eq : digitsOf n = if n < 10 then [n] else digitsOf (n / 10) ++ [n % 10] := by
  have hdigit : ∀ d < 10, digitValue d.digitChar = d := by decide
  rw [digitsOf, Nat.toDigits_eq_if (by decide)]
  split_ifs with h
  · simp [hdigit n h]
  · simp [hdigit (n % 10) (by omega), digitsOf]

theorem takeDigits_digitsOf (h : n < UInt64.size) :
    takeDigits 0 (digitsOf n ++ tail) = takeDigits n tail := by
  induction n using Nat.strongRecOn generalizing tail with
  | ind n ih =>
    rw [digitsOf_eq]
    split_ifs with hn
    · simp [takeDigits, h]
    · have hsum : n / 10 * 10 + n % 10 = n := by omega
      rw [List.append_assoc, ih (n / 10) (by omega) (by omega), List.singleton_append, takeDigits,
        hsum, if_pos h]

/-- No number but zero begins with a zero. -/
theorem digitsOf_head (h : 0 < n) : ∃ d rest, digitsOf n = (d + 1) :: rest := by
  induction n using Nat.strongRecOn with
  | ind n ih =>
    rw [digitsOf_eq]
    split_ifs with hn
    · exact ⟨n - 1, [], by rw [Nat.sub_add_cancel h]⟩
    · obtain ⟨d, rest, hd⟩ := ih (n / 10) (by omega) (by omega)
      exact ⟨d, rest ++ [n % 10], by simp [hd]⟩

theorem digit_byte (h : c.isDigit = true) :
    c.toNat < 0x80 ∧ isDigitByte (byteOf c) = true ∧ (byteOf c).toNat - 48 = digitValue c := by
  have hc : 48 ≤ c.toNat ∧ c.toNat ≤ 57 := by simpa [Char.isDigit, UInt32.le_iff_toNat_le] using h
  have hb : (byteOf c).toNat = c.toNat := by
    rw [byteOf, UInt8.toNat_ofNat']
    omega
  refine ⟨by omega, ?_, by rw [hb]; rfl⟩
  simp only [isDigitByte, UInt8.le_iff_toNat_le, hb, Bool.and_eq_true, decide_eq_true_eq]
  exact hc

theorem readDigits_digits (hd : ∀ c ∈ cs, c.isDigit = true) (hr : EndsNumber rest) :
    readDigits (utf8 cs ++ rest) = (cs.map digitValue, rest) := by
  have hbytes : ∀ b ∈ cs.map byteOf, isDigitByte b = true := by
    simpa using fun c hc => (digit_byte (hd c hc)).2.1
  have hvalues : (cs.map byteOf).map (fun b => b.toNat - 48) = cs.map digitValue := by
    simpa using fun c hc => (digit_byte (hd c hc)).2.2
  have hnone : rest.takeWhile isDigitByte = [] ∧ rest.dropWhile isDigitByte = rest := by
    cases rest with
    | nil => exact ⟨rfl, rfl⟩
    | cons b rest => simp [(hr b rfl).1]
  rw [utf8_bytes fun c hc => (digit_byte (hd c hc)).1, readDigits,
    List.takeWhile_append_of_pos hbytes, List.dropWhile_append_of_pos hbytes, hnone.1, hnone.2,
    List.append_nil, hvalues]

theorem readWhole_digits (hr : EndsNumber rest) :
    readWhole (utf8 (Nat.toDigits 10 n) ++ rest) = .ok (digitsOf n, rest) := by
  have hread : readDigits (utf8 (Nat.toDigits 10 n) ++ rest) = (digitsOf n, rest) :=
    readDigits_digits (fun c hc => Nat.isDigit_of_mem_toDigits (by decide) (by decide) hc) hr
  rcases Nat.eq_zero_or_pos n with rfl | hn
  · have hzero : digitsOf 0 = [0] := by decide
    simp only [readWhole, readSomeDigits, hread, hzero]
  · obtain ⟨d, tail, hd⟩ := digitsOf_head hn
    simp [readWhole, readSomeDigits, hread, hd]

/-- The digits of a number, and nothing else, are read as a number. -/
theorem readNumber_digits (hr : EndsNumber rest) :
    readNumber negative (utf8 (Nat.toDigits 10 n) ++ rest) =
      .ok (⟨negative, digitsOf n, [], false, none⟩, rest) := by
  have hfraction : readFraction rest = .ok (none, rest) := by
    cases rest with
    | nil => rfl
    | cons b rest => rw [readFraction, if_neg (hr b rfl).2.1]
  have hexponent : readExponent rest = .ok (none, rest) := by
    cases rest with
    | nil => rfl
    | cons b rest =>
      have ⟨_, _, he, hE⟩ := hr b rfl
      simp [readExponent.eq_def, he, hE]
  rw [readNumber, readWhole_digits hr]
  simp only [bind, Except.bind, hfraction, hexponent]
  rfl

theorem number_digits (h : n < UInt64.size)
    (hn : negative = true → 0 < n ∧ n ≤ 9223372036854775808) :
    NumberText.number ⟨negative, digitsOf n, [], false, none⟩ =
      .ok (.int (if negative then -(n : Int) else n)) := by
  have htake : takeDigits 0 (digitsOf n ++ []) = takeDigits n [] := takeDigits_digitsOf h
  rw [List.append_nil, takeDigits] at htake
  cases negative with
  | false => simp [NumberText.number, htake]
  | true => simp [NumberText.number, htake, hn rfl]

theorem skipBlank_cons (h : isBlankByte b = false) : skipBlank (b :: bs) = b :: bs := by
  simp [skipBlank, h]

theorem digit_opens (h : isDigitByte b = true) : isBlankByte b = false ∧ b ≠ byteOf ']' ∧
    b ≠ byteOf 'n' ∧ b ≠ byteOf 't' ∧ b ≠ byteOf 'f' ∧ b ≠ byteOf '-' := by
  have hne {b' : UInt8} (hb : isDigitByte b' = false) : b ≠ b' := by
    rintro rfl
    rw [h] at hb
    cases hb
  refine ⟨?_, hne (by decide), hne (by decide), hne (by decide), hne (by decide), hne (by decide)⟩
  have hspace : b ≠ 0x20 := hne (by decide)
  have hline : b ≠ 0x0A := hne (by decide)
  have htab : b ≠ 0x09 := hne (by decide)
  have hreturn : b ≠ 0x0D := hne (by decide)
  simp [isBlankByte, hspace, hline, htab, hreturn]

theorem toDigits_opens (m : Nat) :
    ∃ b bs, utf8 (Nat.toDigits 10 m) = b :: bs ∧ isDigitByte b = true := by
  obtain ⟨c, cs, hc⟩ := List.exists_cons_of_length_pos (Nat.length_toDigits_pos (b := 10) (n := m))
  obtain ⟨hascii, hdigit, -⟩ := digit_byte (c := c)
    (Nat.isDigit_of_mem_toDigits (b := 10) (n := m) (by decide) (by decide) (by simp [hc]))
  exact ⟨byteOf c, utf8 cs, by rw [hc, Text.utf8_cons, encodeChar_ascii hascii]; rfl, hdigit⟩

theorem readTree_digits {m : Nat} (hr : EndsNumber rest) :
    readTree (fuel + 1) (utf8 (Nat.toDigits 10 m) ++ rest) =
      (.number ⟨false, digitsOf m, [], false, none⟩, some rest) := by
  have hread : readNumber false (utf8 (Nat.toDigits 10 m) ++ rest) = _ := readNumber_digits hr
  obtain ⟨b, bs, hb, hdigit⟩ := toDigits_opens m
  obtain ⟨hblank, -, hnull, htrue, hfalse, hminus⟩ := digit_opens hdigit
  rw [hb, List.cons_append] at hread ⊢
  simp only [readTree, skipBlank_cons hblank, hnull, htrue, hfalse, hminus, hdigit, if_false,
    if_true, hread]
  rfl

theorem readTree_minus {m : Nat} (hr : EndsNumber rest) :
    readTree (fuel + 1) (byteOf '-' :: (utf8 (Nat.toDigits 10 m) ++ rest)) =
      (.number ⟨true, digitsOf m, [], false, none⟩, some rest) := by
  have hblank : isBlankByte (byteOf '-') = false := by decide
  have hne : byteOf '-' ≠ byteOf 'n' ∧ byteOf '-' ≠ byteOf 't' ∧ byteOf '-' ≠ byteOf 'f' := by
    decide
  simp only [readTree, skipBlank_cons hblank, hne, if_false, if_true, readNumber_digits hr]
  rfl

end LinkShot.Json

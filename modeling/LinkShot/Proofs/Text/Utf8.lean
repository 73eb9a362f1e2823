import LinkShot.Proofs.Text.Separator
import LinkShot.Text.Utf8
import Mathlib.Tactic.SplitIfs

/-! Encoded text is read back as it was written. -/
namespace LinkShot.Text

variable {c d : Char} {cs ds : List Char} {s t : String} {b : UInt8} {rest : Bytes}
  {n more bits : Nat} {low high : UInt8} {o : Owing}

@[simp] theorem utf8_nil : utf8 [] = [] := rfl

theorem utf8_cons : utf8 (c :: cs) = String.utf8EncodeChar c ++ utf8 cs := rfl

@[simp] theorem utf8_append : utf8 (cs ++ ds) = utf8 cs ++ utf8 ds := List.flatMap_append

@[simp] theorem encode_ofList : encode (String.ofList cs) = utf8 cs := by
  rw [encode, String.toList_ofList]

@[simp] theorem encode_append : encode (s ++ t) = encode s ++ encode t := by
  simp [encode]

theorem utf8_ascii (h : n < 0x80) : utf8 [Char.ofNat n] = [UInt8.ofNat n] := by
  have hv : (Char.ofNat n).val.toNat = n := by
    rw [Char.ofNat, dif_pos (.inl (by omega))]
    rfl
  rw [utf8_cons, String.utf8EncodeChar, hv, if_pos (by omega)]
  rfl

/-- An ASCII byte stands for its own character only. -/
theorem mem_encodeChar (hd : d.toNat < 0x80) :
    UInt8.ofNat d.toNat ∈ String.utf8EncodeChar c ↔ d = c := by
  have hc : d = c ↔ d.toNat = c.val.toNat := by
    rw [← Char.toNat_inj]
    rfl
  rw [hc, String.utf8EncodeChar]
  generalize d.toNat = w at hd
  generalize c.val.toNat = v
  split_ifs <;>
    simp only [List.mem_cons, List.not_mem_nil, or_false, ← UInt8.toNat_inj, UInt8.toNat_ofNat',
      Nat.reducePow] <;>
    omega

theorem mem_utf8 (hd : d.toNat < 0x80) : UInt8.ofNat d.toNat ∈ utf8 cs ↔ d ∈ cs := by
  rw [utf8, List.mem_flatMap]
  constructor
  · rintro ⟨c, hc, hm⟩
    rwa [(mem_encodeChar hd).mp hm]
  · intro hm
    exact ⟨d, hm, (mem_encodeChar hd).mpr rfl⟩

theorem encodeChar_ascii (hd : d.toNat < 0x80) :
    String.utf8EncodeChar d = [UInt8.ofNat d.toNat] := by
  have hone := utf8_ascii hd
  rwa [Char.ofNat_toNat, utf8_cons, utf8_nil, List.append_nil] at hone

/-- Encoded ASCII text begins an encoded text only where the text itself does. -/
theorem prefix_of_utf8 (hd : ∀ d ∈ ds, d.toNat < 0x80) (hp : utf8 ds <+: utf8 cs) : ds <+: cs := by
  induction ds generalizing cs with
  | nil => exact List.nil_prefix
  | cons d ds ih =>
    obtain ⟨hd, hds⟩ := List.forall_mem_cons.mp hd
    rw [utf8_cons, encodeChar_ascii hd] at hp
    cases cs with
    | nil => simp at hp
    | cons c cs =>
      have hc : d = c := by
        rw [← mem_encodeChar hd]
        obtain ⟨rest, he⟩ := hp
        rw [utf8_cons] at he
        cases hb : String.utf8EncodeChar c with
        | nil => exact absurd hb String.utf8EncodeChar_ne_nil
        | cons b bytes =>
          rw [hb] at he
          simp [(List.cons.inj he).1]
      subst hc
      rw [utf8_cons, encodeChar_ascii hd] at hp
      exact List.cons_prefix_cons.mpr ⟨rfl, ih hds (List.cons_prefix_cons.mp hp).2⟩

theorem infix_of_utf8 (hd : ∀ d ∈ ds, d.toNat < 0x80) (hi : utf8 ds <:+: utf8 cs) : ds <:+: cs := by
  cases ds with
  | nil => exact List.nil_infix
  | cons d ds =>
    have hfirst := (List.forall_mem_cons.mp hd).1
    have hbytes : utf8 (d :: ds) = UInt8.ofNat d.toNat :: utf8 ds := by
      rw [utf8_cons, encodeChar_ascii hfirst]
      rfl
    induction cs with
    | nil => simp [hbytes] at hi
    | cons c cs ih =>
      by_cases hc : d = c
      · subst hc
        have hcs : utf8 (d :: cs) = UInt8.ofNat d.toNat :: utf8 cs := by
          rw [utf8_cons, encodeChar_ascii hfirst]
          rfl
        rw [hcs] at hi
        rcases List.infix_cons_iff.mp hi with hp | hi
        · exact (prefix_of_utf8 hd (hcs ▸ hp)).isInfix
        · exact List.infix_cons (ih hi)
      · -- no byte of another character opens the text
        rw [hbytes, utf8_cons] at hi
        have hrest := infix_past (mt (mem_encodeChar hfirst).mp hc) hi
        exact List.infix_cons (ih (hbytes ▸ hrest))

theorem lead_one (h : n < 0x80) : lead (UInt8.ofNat n) = .whole (Char.ofNat n) := by
  have hn : n % 256 = n := by omega
  simp [lead, hn, h]

theorem lead_two (h₁ : 2 ≤ n) (h₂ : n < 0x20) :
    lead (UInt8.ofNat (n + 0xC0)) = .opens ⟨0, 0x80, 0xBF, n⟩ := by
  have hn : (n + 192) % 256 = n + 192 := by omega
  simp only [lead, UInt8.toNat_ofNat', Nat.reducePow, hn]
  grind

theorem lead_three (h : n < 0x10) : lead (UInt8.ofNat (n + 0xE0)) =
    .opens ⟨1, if n = 0 then 0xA0 else 0x80, if n = 13 then 0x9F else 0xBF, n⟩ := by
  have hn : (n + 224) % 256 = n + 224 := by omega
  simp only [lead, UInt8.toNat_ofNat', Nat.reducePow, hn]
  grind

theorem lead_four (h : n < 5) : lead (UInt8.ofNat (n + 0xF0)) =
    .opens ⟨2, if n = 0 then 0x90 else 0x80, if n = 4 then 0x8F else 0xBF, n⟩ := by
  have hn : (n + 240) % 256 = n + 240 := by omega
  simp only [lead, UInt8.toNat_ofNat', Nat.reducePow, hn]
  grind

theorem unitsFrom_opens (h : lead b = .opens o) :
    unitsFrom none (b :: rest) = unitsFrom (some o) rest := by
  simp only [unitsFrom, h]

/-- A byte that a begun character owes, within the range that it allows. -/
theorem unitsFrom_owed (hn : n < 0x40) (hl : low.toNat ≤ n + 0x80) (hh : n + 0x80 ≤ high.toNat) :
    unitsFrom (some ⟨more, low, high, bits⟩) (UInt8.ofNat (n + 0x80) :: rest) =
      match more with
      | 0 => some (Char.ofNat (bits * 64 + n)) :: unitsFrom none rest
      | more + 1 => unitsFrom (some ⟨more, 0x80, 0xBF, bits * 64 + n⟩) rest := by
  have hm : (n + 128) % 256 = n + 128 := by omega
  have hin : low ≤ UInt8.ofNat (n + 128) ∧ UInt8.ofNat (n + 128) ≤ high := by
    simp only [UInt8.le_iff_toNat_le, UInt8.toNat_ofNat', Nat.reducePow, hm]
    exact ⟨hl, hh⟩
  cases more <;>
    simp only [unitsFrom, hin, and_self, if_true, UInt8.toNat_ofNat', Nat.reducePow, hm,
      Nat.add_sub_cancel]

/-- A whole character is read, and reading goes on after it. The cases are its four lengths. -/
theorem unitsFrom_encodeChar :
    unitsFrom none (String.utf8EncodeChar c ++ rest) = some c :: unitsFrom none rest := by
  have hc : Char.ofNat c.val.toNat = c := Char.ofNat_toNat c
  have hv : c.val.toNat < 0xD800 ∨ 0xDFFF < c.val.toNat ∧ c.val.toNat < 0x110000 := c.valid
  revert hc hv
  rw [String.utf8EncodeChar]
  generalize c.val.toNat = v
  intro hc hv
  split_ifs with h₁ h₂ h₃
  · simp only [List.cons_append, List.nil_append, unitsFrom, lead_one (show v < 0x80 by omega), hc]
  · have hb : v / 64 * 64 + v % 64 = v := by omega
    rw [show v / 64 % 32 = v / 64 by omega, List.cons_append,
      unitsFrom_opens (lead_two (by omega) (by omega)), List.cons_append,
      unitsFrom_owed (by omega) (by simp) (by simp; omega)]
    simp only [hb, hc, List.nil_append]
  · have hb : (v / 4096 * 64 + v / 64 % 64) * 64 + v % 64 = v := by omega
    rw [show v / 4096 % 16 = v / 4096 by omega, List.cons_append,
      unitsFrom_opens (lead_three (by omega)), List.cons_append,
      unitsFrom_owed (by omega) (by split_ifs <;> simp; omega)
        (by split_ifs <;> (simp; omega))]
    dsimp only
    rw [List.cons_append, unitsFrom_owed (by omega) (by simp) (by simp; omega)]
    simp only [hb, hc, List.nil_append]
  · have hb : ((v / 262144 * 64 + v / 4096 % 64) * 64 + v / 64 % 64) * 64 + v % 64 = v := by omega
    rw [show v / 262144 % 8 = v / 262144 by omega, List.cons_append,
      unitsFrom_opens (lead_four (by omega)), List.cons_append,
      unitsFrom_owed (by omega) (by split_ifs <;> simp; omega)
        (by split_ifs <;> (simp; omega))]
    dsimp only
    rw [List.cons_append, unitsFrom_owed (by omega) (by simp) (by simp; omega)]
    dsimp only
    rw [List.cons_append, unitsFrom_owed (by omega) (by simp) (by simp; omega)]
    simp only [hb, hc, List.nil_append]

theorem units_utf8_append : units (utf8 cs ++ rest) = cs.map some ++ units rest := by
  induction cs with
  | nil => rfl
  | cons c cs ih =>
    rw [utf8_cons, List.append_assoc, units, unitsFrom_encodeChar]
    exact congrArg _ ih

@[simp] theorem decode_encode : decode? (encode s) = some s := by
  have h : units (encode s) = s.toList.map some := by
    have h : units (utf8 s.toList ++ []) = s.toList.map some ++ units [] := units_utf8_append
    simpa [units, unitsFrom, encode] using h
  have hm : s.toList.mapM some = some (s.toList.map id) := List.mapM_pure
  rw [decode?, h, List.mapM_map]
  simp [hm]

end LinkShot.Text

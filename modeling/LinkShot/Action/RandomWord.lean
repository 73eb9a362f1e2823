/-! The words that stand in the place of random placeholders. -/
namespace LinkShot.Action

/-- Eight letters or digits. -/
structure RandomWord where
  text : String
  length_eq : text.length = 8
  alphanumeric : text.toList.all Char.isAlphanum = true

namespace RandomWord

/-- There are characters to pick. -/
instance : @NeZero Nat .ofOfNat0 62 := ⟨by decide⟩

/-- The letters and the digits, in order. -/
def characterAt (i : Fin 62) : Char :=
  if i.val < 26 then Char.ofNat ('A'.toNat + i.val)
  else if i.val < 52 then Char.ofNat ('a'.toNat + (i.val - 26))
  else Char.ofNat ('0'.toNat + (i.val - 52))

theorem isAlphanum_characterAt : ∀ i, (characterAt i).isAlphanum = true := by decide

/-- The word of eight characters that are picked by their places. -/
def ofPicks (pick : Fin 8 → Fin 62) : RandomWord where
  text := String.ofList (List.ofFn fun i => characterAt (pick i))
  length_eq := by simp
  alphanumeric := by
    simp only [String.toList_ofList, List.all_eq_true, List.mem_ofFn]
    rintro c ⟨i, rfl⟩
    exact isAlphanum_characterAt _

end RandomWord
end LinkShot.Action

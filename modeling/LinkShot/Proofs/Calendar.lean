import LinkShot.Calendar
import Mathlib.Data.List.Basic

/-! The characters in which dates and times are written. -/
namespace LinkShot.Calendar

variable {names : List String} {s t : String}

/-- A letter, a digit or a mark between them. -/
def Plain (c : Char) : Prop := c.isAlphanum = true ∨ c ∈ [' ', ',', ':', '-', '+']

instance : DecidablePred Plain := fun _ => inferInstanceAs (Decidable (_ ∨ _))

def Written (s : String) : Prop := ∀ c ∈ s.toList, Plain c

instance : DecidablePred Written := fun s => List.decidableBAll Plain s.toList

theorem written_append (hs : Written s) (ht : Written t) : Written (s ++ t) := by
  intro c hc
  rw [String.toList_append] at hc
  rcases List.mem_append.mp hc with hc | hc
  · exact hs c hc
  · exact ht c hc

theorem written_number (n : Nat) : Written (toString n) := by
  intro c hc
  rw [Nat.toString_eq_repr, Nat.toList_repr] at hc
  have hdigit := Nat.isDigit_of_mem_toDigits (by decide) (by decide) hc
  exact .inl (by simp [Char.isAlphanum, hdigit])

theorem written_padded (width n : Nat) : Written (padded width n) := by
  intro c hc
  rw [padded, String.toList_ofList] at hc
  rcases List.mem_append.mp hc with hzero | hdigit
  · rw [List.eq_of_mem_replicate hzero]
    decide
  · exact written_number n c hdigit

theorem written_name (h : ∀ name ∈ names, Written name) (i : Nat) : Written (names.getD i "") := by
  rw [List.getD_eq_getElem?_getD]
  cases hn : names[i]? with
  | none => decide
  | some name => exact h name (List.mem_of_getElem? hn)

theorem written_yearText (year : Int) : Written (yearText year) := by
  have hyear := written_padded 4 year.natAbs
  unfold yearText
  split
  · exact written_append (by decide) hyear
  · split
    · exact written_append (by decide) hyear
    · exact hyear

theorem written_dateText (m : Moment) : Written (dateText m) := by
  have hdays : ∀ name ∈ weekdayNames, Written name := by decide
  have hmonths : ∀ name ∈ monthNames, Written name := by decide
  have hcomma : Written ", " := by decide
  have hspace : Written " " := by decide
  apply written_append _ (written_yearText _)
  apply written_append _ hcomma
  apply written_append _ (written_number _)
  apply written_append _ hspace
  exact written_append (written_append (written_name hdays _) hcomma) (written_name hmonths _)

theorem written_timeText (m : Moment) : Written (timeText m) := by
  have hcolon : Written ":" := by decide
  apply written_append _ (written_padded 2 _)
  apply written_append _ hcolon
  exact written_append (written_append (written_padded 2 _) hcolon) (written_padded 2 _)

end LinkShot.Calendar

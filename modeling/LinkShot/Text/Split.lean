/-! Texts as parts with a mark between them. -/
namespace LinkShot.Text

variable {α : Type} [DecidableEq α]

/-- The parts between the marks; there is one more of them than there are marks. -/
def splitOn (mark : α) : List α → List (List α)
  | [] => [[]]
  | c :: rest =>
    if c = mark then [] :: splitOn mark rest
    else match splitOn mark rest with
      | part :: parts => (c :: part) :: parts
      | [] => [[c]]

end LinkShot.Text

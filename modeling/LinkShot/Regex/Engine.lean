/-! What results ask of regular expressions. Nothing depends on how patterns are matched. -/
namespace LinkShot.Regex

/-- Gives for a pattern that is valid how texts are matched: the groups of the first match, the
whole match in front. A group that took no part has no text. -/
class Engine where
  compile : String → Option (String → Option (List (Option String)))

end LinkShot.Regex

/-
Matchers: a pattern for tags, and the path that a tag stands for.
-/
import AppBuild.Component.Replacement
import AppBuild.Pattern.Basic

namespace AppBuild

/-- A pattern for tags and the path that takes the place of its match. -/
structure Matcher where
  pattern : Pattern
  replacement : Replacement

namespace Matcher

/-- Does the pattern match somewhere in the tag? -/
def test (m : Matcher) (tag : String) : Bool := m.pattern.test tag.toList

/-- The tag with the first match replaced, and all else as it is. -/
def apply (m : Matcher) (tag : String) : String :=
  let text := tag.toList
  match m.pattern.find? text with
  | none => tag
  | some found =>
    String.ofList
      (text.take found.start ++ m.replacement.expand found text ++ text.drop found.stop)

end Matcher
end AppBuild

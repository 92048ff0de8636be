import Amalgamation.Error
import Amalgamation.Pattern.Engine

/-!
# Exemptions

Some include targets may be expanded again and again: they are listed by patterns. A pattern text is
put between `^(?:` and `)` and compiled as a whole, and a target is exempt when one of these
patterns matches somewhere in it. For a pattern text whose parentheses close where they open, that
makes it match at the start of the target.
-/

set_option autoImplicit false

namespace Amalgamation

/-- The include targets that may be expanded again and again, told by one test for each pattern. -/
structure Exemptions where
  tests : List (Text → Bool)

namespace Exemptions

/-- A pattern text as it is compiled: with an anchor in front of a group around it. -/
def anchored (text : Text) : Text := "^(?:".toList ++ text ++ [')']

variable [engine : PatternEngine]

/-- The pattern of a pattern text, if the engine compiles it. -/
def patternOf (text : Text) : Except Error engine.Regex :=
  match engine.compile (anchored text) with
  | some regex => .ok regex
  | none => .error .badPattern

/-- The exemptions that some pattern texts spell. -/
def ofTexts (texts : List Text) : Except Error Exemptions :=
  (texts.mapM patternOf).map fun regexes => ⟨regexes.map engine.isMatch⟩

/-- Whether a target is exempt. -/
def covers (exemptions : Exemptions) (target : Text) : Bool :=
  exemptions.tests.any fun test => test target

end Exemptions

end Amalgamation

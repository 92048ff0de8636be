import Amalgamation.Pattern.Match
import Amalgamation.Pattern.Parse

/-!
# Engines for patterns

Two things are asked of an engine for regular expressions: to compile a pattern text, which it may
refuse, and to say whether a compiled pattern matches anywhere in a text. What is done with patterns
is the same for every engine, so the engine is a parameter.

`Pattern.engine` is the one that is used where no other is given. It reads the syntax that the
modules before this one describe and no other; in particular it refuses the classes `\p` and `\P`,
which name sets of characters by their Unicode properties.
-/

set_option autoImplicit false

namespace Amalgamation

/-- An engine for regular expressions. -/
class PatternEngine where
  /-- What a pattern text is compiled to. -/
  Regex : Type
  /-- Compiles a pattern text, or refuses it. -/
  compile : Text → Option Regex
  /-- Whether a compiled pattern matches some stretch of a text. -/
  isMatch : Regex → Text → Bool

/-- The engine that reads patterns and searches for them. -/
instance Pattern.engine : PatternEngine := ⟨Pattern, Pattern.parse, Pattern.occursIn⟩

end Amalgamation

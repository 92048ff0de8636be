import Amalgamation.Directive.Basic

/-!
# The selector

The selector is a macro that is given one value after another. In code it is replaced by the value
it has at that place; the lines that define it are left behind as comments, and the lines that
remove it vanish. Without a value it is left as it is.

A selector in code is an occurrence of its name with a word boundary on either side.
-/

set_option autoImplicit false

namespace Amalgamation

namespace Vocabulary

/-- Whether the selector stands at the start of a text as a word of its own; `before` is the
character in front of the text. -/
def selectorAt (vocabulary : Vocabulary) (before : Option Char) (text : Text) : Bool :=
  isBoundary before text.head? &&
    match after? vocabulary.selector text with
    | none => false
    | some rest => isBoundary (vocabulary.selector.getLast?.or before) rest.head?

/-- Replaces the selector by a value from some place in a text on; `before` is the character in
front of that place, and the next `skipped` characters belong to a selector that was already
replaced. -/
def substituteFrom (vocabulary : Vocabulary) (value : Text) :
    (before : Option Char) → (skipped : Nat) → Text → Text
  | before, _, [] =>
    if vocabulary.selector = [] ∧ vocabulary.selectorAt before [] then value else []
  | _, skipped + 1, c :: text => vocabulary.substituteFrom value (some c) skipped text
  | before, 0, c :: text =>
    if vocabulary.selectorAt before (c :: text) then
      if vocabulary.selector = [] then value ++ c :: vocabulary.substituteFrom value (some c) 0 text
      else
        value ++ vocabulary.substituteFrom value (some c) (vocabulary.selector.length - 1) text
    else c :: vocabulary.substituteFrom value (some c) 0 text

/-- A line with the selector replaced by a value. -/
def substitute (vocabulary : Vocabulary) (value line : Text) : Text :=
  vocabulary.substituteFrom value none 0 line

end Vocabulary

/-- The value that the selector has, if it has one. -/
abbrev Binding := Option Text

namespace Binding

/-- A line of code under a binding. -/
def substitute (vocabulary : Vocabulary) (binding : Binding) (line : Text) : Text :=
  match binding with
  | none => line
  | some value => vocabulary.substitute value line

/-- The binding after a directive. -/
def after (binding : Binding) : Directive → Binding
  | .bind value => some value
  | .unbind => none
  | _ => binding

/-- The lines written for a line with its directive. -/
def linesFor (vocabulary : Vocabulary) (binding : Binding) (directive : Directive) (line : Text) :
    List Text :=
  match directive with
  | .bind value =>
    ["// redefining ".toList ++ vocabulary.selector ++ " to \"".toList ++ value ++ ['"'],
      "// ".toList ++ line]
  | .unbind => []
  | _ => [binding.substitute vocabulary line]

end Binding

end Amalgamation

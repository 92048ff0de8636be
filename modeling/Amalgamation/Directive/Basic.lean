import Amalgamation.Text.Word
import Amalgamation.Text.Blank

/-!
# Directives

A line of source text is either a directive or code. The directives that matter are the inclusion of
a quoted file, the definition and removal of the selector, the definition of a feature toggle, the
three ways to open a conditional block and the one way to close it. Which macros are features and
which one is the selector is told by a vocabulary.

`Directive.classify` tries the kinds of directive in a fixed order, so a line that could be read in
two ways is read in the first. A line here is any text; directives other than inclusions and the
selector's do not reach past a line feed in it.
-/

set_option autoImplicit false

namespace Amalgamation

/-- The names by which feature macros and the selector macro are known. -/
structure Vocabulary where
  /-- How the name of every feature macro begins. -/
  featurePrefix : Text
  /-- The macro whose value tells for which target code is compiled. -/
  selector : Text
  deriving DecidableEq, Repr

/-- The three ways to open a conditional block. -/
inductive Opener where
  | ifTrue
  | ifDefined
  | ifUndefined
  deriving DecidableEq, Repr

/-- The keyword of an opener. -/
def Opener.keyword : Opener → Text
  | .ifTrue => "if".toList
  | .ifDefined => "ifdef".toList
  | .ifUndefined => "ifndef".toList

/-- What a line says. -/
inductive Directive where
  /-- A quoted file is included. -/
  | inclusion (target : Text)
  /-- The selector gets a value. -/
  | bind (value : Text)
  /-- The selector loses its value. -/
  | unbind
  /-- A feature macro is defined. -/
  | toggle (name value : Text)
  /-- A block opens; a comment after the condition is left out. -/
  | opening (opener : Opener) (condition : Text)
  /-- A block closes; `comment` is what a comment after it says. -/
  | closing (comment : Option Text)
  /-- None of these. -/
  | code
  deriving DecidableEq, Repr

/-! ## Comments at the end of a line -/

/-- Whether a comment begins with the first character of the text. -/
def startsComment : Text → Bool
  | '/' :: '/' :: _ => true
  | '/' :: '*' :: _ => true
  | _ => false

/-- The text before the first comment in it. -/
def beforeComment : Text → Text
  | [] => []
  | c :: text => if startsComment (c :: text) then [] else c :: beforeComment text

/-- A condition without the comment after it and without blanks around it. -/
def withoutComment (text : Text) : Text := Text.trim (beforeComment text)

/-- A text that is read backwards, without the comment ends that it starts with. -/
def dropCommentEnds : Text → Text
  | '/' :: '*' :: text => dropCommentEnds text
  | text => text

/-- What the comment says of which the text consists, if it does. -/
def commentOf (text : Text) : Option Text :=
  match Text.trim text with
  | '/' :: '/' :: body => some (Text.trim body)
  | '/' :: '*' :: body => some (Text.trim (dropCommentEnds body.reverse).reverse)
  | _ => none

/-! ## Recognising the kinds of directive -/

namespace Directive

/-- What follows a number sign that only blanks stand before. -/
def afterSign (line : Text) : Option Text :=
  match Text.trimStart line with
  | '#' :: rest => some (Text.trimStart rest)
  | _ => none

/-- What follows the number sign and a keyword. -/
def afterKeyword (keyword line : Text) : Option Text :=
  (afterSign line).bind (after? keyword)

/-- What follows the number sign and a keyword that is a word of its own, if it ends where the line
ends. -/
def afterWholeKeyword (keyword line : Text) : Option Text :=
  match afterKeyword keyword line with
  | none => none
  | some rest => if rest.head?.any isWord || '\n' ∈ rest then none else some rest

/-- The ends of a text that remain after one or more of the blanks it starts with, the shortest end
first. -/
def afterBlanks : Text → List Text
  | [] => []
  | c :: rest => if isBlank c then afterBlanks rest ++ [rest] else []

/-- The quoted file that a line includes. -/
def inclusion? (line : Text) : Option Directive :=
  match (afterKeyword "include".toList line).map Text.trimStart with
  | some ('"' :: rest) =>
    if '"' ∈ rest then some (.inclusion (rest.takeWhile (· ≠ '"'))) else none
  | _ => none

/-- The value between the blanks that must come first and those that may come last. -/
def value? : Text → Option Text
  | [] => none
  | c :: rest =>
    let value := Text.trim rest
    if isBlank c && '\n' ∉ value then some value else none

/-- A definition of the selector. -/
def bind? (vocabulary : Vocabulary) (line : Text) : Option Directive := do
  let rest ← afterKeyword "define".toList line
  let value ← (afterBlanks rest).findSome? fun text => (after? vocabulary.selector text).bind value?
  return .bind value

/-- A removal of the selector's definition. -/
def unbind? (vocabulary : Vocabulary) (line : Text) : Option Directive := do
  let rest ← afterKeyword "undef".toList line
  if (afterBlanks rest).any fun text => (after? vocabulary.selector text).any Text.isBlankText then
    some .unbind
  else none

/-- A definition of a feature macro. -/
def toggle? (vocabulary : Vocabulary) (line : Text) : Option Directive := do
  let rest ← afterKeyword "define".toList line
  (afterBlanks rest).findSome? fun text => do
    let rest ← after? vocabulary.featurePrefix text
    let value := rest.dropWhile isWord
    if '\n' ∈ value then none
    else some (.toggle (vocabulary.featurePrefix ++ rest.takeWhile isWord) (Text.trim value))

/-- The opening of a block by one of the openers. -/
def openingBy? (opener : Opener) (line : Text) : Option Directive :=
  (afterWholeKeyword opener.keyword line).map fun rest => .opening opener (withoutComment rest)

/-- The opening of a block. -/
def opening? (line : Text) : Option Directive :=
  openingBy? .ifDefined line <|> openingBy? .ifUndefined line <|> openingBy? .ifTrue line

/-- The closing of a block. -/
def closing? (line : Text) : Option Directive :=
  (afterWholeKeyword "endif".toList line).map fun rest => .closing (commentOf rest)

/-- What a line says. -/
def classify (vocabulary : Vocabulary) (line : Text) : Directive :=
  (inclusion? line <|> bind? vocabulary line <|> unbind? vocabulary line <|>
    toggle? vocabulary line <|> opening? line <|> closing? line).getD .code

end Directive

end Amalgamation

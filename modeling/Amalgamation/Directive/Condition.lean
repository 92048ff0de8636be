import Amalgamation.Directive.Basic

/-!
# Conditions over several lines

A condition is continued on the next line by a backslash at its end; the comment that closes a block
is continued by further comment lines. Both are read from the line of the directive and the lines
that follow it, and both say how many of those they took.

A condition speaks of features when a name that begins with the feature prefix starts somewhere in
it at a word boundary.
-/

set_option autoImplicit false

namespace Amalgamation

/-! ## Names in a text -/

/-- Whether a name that begins with `start` begins at a word boundary of the text; `before` is the
character in front of the text. -/
def mentionsAfter (start : Text) (before : Option Char) : Text → Bool
  | [] => isBoundary before none && start.isEmpty
  | c :: text =>
    (isBoundary before (some c) && Text.startsWith start (c :: text)) ||
      mentionsAfter start (some c) text

namespace Vocabulary

/-- Whether a text speaks of a feature. -/
def mentions (vocabulary : Vocabulary) (text : Text) : Bool :=
  mentionsAfter vocabulary.featurePrefix none text

/-- Whether a text starts with the feature prefix, blanks apart. -/
def leads (vocabulary : Vocabulary) (text : Text) : Bool :=
  Text.startsWith vocabulary.featurePrefix (Text.trimStart text)

end Vocabulary

/-! ## Continued conditions -/

/-- Joins a condition with the lines that backslashes continue it on. Of each such line the comment
is left out. Returns the condition and the number of lines it took. -/
def joinContinued (condition : Text) : List Text → Text × Nat
  | [] =>
    if condition.getLast? = some '\\' then (Text.trim condition.dropLast, 0)
    else (Text.trim condition, 0)
  | next :: following =>
    if condition.getLast? = some '\\' then
      let start := Text.trimEnd condition.dropLast ++ ' ' :: withoutComment next
      let (joined, taken) := joinContinued start following
      (joined, taken + 1)
    else (Text.trim condition, 0)

/-- The whole condition that starts on one line, and the number of following lines it takes. -/
def wholeCondition (first : Text) (following : List Text) : Text × Nat :=
  joinContinued (Text.trim first) following

/-- The whole condition of an `#if` that speaks of features, and the number of lines it takes. -/
def Directive.featureCondition (vocabulary : Vocabulary) (directive : Directive)
    (following : List Text) : Option (Text × Nat) :=
  match directive with
  | .opening .ifTrue condition =>
    let (joined, taken) := wholeCondition condition following
    if vocabulary.mentions joined then some (joined, taken) else none
  | _ => none

/-! ## Continued comments -/

/-- What a line says that is a line comment and nothing else. -/
def commentLine (line : Text) : Option Text :=
  match Text.trim line with
  | '/' :: '/' :: body => some (Text.trim body)
  | _ => none

/-- Whether a text starts with the sign of a connective. -/
def startsWithSign (text : Text) : Bool :=
  Text.startsWith ['&', '&'] text || Text.startsWith ['|', '|'] text

/-- Whether a text ends with the sign of a connective. -/
def endsWithSign (text : Text) : Bool :=
  Text.endsWith ['&', '&'] text || Text.endsWith ['|', '|'] text

/-- Whether a condition cannot end here: a connective wants an operand or a parenthesis is open. -/
def isUnfinished (text : Text) : Bool :=
  endsWithSign (Text.trimEnd text) || text.count ')' < text.count '('

/-- Joins a closing comment with the comment lines that continue it. A line continues it if it
speaks of a feature and either the comment is unfinished or the line starts with a connective. -/
def joinComment (vocabulary : Vocabulary) (comment : Text) : List Text → Text × Nat
  | [] => (comment, 0)
  | next :: following =>
    match commentLine next with
    | none => (comment, 0)
    | some part =>
      if vocabulary.mentions part && (isUnfinished comment || startsWithSign part) then
        let (joined, taken) := joinComment vocabulary (comment ++ ' ' :: part) following
        (joined, taken + 1)
      else (comment, 0)

/-- The whole closing comment, unless it is empty, and the number of lines it takes. -/
def wholeComment (vocabulary : Vocabulary) (comment : Option Text) (following : List Text) :
    Option Text × Nat :=
  match (comment.map Text.trim).filter (· ≠ []) with
  | none => (none, 0)
  | some first =>
    let (joined, taken) := joinComment vocabulary first following
    (some joined, taken)

/-- The whole comment of a closing line, if it speaks of features, and the number of lines it
takes. -/
def Directive.featureComment (vocabulary : Vocabulary) (directive : Directive)
    (following : List Text) : Option (Text × Nat) :=
  match directive with
  | .closing comment =>
    match wholeComment vocabulary comment following with
    | (some joined, taken) => if vocabulary.mentions joined then some (joined, taken) else none
    | (none, _) => none
  | _ => none

end Amalgamation

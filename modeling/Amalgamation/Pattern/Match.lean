import Amalgamation.Pattern.Basic

/-!
# Matching

A search reads the text once. After every character it keeps where in the pattern the matches stand
that have begun somewhere before: this is a `Progress`. `Pattern.advance` takes all of them over the
next character, together with a match that begins there. `Pattern.isDone` says whether one of them
has come to the end of the pattern. A progress marks parts of the pattern and holds every part at
most once, so the work for a character is bounded by the size of the pattern, however many ways
there are to match.

The rounds of a repetition are parts of their own. Where there is no bound, the last round stands
for all that come after it.
-/

set_option autoImplicit false

namespace Amalgamation

/-- Where matches stand in a pattern after some character was read. -/
inductive Progress where
  /-- No match stands inside of the pattern. -/
  | idle
  /-- The pattern is a set of characters, and a match has just read one of them. -/
  | read
  /-- Matches stand inside of the parts of a sequence or a choice, or inside of the first round of a
  repetition and the rounds after it. -/
  | within (first second : Progress)
  deriving DecidableEq, Repr

namespace Progress

/-- Whether no match stands inside of the pattern. -/
def isIdle : Progress → Bool
  | .idle => true
  | _ => false

/-- Where matches stand in the first of two parts. -/
def first : Progress → Progress
  | .within first _ => first
  | _ => .idle

/-- Where matches stand in the second of two parts. -/
def second : Progress → Progress
  | .within _ second => second
  | _ => .idle

/-- Where matches stand in a pattern of two parts. -/
def ofParts : Progress → Progress → Progress
  | .idle, .idle => .idle
  | first, second => .within first second

end Progress

namespace Pattern

/-- Whether the pattern matches the empty stretch at a place. -/
def matchesEmpty (place : Place) : Pattern → Bool
  | .nothing => true
  | .one _ => false
  | .here anchor => anchor.holds place
  | .sequence first second => first.matchesEmpty place && second.matchesEmpty place
  | .choice first second => first.matchesEmpty place || second.matchesEmpty place
  | .repetition body least most =>
    (least = 0 || body.matchesEmpty place) && most.all (least ≤ ·)

/-- The number of rounds of a repetition that are told apart. -/
def roundCount (least : Nat) (most : Option Nat) : Nat := most.getD (max least 1)

/-! ## Ends -/

/-- Whether a match inside of some rounds has come to the end of a repetition, if `ended` says that
of the body. Of the rounds, `due` are required; they may match nothing if the body is
`skippable`. -/
def roundsEnded (ended : Progress → Bool) (skippable : Bool) (due : Nat) : Nat → Progress → Bool
  | 0, _ => false
  | count + 1, progress =>
    if progress.isIdle then false
    else
      ended progress.first && (due ≤ 1 || skippable) ||
        roundsEnded ended skippable (due - 1) count progress.second

/-- Whether a match inside of the pattern has come to the end of it at a place. -/
def isEnded (place : Place) (pattern : Pattern) (progress : Progress) : Bool :=
  match pattern with
  | .nothing => false
  | .one _ => !progress.isIdle
  | .here _ => false
  | .sequence first second =>
    first.isEnded place progress.first && second.matchesEmpty place ||
      second.isEnded place progress.second
  | .choice first second =>
    first.isEnded place progress.first || second.isEnded place progress.second
  | .repetition body least most =>
    roundsEnded (body.isEnded place) (body.matchesEmpty place) least (roundCount least most)
      progress

/-- Whether a match has come to the end of the pattern at a place. If `enters` is set, a match also
begins there. -/
def isDone (place : Place) (pattern : Pattern) (enters : Bool) (progress : Progress) : Bool :=
  pattern.isEnded place progress || enters && pattern.matchesEmpty place

/-! ## Steps -/

/-- Takes the matches inside of some rounds over a character, if `advance` does that for the body.
In an `endless` repetition the last round goes back to its start. -/
def advanceRounds (advance : Bool → Progress → Progress) (ended : Progress → Bool)
    (skippable endless : Bool) (due : Nat) : Nat → Bool → Progress → Progress
  | 0, _, _ => .idle
  | count + 1, enters, progress =>
    if !enters && progress.isIdle then .idle
    else
      let done := ended progress.first
      .ofParts (advance (enters || endless && count = 0 && done) progress.first)
        (advanceRounds advance ended skippable endless (due - 1) count
          (done || enters && 1 < due && skippable) progress.second)

/-- Takes the matches inside of the pattern over the character `c` at a place. If `enters` is set, a
match also begins there. -/
def advance (place : Place) (c : Char) (pattern : Pattern) (enters : Bool) (progress : Progress) :
    Progress :=
  if !enters && progress.isIdle then .idle
  else
    match pattern with
    | .nothing => .idle
    | .one set => if enters && set.holds c then .read else .idle
    | .here _ => .idle
    | .sequence first second =>
      .ofParts (first.advance place c enters progress.first)
        (second.advance place c (first.isDone place enters progress.first) progress.second)
    | .choice first second =>
      .ofParts (first.advance place c enters progress.first)
        (second.advance place c enters progress.second)
    | .repetition body least most =>
      advanceRounds (body.advance place c) (body.isEnded place) (body.matchesEmpty place)
        most.isNone least (roundCount least most) enters progress

/-! ## Searches -/

/-- Whether a match comes to its end somewhere in a text, which stands after the character `before`.
A match begins at every place. -/
def search (pattern : Pattern) (before : Option Char) (progress : Progress) : Text → Bool
  | [] => pattern.isDone ⟨before, none⟩ true progress
  | c :: text =>
    let place := ⟨before, some c⟩
    pattern.isDone place true progress ||
      search pattern (some c) (pattern.advance place c true progress) text

/-- Whether the pattern matches some stretch of the text. -/
def occursIn (pattern : Pattern) (text : Text) : Bool := pattern.search none .idle text

end Pattern

end Amalgamation

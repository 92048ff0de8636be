import Amalgamation.Directive.Condition
import Amalgamation.Error

/-!
# Filtering by features

A feature block runs from an `#if` whose condition speaks of features to the `#endif` whose comment
does. The filter drops the two lines themselves and, when the condition is false, all that stands
between them. Feature blocks do not nest, and the comment at the end must spell the condition at the
start: both must have the same canonical text.

What is kept is written with its place of origin in front, except after a line that ends with a
backslash, and an empty line is kept only after one that is not empty. In the toggle file the
definitions of the feature macros are set to the value that the selection gives them.

The filter goes through the lines once. `Filter.step` says what one line does, `Filter.run` goes on
to the next line that was not already taken as the continuation of an earlier one.
-/

set_option autoImplicit false

namespace Amalgamation

/-- A filter for one selection of features. -/
structure Filter where
  vocabulary : Vocabulary
  catalog : Catalog
  enabled : Selection
  /-- The name of the file in which the feature macros are defined. -/
  toggleFile : Text

namespace Filter

/-- The feature block that is open. -/
structure OpenBlock where
  condition : FeatureExpr
  openedAt : Nat
  deriving DecidableEq, Repr

/-- What the filter remembers of the lines it has read. -/
structure State where
  /-- The open feature block, if there is one. -/
  block : Option OpenBlock
  /-- The last line that was kept, or the empty line before any was. -/
  previous : Text
  deriving DecidableEq, Repr

/-- Nothing has been read. -/
def State.start : State := ⟨none, []⟩

/-- Whether a file is the toggle file, in whatever directory. -/
def isToggleFile (filter : Filter) (file : Text) : Bool :=
  file = filter.toggleFile || Text.endsWith ('/' :: filter.toggleFile) file

/-- The comment that says where a line comes from. -/
def origin (file : Text) (number : Nat) : Text :=
  "// ".toList ++ file ++ ':' :: Text.ofNat number

/-- The lines written for a line that is kept, and the state after it. -/
def keep (file : Text) (number : Nat) (line : Text) (state : State) : List Text × State :=
  if line = [] ∧ state.previous = [] then ([], state)
  else if state.previous.getLast? = some '\\' then ([line], { state with previous := line })
  else ([origin file number, line], { state with previous := line })

/-- Whether the lines of the open block are kept; outside of blocks every line is. -/
def keeps (filter : Filter) (state : State) : Bool :=
  state.block.all fun block => block.condition.holds filter.enabled

/-- The line that defines a feature macro as the selection says. Its value in the source must
be 1. -/
def toggled (filter : Filter) (file : Text) (number : Nat) (line name value : Text) :
    Except Error Text :=
  if value ≠ ['1'] then .error (.invalidToggle file number line)
  else if filter.enabled.contains name then .ok line
  else .ok ("#define ".toList ++ name ++ " 0".toList)

/-- The condition that a text spells; the error tells its place. -/
def readCondition (filter : Filter) (file : Text) (number : Nat) (text : Text) :
    Except Error FeatureExpr :=
  (FeatureExpr.parse filter.catalog text).mapError (.expression file number)

/-- Opens a feature block. -/
def openBlock (filter : Filter) (file : Text) (number : Nat) (text : Text) (state : State) :
    Except Error State :=
  match state.block with
  | some block => .error (.nestedBlock file number block.openedAt)
  | none => do
    let condition ← filter.readCondition file number text
    return { state with block := some ⟨condition, number⟩ }

/-- Closes the feature block that is open. -/
def closeBlock (filter : Filter) (file : Text) (number : Nat) (text : Text) (state : State) :
    Except Error State :=
  match state.block with
  | none => .error (.orphanEndif file number)
  | some block => do
    let found ← filter.readCondition file number text
    if found.canonical = block.condition.canonical then return { state with block := none }
    else
      throw (.blockMismatch file number block.openedAt block.condition.canonical found.canonical)

/-- What one line does. -/
structure Effect where
  /-- The lines it writes. -/
  written : List Text
  /-- How many of the following lines it takes as its continuation. -/
  taken : Nat
  state : State

/-- What a line does that neither opens nor closes a feature block. -/
def stepPlain (filter : Filter) (file : Text) (number : Nat) (directive : Directive) (line : Text)
    (state : State) : Except Error Effect :=
  match directive, filter.isToggleFile file with
  | .toggle name value, true => do
    let written ← filter.toggled file number line name value
    return ⟨[written], 0, state⟩
  | _, _ =>
    if filter.keeps state then
      let (written, next) := keep file number line state
      .ok ⟨written, 0, next⟩
    else .ok ⟨[], 0, state⟩

/-- What a line does. -/
def step (filter : Filter) (file : Text) (number : Nat) (line : Text) (following : List Text)
    (state : State) : Except Error Effect :=
  let directive := Directive.classify filter.vocabulary line
  match directive.featureCondition filter.vocabulary following,
      directive.featureComment filter.vocabulary following with
  | some (text, taken), _ => do return ⟨[], taken, ← filter.openBlock file number text state⟩
  | none, some (text, taken) => do return ⟨[], taken, ← filter.closeBlock file number text state⟩
  | none, none => filter.stepPlain file number directive line state

/-- Filters lines, of which the first has the given number and the first `taken` belong to an
earlier directive. -/
def run (filter : Filter) (file : Text) :
    (number taken : Nat) → State → List Text → Except Error (List Text)
  | _, _, state, [] =>
    match state.block with
    | none => .ok []
    | some block => .error (.unclosedBlock file block.openedAt block.condition.canonical)
  | number, taken + 1, state, _ :: following => filter.run file (number + 1) taken state following
  | number, 0, state, line :: following => do
    let effect ← filter.step file number line following state
    let rest ← filter.run file (number + 1) effect.taken effect.state following
    return effect.written ++ rest

/-- The lines of a file as the selection leaves them. -/
def filterLines (filter : Filter) (file : Text) (lines : List Text) : Except Error (List Text) :=
  filter.run file 1 0 .start lines

end Filter

end Amalgamation

import Amalgamation.Pattern.Basic

/-!
# The simple form of a pattern

A form matches what its pattern matches and is written without detours: sequences and choices are
flat, neighbouring characters are one literal, empty parts are gone, a choice between characters or
between sets is one set, and what all alternatives begin with stands in front of the choice. The
automaton of a pattern is built from its form.
-/

set_option autoImplicit false

namespace Amalgamation

/-- The simple form of a pattern. -/
inductive Form where
  /-- The empty stretch. -/
  | nothing
  /-- Some characters, one after another. -/
  | literal (text : Text)
  /-- One character of a set, which has not just one. -/
  | set (chars : CharSet)
  | here (anchor : Anchor)
  | repetition (body : Form) (least : Nat) (most : Option Nat) (greedy : Bool)
  | group (number : Nat) (body : Form)
  /-- At least two parts, none of them empty or a sequence, and no two literals side by side. -/
  | sequence (parts : List Form)
  /-- At least two alternatives, none of them a choice. -/
  | choice (alternatives : List Form)

namespace Form

/-! ## Properties -/

mutual

/-- Whether two forms are written alike. -/
def isSame : Form → Form → Bool
  | .nothing, .nothing => true
  | .literal a, .literal b => a = b
  | .set a, .set b => a = b
  | .here a, .here b => a = b
  | .repetition a least most greedy, .repetition b least' most' greedy' =>
    a.isSame b && least = least' && most = most' && greedy = greedy'
  | .group number a, .group number' b => number = number' && a.isSame b
  | .sequence as, .sequence bs => areSame as bs
  | .choice as, .choice bs => areSame as bs
  | _, _ => false

/-- Whether two lists of forms are written alike. -/
def areSame : List Form → List Form → Bool
  | [], [] => true
  | a :: as, b :: bs => a.isSame b && areSame as bs
  | _, _ => false

end

mutual

/-- The number of the parts of a form. -/
def weight : Form → Nat
  | .repetition body _ _ _ => body.weight + 1
  | .group _ body => body.weight + 1
  | .sequence parts => totalWeight parts + 1
  | .choice alternatives => totalWeight alternatives + 1
  | _ => 1

/-- The number of the parts of some forms. -/
def totalWeight : List Form → Nat
  | [] => 0
  | form :: forms => form.weight + totalWeight forms

end

mutual

/-- Whether the form is known to match nothing but empty stretches. -/
def readsNothing : Form → Bool
  | .nothing => true
  | .literal text => text.isEmpty
  | .set _ => false
  | .here _ => true
  | .repetition body _ most _ => most.isSome && body.readsNothing
  | .group _ body => body.readsNothing
  | .sequence parts => allReadNothing parts
  | .choice alternatives => allReadNothing alternatives

/-- Whether all of some forms are known to match nothing but empty stretches. -/
def allReadNothing : List Form → Bool
  | [] => true
  | form :: forms => form.readsNothing && allReadNothing forms

end

mutual

/-- The least number of characters that the form reads. It is not known if a part of the form
matches nothing at all. -/
def leastLength? : Form → Option Nat
  | .nothing => some 0
  | .literal text => some text.length
  | .set chars => if chars.ranges.isEmpty then none else some 1
  | .here _ => some 0
  | .repetition body least _ _ => body.leastLength?.map (least * ·)
  | .group _ body => body.leastLength?
  | .sequence parts => sumOfLeast? parts
  | .choice alternatives => leastOfLeast? alternatives

/-- The sum of the least numbers of some forms. -/
def sumOfLeast? : List Form → Option Nat
  | [] => some 0
  | form :: forms =>
    match form.leastLength?, sumOfLeast? forms with
    | some a, some b => some (a + b)
    | _, _ => none

/-- The smallest of the least numbers of some forms. -/
def leastOfLeast? : List Form → Option Nat
  | [] => none
  | [form] => form.leastLength?
  | form :: forms =>
    match form.leastLength?, leastOfLeast? forms with
    | some a, some b => some (min a b)
    | _, _ => none

end

mutual

/-- Whether the form is so written that all it matches starts at the start of the text. -/
def startsAtStart : Form → Bool
  | .here anchor => anchor = .textStart
  | .repetition body least _ _ => 0 < least && body.startsAtStart
  | .group _ body => body.startsAtStart
  | .sequence parts => firstStartsAtStart parts
  | .choice alternatives => allStartAtStart alternatives
  | _ => false

/-- Whether one of the parts that come first starts at the start of the text. -/
def firstStartsAtStart : List Form → Bool
  | [] => false
  | form :: forms => form.startsAtStart || form.readsNothing && firstStartsAtStart forms

/-- Whether all of some forms start at the start of the text. -/
def allStartAtStart : List Form → Bool
  | [] => true
  | form :: forms => form.startsAtStart && allStartAtStart forms

end

mutual

/-- Whether the form is so written that all it matches ends at the end of the text. -/
def endsAtEnd : Form → Bool
  | .here anchor => anchor = .textEnd
  | .repetition body least _ _ => 0 < least && body.endsAtEnd
  | .group _ body => body.endsAtEnd
  | .sequence parts => lastEndsAtEnd parts
  | .choice alternatives => allEndAtEnd alternatives
  | _ => false

/-- Whether one of the parts that come last ends at the end of the text. -/
def lastEndsAtEnd : List Form → Bool
  | [] => false
  | form :: forms => lastEndsAtEnd forms || allReadNothing forms && form.endsAtEnd

/-- Whether all of some forms end at the end of the text. -/
def allEndAtEnd : List Form → Bool
  | [] => true
  | form :: forms => form.endsAtEnd && allEndAtEnd forms

end

/-! ## Building forms -/

/-- A set, or the character of a set that has just one. -/
def ofSet (chars : CharSet) : Form :=
  match chars.single? with
  | some c => .literal [c]
  | none => .set chars

/-- The parts of a form that stands in a sequence. -/
def parts : Form → List Form
  | .nothing => []
  | .sequence parts => parts
  | form => [form]

/-- Joins literals that stand side by side. -/
def joinLiterals : List Form → List Form
  | [] => []
  | .literal a :: forms =>
    match joinLiterals forms with
    | .literal b :: forms => .literal (a ++ b) :: forms
    | forms => .literal a :: forms
  | form :: forms => form :: joinLiterals forms

/-- Forms one after another. -/
def ofSequence (forms : List Form) : Form :=
  match joinLiterals (forms.flatMap parts) with
  | [] => .nothing
  | [form] => form
  | forms => .sequence forms

/-- The alternatives of a form that stands in a choice. -/
def alternatives : Form → List Form
  | .choice alternatives => alternatives
  | form => [form]

/-- The set of a form that is one character. -/
def character? : Form → Option CharSet
  | .literal [c] => some (.single c)
  | _ => none

/-- The set of a form that is a set. -/
def set? : Form → Option CharSet
  | .set chars => some chars
  | _ => none

/-- The parts of a form that is a sequence. -/
def sequence? : Form → Option (List Form)
  | .sequence parts => some parts
  | _ => none

/-- The union of the sets of some forms, if all of them have one. -/
def union? (setOf? : Form → Option CharSet) (forms : List Form) : Option CharSet :=
  (forms.mapM setOf?).map fun sets => sets.foldr .union .empty

/-- How many forms two lists have in common at their starts. -/
def sharedLength : List Form → List Form → Nat
  | a :: as, b :: bs => if a.isSame b then sharedLength as bs + 1 else 0
  | _, _ => 0

/-- How many forms all of some lists have in common at their starts. -/
def commonLength : List (List Form) → Nat
  | [] => 0
  | first :: lists => lists.foldl (fun n forms => min n (sharedLength first forms)) first.length

/-- A choice between forms. What all alternatives begin with, if they are sequences, is put in front
of the choice between the rests; `fuel` bounds how often. -/
def ofChoiceWithin : Nat → List Form → Form
  | 0, forms => .choice forms
  | fuel + 1, forms =>
    match forms.flatMap alternatives with
    | [] => .set .empty
    | [form] => form
    | forms =>
      match union? character? forms, union? set? forms, forms.mapM sequence? with
      | some chars, _, _ => ofSet chars
      | none, some chars, _ => ofSet chars
      | none, none, some sequences =>
        match commonLength sequences with
        | 0 => .choice forms
        | length =>
          let rests := sequences.map fun parts => ofSequence (parts.drop length)
          ofSequence ((sequences.headD []).take length ++ [ofChoiceWithin fuel rests])
      | none, none, none => .choice forms

/-- A choice between forms. -/
def ofChoice (forms : List Form) : Form := ofChoiceWithin (totalWeight forms + 1) forms

/-- A repetition, with no more rounds than make a difference. -/
def ofRepetition (body : Form) (least : Nat) (most : Option Nat) (greedy : Bool) : Form :=
  let least := if body.readsNothing then min least 1 else least
  let most := if body.readsNothing then some (min (most.getD 1) 1) else most
  if most = some 0 then .nothing
  else if least = 1 ∧ most = some 1 then body
  else .repetition body least most greedy

end Form

end Amalgamation

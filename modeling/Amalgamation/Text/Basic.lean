/-!
# Text

Source text, file names, patterns and messages are all lists of characters. This module holds the
operations that the rest of the library shares: reading past a fixed beginning (`after?`), and
splitting at a separator and joining again.

`after?` is the one way in which a keyword is recognised, and `after?_eq_some_iff` says what it
recognises: exactly the texts that begin with the keyword.
-/

set_option autoImplicit false

namespace Amalgamation

/-- A text is the list of its characters. -/
abbrev Text := List Char

/-- Texts that compare equal, character by character, are equal. -/
instance : LawfulBEq Text := inferInstanceAs (LawfulBEq (List Char))

/-! ## What follows a beginning -/

section After

variable {α : Type} [DecidableEq α]

/-- What follows `mark` in a list that begins with it. -/
def after? : List α → List α → Option (List α)
  | [], list => some list
  | _ :: _, [] => none
  | m :: mark, x :: list => if m = x then after? mark list else none

theorem after?_eq_some_iff {mark list rest : List α} :
    after? mark list = some rest ↔ list = mark ++ rest := by
  induction mark generalizing list with
  | nil => simp [after?]
  | cons m mark ih =>
    cases list with
    | nil => simp [after?]
    | cons x list =>
      by_cases h : m = x
      · simp [after?, h, ih]
      · simp [after?, h, Ne.symm h]

@[simp] theorem after?_append (mark rest : List α) : after? mark (mark ++ rest) = some rest :=
  after?_eq_some_iff.2 rfl

end After

namespace Text

/-! ## Beginnings and ends -/

/-- Whether a text begins with `mark`. -/
def startsWith (mark text : Text) : Bool := mark.isPrefixOf text

/-- Whether a text ends with `mark`. -/
def endsWith (mark text : Text) : Bool := mark.isSuffixOf text

/-! ## Pieces -/

/-- The pieces of a text between the separators: one more than there are separators. -/
def splitOn (separator : Char) : Text → List Text
  | [] => [[]]
  | c :: text =>
    if c = separator then [] :: splitOn separator text
    else
      match splitOn separator text with
      | [] => [[c]]
      | piece :: pieces => (c :: piece) :: pieces

/-- The pieces in order, with `separator` between neighbours. -/
def joinWith (separator : Text) : List Text → Text
  | [] => []
  | [piece] => piece
  | piece :: pieces => piece ++ separator ++ joinWith separator pieces

theorem splitOn_ne_nil (separator : Char) (text : Text) : splitOn separator text ≠ [] := by
  cases text with
  | nil => simp [splitOn]
  | cons c text =>
    unfold splitOn
    split
    · simp
    · split <;> simp

/-- Joining the pieces with the separator gives the text back. -/
theorem joinWith_splitOn (separator : Char) (text : Text) :
    joinWith [separator] (splitOn separator text) = text := by
  induction text with
  | nil => rfl
  | cons c text ih =>
    unfold splitOn
    split
    · next h =>
      cases hp : splitOn separator text with
      | nil => exact absurd hp (splitOn_ne_nil separator text)
      | cons piece pieces => rw [hp] at ih; simp [joinWith, ih, h]
    · cases hp : splitOn separator text with
      | nil => exact absurd hp (splitOn_ne_nil separator text)
      | cons piece pieces =>
        rw [hp] at ih
        cases pieces with
        | nil => simpa [joinWith] using ih
        | cons next more => simpa [joinWith] using ih

/-- The decimal digits of a number. -/
def ofNat (n : Nat) : Text := Nat.toDigits 10 n

end Text

end Amalgamation

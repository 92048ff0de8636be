import Amalgamation.Text.Blank

/-!
# Lines

A line ends at a line feed; a carriage return directly before the line feed belongs to the line's
end. What follows the last line feed is a line only if it is not empty.
-/

set_option autoImplicit false

namespace Amalgamation.Text

/-- The lines of a text, without the marks that end them. -/
def lines : Text → List Text
  | [] => []
  | '\n' :: text => [] :: lines text
  | '\r' :: '\n' :: text => [] :: lines text
  | c :: text =>
    match lines text with
    | [] => [[c]]
    | line :: rest => (c :: line) :: rest

/-- The lines of a text without the blanks at the end of each. -/
def trimmedLines (text : Text) : List Text := (lines text).map trimEnd

/-- The text in which each line is ended by a line feed. -/
def unlines (lines : List Text) : Text := lines.flatMap (· ++ ['\n'])

example : lines "a\r\n\nb\rc\r\r\nd\r".toList =
    ["a".toList, [], "b\rc\r".toList, "d\r".toList] := by decide

end Amalgamation.Text

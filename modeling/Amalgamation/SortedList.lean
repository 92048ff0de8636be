/-!
# Sorted lists

Inserting one element at a time into a list that is strictly sorted keeps it so; an element that is
already there is not added again. Repeated insertion therefore turns any list into the sorted list
of its different elements.
-/

set_option autoImplicit false

namespace Amalgamation.SortedList

variable {α : Type}

/-- Puts `x` before the first element that is not below it, unless that element is its equal. -/
def insert (below : α → α → Bool) (x : α) : List α → List α
  | [] => [x]
  | y :: ys =>
    if below x y then x :: y :: ys
    else if below y x then y :: insert below x ys
    else y :: ys

/-- The different elements of a list in order. -/
def ofList (below : α → α → Bool) (xs : List α) : List α := xs.foldr (insert below) []

end Amalgamation.SortedList

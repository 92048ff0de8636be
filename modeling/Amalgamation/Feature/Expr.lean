import Amalgamation.Feature.Catalog

/-!
# Feature conditions

A feature condition combines feature names by conjunction and disjunction. Its canonical text puts
every combination into parentheses, so it shows the tree and nothing else. A condition holds under a
selection when the features that are on make it true.
-/

set_option autoImplicit false

namespace Amalgamation

/-- The two ways to combine conditions. -/
inductive Connective where
  | and
  | or
  deriving DecidableEq, Repr

/-- The sign of a connective. -/
def Connective.sign : Connective → Text
  | .and => ['&', '&']
  | .or => ['|', '|']

/-- A connective as a function on truth values. -/
def Connective.eval : Connective → Bool → Bool → Bool
  | .and, a, b => a && b
  | .or, a, b => a || b

/-- A feature condition. -/
inductive FeatureExpr where
  | feature (name : Text)
  | combine (connective : Connective) (left right : FeatureExpr)
  deriving DecidableEq, Repr

namespace FeatureExpr

/-- The text of a condition in which every combination stands in parentheses. -/
def canonical : FeatureExpr → Text
  | .feature name => name
  | .combine connective left right =>
    '(' :: canonical left ++ ' ' :: connective.sign ++ ' ' :: canonical right ++ [')']

/-- Whether the condition is true of a selection. -/
def holds (selection : Selection) : FeatureExpr → Bool
  | .feature name => selection.contains name
  | .combine connective left right => connective.eval (holds selection left) (holds selection right)

end FeatureExpr

end Amalgamation

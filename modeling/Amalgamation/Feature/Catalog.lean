import Amalgamation.SortedList
import Amalgamation.Text.Blank

/-!
# Features

A feature is known by its full name and may have a short name for the command line. A catalog is a
list of declared features in which no full name is blank or declared twice and no short name is
declared twice. A selection is the set of features that are switched on.

Full names and short names share one way of asking (`Catalog.resolve`), in which full names come
first: a text that is both the full name of one feature and the short name of another means the
former.
-/

set_option autoImplicit false

namespace Amalgamation

/-- The declaration of one feature. -/
structure FeatureSpec where
  name : Text
  shortName : Option Text
  deriving DecidableEq, Repr

/-- What is wrong with a list of declarations. -/
inductive CatalogFault where
  | blankName
  | duplicateName (name : Text)
  | duplicateShortName (shortName : Text)
  deriving DecidableEq, Repr

/-- The first fault in a list of declarations, after the given names and short names. -/
def CatalogFault.first? (names shortNames : List Text) : List FeatureSpec → Option CatalogFault
  | [] => none
  | spec :: specs =>
    if Text.isBlankText spec.name then some .blankName
    else if spec.name ∈ names then some (.duplicateName spec.name)
    else
      match spec.shortName with
      | none => first? (spec.name :: names) shortNames specs
      | some shortName =>
        if shortName ∈ shortNames then some (.duplicateShortName shortName)
        else first? (spec.name :: names) (shortName :: shortNames) specs

/-- The declared features, in the order of their declaration. -/
structure Catalog where
  specs : List FeatureSpec
  faultless : CatalogFault.first? [] [] specs = none

/-- The features that are switched on, each once and in order. -/
structure Selection where
  names : List Text
  deriving DecidableEq, Repr

namespace Selection

/-- No feature is on. -/
def empty : Selection := ⟨[]⟩

/-- Exactly the named features are on. -/
def ofNames (names : List Text) : Selection := ⟨SortedList.ofList (· < ·) names⟩

/-- Whether a feature is on. -/
def contains (selection : Selection) (name : Text) : Bool := name ∈ selection.names

/-- Whether every feature of the catalog is on. -/
def isComplete (selection : Selection) (catalog : Catalog) : Bool :=
  catalog.specs.all fun spec => selection.contains spec.name

end Selection

namespace Catalog

/-- The catalog of some declarations, or the first fault in them. -/
def ofSpecs (specs : List FeatureSpec) : Except CatalogFault Catalog :=
  match h : CatalogFault.first? [] [] specs with
  | some fault => .error fault
  | none => .ok ⟨specs, h⟩

/-- The full names, in the order of declaration. -/
def names (catalog : Catalog) : List Text := catalog.specs.map (·.name)

/-- Whether a text is the full name of a feature. -/
def declares (catalog : Catalog) (name : Text) : Bool := name ∈ catalog.names

/-- The full name that a full name or a short name stands for. -/
def resolve (catalog : Catalog) (text : Text) : Option Text :=
  if catalog.declares text then some text
  else (catalog.specs.find? fun spec => spec.shortName = some text).map (·.name)

/-- All features on. -/
def all (catalog : Catalog) : Selection := .ofNames catalog.names

/-- The full names that some texts stand for, or the first text that stands for no feature. -/
def resolveAll (catalog : Catalog) : List Text → Except Text (List Text)
  | [] => .ok []
  | text :: texts =>
    match catalog.resolve text with
    | none => .error text
    | some name => (resolveAll catalog texts).map (name :: ·)

/-- The selection that was asked for by full or short names. Asking for nothing asks for all. -/
def select (catalog : Catalog) (requested : List Text) : Except Text Selection :=
  if requested = [] then .ok catalog.all else (catalog.resolveAll requested).map .ofNames

end Catalog

end Amalgamation

import Amalgamation.Config.Basic
import Amalgamation.Json.Parse

/-!
# Configurations in JSON

A configuration is an object whose members are fields, or an array of fields in their fixed order.
Fields that are missing keep their standard value; in an object, members of other names are ignored
and no field may be given twice; an array may not be longer than the list of fields. A feature is
written in the same way, with the fields `name`, which must be given, and `alias`.
-/

set_option autoImplicit false

namespace Amalgamation

namespace Json

/-- A field of a record: its name, and how its value changes the record. -/
structure Field (α : Type) where
  name : Text
  read : Json → Option (α → α)

/-- Reads the members of an object into a record. -/
def readMembers {α : Type} (fields : List (Field α)) :
    (given : List Text) → List (Option Text × Json) → α → Option α
  | _, [], record => some record
  | _, (none, _) :: _, _ => none
  | given, (some name, value) :: members, record =>
    match fields.find? fun field => field.name = name with
    | none => readMembers fields given members record
    | some field => do
      if name ∈ given then none
      else
        let change ← field.read value
        readMembers fields (name :: given) members (change record)

/-- Reads the items of an array into a record. -/
def readItems {α : Type} : List (Field α) → List Json → α → Option α
  | _, [], record => some record
  | [], _ :: _, _ => none
  | field :: fields, value :: values, record => do
    let change ← field.read value
    readItems fields values (change record)

/-- Reads a record, which starts out as the given one. -/
def readRecord {α : Type} (fields : List (Field α)) (start : α) : Json → Option α
  | .object members => readMembers fields [] members start
  | .array items => readItems fields items start
  | _ => none

/-- A text. -/
def toText : Json → Option Text
  | .string text => text
  | _ => none

/-- A truth value. -/
def toBool : Json → Option Bool
  | .bool value => some value
  | _ => none

/-- A list of values that are all read in one way. -/
def toList {α : Type} (read : Json → Option α) : Json → Option (List α)
  | .array items => items.mapM read
  | _ => none

/-- A path. -/
def toPath (value : Json) : Option Path := value.toText.map Path.mk

/-- Something that is read in some way, or nothing. -/
def toOption {α : Type} (read : Json → Option α) : Json → Option (Option α)
  | .null => some none
  | value => (read value).map some

end Json

namespace FeatureSpec

/-- The fields of a feature, of which the name may not have been given yet. -/
def fields : List (Json.Field (Option Text × Option Text)) :=
  [⟨"name".toList, fun value => value.toText.map fun name spec => (some name, spec.2)⟩,
    ⟨"alias".toList,
      fun value => (value.toOption Json.toText).map fun shortName spec => (spec.1, shortName)⟩]

/-- The feature that a value describes. -/
def ofJson (value : Json) : Option FeatureSpec := do
  let (name, shortName) ← value.readRecord fields (none, none)
  return ⟨← name, shortName⟩

end FeatureSpec

namespace Config

/-- The fields of a configuration in their order. -/
def fields : List (Json.Field Config) :=
  [⟨"project_dir".toList,
      fun value => value.toPath.map fun path config => { config with projectDir := path }⟩,
    ⟨"include_dir".toList, fun value =>
      (value.toOption Json.toPath).map fun path config => { config with includeDir := path }⟩,
    ⟨"source_dir".toList, fun value =>
      (value.toOption Json.toPath).map fun path config => { config with sourceDir := path }⟩,
    ⟨"output_dir".toList, fun value =>
      (value.toOption Json.toPath).map fun path config => { config with outputDir := path }⟩,
    ⟨"header_entry".toList,
      fun value => value.toText.map fun entry config => { config with headerEntry := entry }⟩,
    ⟨"implementation_entry".toList, fun value =>
      value.toText.map fun entry config => { config with implementationEntry := entry }⟩,
    ⟨"toggle_file".toList,
      fun value => value.toText.map fun name config => { config with toggleFile := name }⟩,
    ⟨"feature_prefix".toList,
      fun value => value.toText.map fun start config => { config with featurePrefix := start }⟩,
    ⟨"selector_macro".toList,
      fun value => value.toText.map fun name config => { config with selectorMacro := name }⟩,
    ⟨"known_features".toList, fun value =>
      (value.toList FeatureSpec.ofJson).map fun specs config =>
        { config with knownFeatures := specs }⟩,
    ⟨"enabled_features".toList, fun value =>
      (value.toList Json.toText).map fun names config => { config with enabledFeatures := names }⟩,
    ⟨"exempt_patterns".toList, fun value =>
      (value.toList Json.toText).map fun patterns config =>
        { config with exemptPatterns := patterns }⟩,
    ⟨"debug_sources".toList,
      fun value => value.toBool.map fun shown config => { config with debugSources := shown }⟩,
    ⟨"source_extensions".toList, fun value =>
      (value.toList Json.toText).map fun extensions config =>
        { config with sourceExtensions := extensions }⟩]

/-- The configuration that a JSON text describes. -/
def ofJsonText (text : Text) : Option Config :=
  (Json.parse text).bind (Json.readRecord fields standard)

/-- The configuration in a file, which must be usable. -/
def load (tree : FileTree) (path : Path) : Except Error Config :=
  match tree.read path with
  | .error fault => .error (.unreadable path fault)
  | .ok text =>
    match ofJsonText text with
    | none => .error .badJson
    | some config => config.validate.map fun _ => config

end Config

end Amalgamation

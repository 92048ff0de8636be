import Amalgamation.Directive.Basic
import Amalgamation.Error

/-!
# Configurations

A configuration says where the source tree lies, which two files are the entries of the bundle,
which features there are and which of them are wanted. Directories that are not given lie below the
project directory.

A configuration is usable when its names are not blank, its features form a catalog of which every
name begins with the feature prefix, and every wanted feature is known (`Config.validate`).
-/

set_option autoImplicit false

namespace Amalgamation

/-- The configuration of a run. -/
structure Config where
  /-- Paths are shown relative to this directory. -/
  projectDir : Path
  includeDir : Option Path
  sourceDir : Option Path
  outputDir : Option Path
  /-- The file that becomes the header. -/
  headerEntry : Text
  /-- The file that becomes the implementation. -/
  implementationEntry : Text
  /-- The name of the file that defines the feature macros. -/
  toggleFile : Text
  featurePrefix : Text
  selectorMacro : Text
  knownFeatures : List FeatureSpec
  /-- Full or short names; none means all. -/
  enabledFeatures : List Text
  /-- Patterns of the include targets that may be expanded again and again. -/
  exemptPatterns : List Text
  /-- Whether the lines of the bundle show where they come from. -/
  debugSources : Bool
  /-- The extensions of the files to check. -/
  sourceExtensions : List Text
  deriving DecidableEq, Repr

/-- A feature with both of its names. -/
def FeatureSpec.named (name shortName : String) : FeatureSpec :=
  ⟨name.toList, some shortName.toList⟩

namespace Config

/-- The configuration that holds where nothing else is said. -/
def standard : Config where
  projectDir := ⟨".".toList⟩
  includeDir := none
  sourceDir := none
  outputDir := none
  headerEntry := "simdutf.h".toList
  implementationEntry := "simdutf.cpp".toList
  toggleFile := "implementation.h".toList
  featurePrefix := "SIMDUTF_FEATURE".toList
  selectorMacro := "SIMDUTF_IMPLEMENTATION".toList
  knownFeatures :=
    [.named "SIMDUTF_FEATURE_DETECT_ENCODING" "detect-enc",
      .named "SIMDUTF_FEATURE_LATIN1" "latin1",
      .named "SIMDUTF_FEATURE_ASCII" "ascii",
      .named "SIMDUTF_FEATURE_BASE64" "base64",
      .named "SIMDUTF_FEATURE_UTF8" "utf8",
      .named "SIMDUTF_FEATURE_UTF16" "utf16",
      .named "SIMDUTF_FEATURE_UTF32" "utf32"]
  enabledFeatures := []
  exemptPatterns := [".*generic/.*\\.h".toList, ".*/begin\\.h".toList, ".*/end\\.h".toList]
  debugSources := false
  sourceExtensions := ["cpp".toList, "h".toList]

/-! ## Directories -/

/-- The directory that is searched first. -/
def includeRoot (config : Config) : Path :=
  config.includeDir.getD (config.projectDir.join ⟨"include".toList⟩)

/-- The directory that is searched second. -/
def sourceRoot (config : Config) : Path :=
  config.sourceDir.getD (config.projectDir.join ⟨"src".toList⟩)

/-- The directory that the bundle is written to. -/
def outputRoot (config : Config) : Path :=
  config.outputDir.getD (config.projectDir.join ⟨"singleheader".toList⟩)

/-- The directories in which includes are looked up, in this order. -/
def searchRoots (config : Config) : List Path := [config.includeRoot, config.sourceRoot]

/-! ## Features -/

/-- The names by which directives are recognised. -/
def vocabulary (config : Config) : Vocabulary := ⟨config.featurePrefix, config.selectorMacro⟩

/-- The catalog of the known features. -/
def catalog (config : Config) : Except Error Catalog :=
  (Catalog.ofSpecs config.knownFeatures).mapError fun fault => .invalidConfig (.catalog fault)

/-- The wanted features. -/
def selection (config : Config) (catalog : Catalog) : Except Error Selection :=
  (catalog.select config.enabledFeatures).mapError .unknownFeature

/-! ## Validation -/

/-- The fields that must not be blank, with their names. -/
def requiredFields (config : Config) : List (Text × Text) :=
  [("header_entry".toList, config.headerEntry),
    ("implementation_entry".toList, config.implementationEntry),
    ("toggle_file".toList, config.toggleFile),
    ("feature_prefix".toList, config.featurePrefix),
    ("selector_macro".toList, config.selectorMacro)]

/-- The first field that must not be blank and is. -/
def blankField? (config : Config) : Option Text :=
  (config.requiredFields.find? fun field => Text.isBlankText field.2).map (·.1)

/-- The first feature whose name does not begin with the feature prefix. -/
def foreignFeature? (config : Config) (catalog : Catalog) : Option Text :=
  catalog.names.find? fun name => !Text.startsWith config.featurePrefix name

/-- The catalog and the selection of a usable configuration, or the first reason why it is not
usable. -/
def features (config : Config) : Except Error (Catalog × Selection) :=
  match config.blankField? with
  | some field => .error (.invalidConfig (.blankField field))
  | none => do
    let catalog ← config.catalog
    if catalog.specs = [] then throw (.invalidConfig .noFeature)
    match config.foreignFeature? catalog with
    | some name => throw (.invalidConfig (.foreignFeature name config.featurePrefix))
    | none =>
      let selection ← config.selection catalog
      return (catalog, selection)

/-- Whether the configuration is usable. -/
def validate (config : Config) : Except Error Unit := config.features.map fun _ => ()

/-! ## Changes -/

/-- One change of a configuration. -/
inductive Setting where
  | projectDir (path : Path)
  | includeDir (path : Path)
  | sourceDir (path : Path)
  | outputDir (path : Path)
  | headerEntry (entry : Text)
  | implementationEntry (entry : Text)
  | toggleFile (name : Text)
  | featurePrefix (start : Text)
  | selectorMacro (name : Text)
  | knownFeatures (specs : List FeatureSpec)
  /-- One more feature is wanted. -/
  | enable (name : Text)
  | enabledFeatures (names : List Text)
  | exemptPatterns (patterns : List Text)
  | debugSources (shown : Bool)
  | sourceExtensions (extensions : List Text)
  deriving DecidableEq, Repr

/-- The configuration after a change. -/
def set (config : Config) : Setting → Config
  | .projectDir path => { config with projectDir := path }
  | .includeDir path => { config with includeDir := some path }
  | .sourceDir path => { config with sourceDir := some path }
  | .outputDir path => { config with outputDir := some path }
  | .headerEntry entry => { config with headerEntry := entry }
  | .implementationEntry entry => { config with implementationEntry := entry }
  | .toggleFile name => { config with toggleFile := name }
  | .featurePrefix start => { config with featurePrefix := start }
  | .selectorMacro name => { config with selectorMacro := name }
  | .knownFeatures specs => { config with knownFeatures := specs }
  | .enable name => { config with enabledFeatures := config.enabledFeatures ++ [name] }
  | .enabledFeatures names => { config with enabledFeatures := names }
  | .exemptPatterns patterns => { config with exemptPatterns := patterns }
  | .debugSources shown => { config with debugSources := shown }
  | .sourceExtensions extensions => { config with sourceExtensions := extensions }

/-- The configuration after several changes, the first one first. -/
def setAll (config : Config) (settings : List Setting) : Config := settings.foldl set config

/-- The directories that the environment sets; `lookup` gives the value of a variable. -/
def environmentSettings (lookup : Text → Option Text) : List Setting :=
  ((lookup "AMALGAMATE_SOURCE_PATH".toList).map fun dir => Setting.sourceDir ⟨dir⟩).toList ++
    ((lookup "AMALGAMATE_INCLUDE_PATH".toList).map fun dir => Setting.includeDir ⟨dir⟩).toList ++
    ((lookup "AMALGAMATE_OUTPUT_PATH".toList).map fun dir => Setting.outputDir ⟨dir⟩).toList

end Config

end Amalgamation

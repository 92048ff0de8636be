import Amalgamation.Config.Basic
import Amalgamation.Inclusion

/-!
# Bundles

A bundle is one header and one implementation file. Each starts with a line that tells its time and
goes on with the lines of an inclusion pass over its entry; the selector has no value at the start
of either. What the header pass has expanded is published: the implementation pass does not expand
it again.

Both files are written to the output directory under the names of their entries, the header first.
-/

set_option autoImplicit false

namespace Amalgamation

/-- The texts of the two files. -/
structure Bundle where
  header : Text
  implementation : Text
  deriving DecidableEq, Repr

/-- Where the two files were written. -/
structure BundleFiles where
  header : Path
  implementation : Path
  deriving DecidableEq, Repr

/-- A usable configuration with what follows from it. -/
structure Bundler where
  config : Config
  catalog : Catalog
  enabled : Selection
  exemptions : Exemptions

namespace Bundler

/-- The bundler of a configuration, or the first reason why the configuration is not usable. The
patterns of targets that may be expanded again are left to an engine. -/
def ofConfig [PatternEngine] (config : Config) : Except Error Bundler := do
  let (catalog, enabled) ← config.features
  let exemptions ← Exemptions.ofTexts config.exemptPatterns
  return ⟨config, catalog, enabled, exemptions⟩

/-- Whether the lines are filtered: when some feature is off, or when their origin is to be
shown. -/
def isFiltering (bundler : Bundler) : Bool :=
  bundler.config.debugSources || !bundler.enabled.isComplete bundler.catalog

/-- The filter for the wanted features. -/
def filter (bundler : Bundler) : Filter :=
  ⟨bundler.config.vocabulary, bundler.catalog, bundler.enabled, bundler.config.toggleFile⟩

/-- The way in which the lines of files are taken. -/
def source (bundler : Bundler) : LineSource :=
  if bundler.isFiltering then .filtered bundler.filter else .verbatim

/-- What the inclusion passes over a tree need to know. -/
def inclusion (bundler : Bundler) (tree : FileTree) : Inclusion where
  tree := tree
  roots := bundler.config.searchRoots
  projectDir := bundler.config.projectDir
  headerEntry := bundler.config.headerEntry
  implementationEntry := bundler.config.implementationEntry
  vocabulary := bundler.config.vocabulary
  exemptions := bundler.exemptions
  source := bundler.source

/-- The pass over an entry. -/
def assemble (bundler : Bundler) (tree : FileTree) (entry : Text) (published : List Text) :
    Except Error Pass :=
  match (bundler.inclusion tree).includeEntry entry (.start published) with
  | (.error e, _) => .error e
  | (.ok _, pass) => .ok pass

/-- The first line of a file. -/
def stamp (timestamp : Text) : Text :=
  "/* auto-generated on ".toList ++ timestamp ++ ". Do not edit! */".toList

/-- The text of a file: its first line and the lines of a pass. -/
def render (timestamp : Text) (pass : Pass) : Text :=
  Text.unlines (stamp timestamp :: pass.output)

/-- The bundle of a tree. -/
def bundle (bundler : Bundler) (tree : FileTree) (timestamp : Text) : Except Error Bundle := do
  let header ← bundler.assemble tree bundler.config.headerEntry []
  let implementation ← bundler.assemble tree bundler.config.implementationEntry header.seen
  return ⟨render timestamp header, render timestamp implementation⟩

/-- The name of the file that an entry is written to. -/
def outputName (entry : Text) : Text := (Path.fileName ⟨entry⟩).getD entry

/-- Where the files are written. -/
def outputFiles (bundler : Bundler) : BundleFiles :=
  ⟨bundler.config.outputRoot.join ⟨outputName bundler.config.headerEntry⟩,
    bundler.config.outputRoot.join ⟨outputName bundler.config.implementationEntry⟩⟩

/-- Writes a bundle. The tree is the one that is left, also when writing failed halfway. -/
def write (bundler : Bundler) (tree : FileTree) (bundle : Bundle) :
    FileTree × Except Error BundleFiles :=
  let files := bundler.outputFiles
  match tree.makeDirectories bundler.config.outputRoot with
  | (tree, .error fault) => (tree, .error (.writing fault))
  | (tree, .ok _) =>
    match tree.write files.header bundle.header with
    | .error fault => (tree, .error (.writing fault))
    | .ok tree =>
      match tree.write files.implementation bundle.implementation with
      | .error fault => (tree, .error (.writing fault))
      | .ok tree => (tree, .ok files)

/-- Bundles a tree and writes the bundle. -/
def run (bundler : Bundler) (tree : FileTree) (timestamp : Text) :
    FileTree × Except Error BundleFiles :=
  match bundler.bundle tree timestamp with
  | .error e => (tree, .error e)
  | .ok bundle => bundler.write tree bundle

end Bundler

end Amalgamation

import Amalgamation.Bundle
import Amalgamation.Proofs.Feature.Names
import Amalgamation.Proofs.Inclusion.Sources

/-!
# Bundles that show where their lines come from

A bundle of all features can be made with or without the places of its lines. With places the lines
of each file go through the filter, without them they are taken as they are. The filter adds places,
and it drops the lines of feature blocks and some empty lines; nothing else differs between the two
bundles (`Bundler.sameArtifacts_of_debugSources`). In particular both expand, skip and leave out the
same includes.

One thing has to be asked of the tree: that the toggle file defines no feature macro that is not
declared (`Bundler.TogglesDeclared`). The filter would switch it off. Nothing is asked of the targets
that may be expanded again, nor of the engine that reads their patterns.
-/

set_option autoImplicit false

namespace Amalgamation

namespace Bundler

variable {bundler : Bundler} {tree : FileTree} {entry : Text} {published : List Text}
  {pass pass' : Pass}

/-- The bundler that shows the places of lines, or does not. -/
def showing (bundler : Bundler) (shown : Bool) : Bundler :=
  { bundler with config := { bundler.config with debugSources := shown } }

/-! ## One artifact -/

/-- The lines that are supplied for a file, with labels. -/
def labelledLines (bundler : Bundler) (tree : FileTree) (path : Path) :
    Except Error (List SuppliedLine) := do
  let lines ← LineSource.fileLines tree path
  if bundler.isFiltering then
    bundler.filter.labelledLines (bundler.config.projectDir.displayed path) lines
  else
    .ok (bundler.config.vocabulary.labelled 0 lines)

/-- Without the labels these are the lines of the source. -/
theorem texts_labelledLines (bundler : Bundler) (tree : FileTree) (path : Path) :
    (bundler.labelledLines tree path).map (List.map SuppliedLine.text) =
      bundler.source.lines tree path (bundler.config.projectDir.displayed path) := by
  unfold labelledLines source
  split
  · next filtering =>
    show _ = LineSource.fileLines tree path >>= _
    cases LineSource.fileLines tree path with
    | error e => rfl
    | ok lines => exact bundler.filter.texts_labelledLines _ lines
  · show _ = LineSource.fileLines tree path
    cases LineSource.fileLines tree path with
    | error e => rfl
    | ok lines => exact congrArg Except.ok (Vocabulary.texts_labelled _ 0 lines)

/-- The supply of the labelled lines. -/
def labelledSupply (bundler : Bundler) (tree : FileTree) :
    (bundler.inclusion tree).Supply SuppliedLine :=
  (bundler.inclusion tree).labelledBy (bundler.labelledLines tree)
    (bundler.texts_labelledLines tree)

/-- The artifact of an entry, line by line. -/
def artifact (bundler : Bundler) (tree : FileTree) (entry : Text) (published : List Text) :
    Except Error Artifact :=
  ((bundler.labelledSupply tree).flattenEntry entry (.start published)).map
    fun (pieces, _) => .write bundler.config.vocabulary none pieces

/-- Two bundlers make the same artifact but for lines that tell places, lines of feature blocks and
empty lines. -/
structure SameArtifact (plain debug : Bundler) (tree : FileTree) (entry : Text)
    (published : List Text) (pass pass' : Pass) : Prop where
  seen : pass.seen = pass'.seen
  stats : pass.stats = pass'.stats
  lines : ∃ artifact artifact',
    plain.artifact tree entry published = .ok artifact ∧ artifact.lines = pass.output ∧
    debug.artifact tree entry published = .ok artifact' ∧ artifact'.lines = pass'.output ∧
    artifact.marks = artifact'.marks ∧ artifact.common = artifact'.common

/-- What is assembled is written for the pieces of the entry. -/
theorem pieces_of_assemble (done : bundler.assemble tree entry published = .ok pass) :
    ∃ pieces,
      (bundler.labelledSupply tree).flattenEntry entry (.start published) =
        .ok (pieces, pass.ledger) ∧
      Artifact.lines (.write bundler.config.vocabulary none pieces) = pass.output := by
  have included := Inclusion.passed_includeEntry (bundler.labelledSupply tree) entry
    (.start published) rfl
  unfold assemble at done
  split at done
  · cases done
  · next ends =>
    obtain rfl := Except.ok.inj done
    rw [ends] at included
    obtain ⟨⟨pieces, ledger⟩, flattened, same⟩ := map_eq_ok.mp included.symm
    rw [← same]
    refine ⟨pieces, flattened, ?_⟩
    rw [Artifact.lines_write]
    rfl

/-- Every definition of a feature macro in a toggle file that includes can find names a declared
feature. -/
def TogglesDeclared (bundler : Bundler) (tree : FileTree) : Prop :=
  ∀ target path text, (bundler.inclusion tree).resolve target = some path →
    tree.read path = .ok text →
    bundler.filter.isToggleFile ((bundler.inclusion tree).shownAs path) →
    ∀ line ∈ Text.trimmedLines text, ∀ name value,
      Directive.classify bundler.config.vocabulary line = .toggle name value →
        bundler.catalog.declares name

/-- The filter supplies the lines of each file that are supplied without it, when every feature is
on and the toggle file defines declared features. -/
theorem suppliesAlike_showing (complete : bundler.enabled.isComplete bundler.catalog)
    (declared : bundler.TogglesDeclared tree) :
    ((bundler.showing false).inclusion tree).SuppliesAlike
      ((bundler.showing false).labelledLines tree)
      ((bundler.showing true).labelledLines tree) := by
  intro target path lines lines' resolved supplied supplied'
  obtain ⟨read, opened, unfiltered⟩ := bind_eq_ok.mp supplied
  obtain ⟨read', opened', filters⟩ := bind_eq_ok.mp supplied'
  obtain rfl := Except.ok.inj (opened.symm.trans opened')
  have verbatim : (bundler.showing false).isFiltering = false := by
    show (false || !bundler.enabled.isComplete bundler.catalog) = false
    rw [complete]
    rfl
  rw [verbatim] at unfiltered
  obtain rfl := Except.ok.inj unfiltered
  refine Filter.differBy_labelledLines complete ?_ filters
  intro inToggleFile line member name value toggles
  unfold LineSource.fileLines at opened
  split at opened
  · next text found =>
    obtain rfl := Except.ok.inj opened
    exact declared target path text resolved found inToggleFile line member name value toggles
  · cases opened

/-- The artifacts of an entry are the same if every feature is on and the toggle file defines
declared features. -/
theorem sameArtifact_showing (named : bundler.config.selectorMacro ≠ [])
    (complete : bundler.enabled.isComplete bundler.catalog)
    (declared : bundler.TogglesDeclared tree)
    (done : (bundler.showing false).assemble tree entry published = .ok pass)
    (done' : (bundler.showing true).assemble tree entry published = .ok pass') :
    (bundler.showing false).SameArtifact (bundler.showing true) tree entry published
      pass pass' := by
  obtain ⟨pieces, flattened, written⟩ := pieces_of_assemble done
  obtain ⟨pieces', flattened', written'⟩ := pieces_of_assemble done'
  have agree : Inclusion.Agree bundler.config.vocabulary
      (((bundler.showing false).labelledSupply tree).flattenEntry entry (.start published))
      (((bundler.showing true).labelledSupply tree).flattenEntry entry (.start published)) :=
    Inclusion.agree_flattenEntry (suppliesAlike_showing complete declared) entry
      (.start published)
  obtain ⟨ledgers, differ⟩ := agree _ _ _ _ flattened flattened'
  obtain ⟨seen, stats⟩ := Ledger.mk.inj ledgers
  refine ⟨seen, stats, _, _, ?_, written, ?_, written', ?_, ?_⟩
  · rw [artifact, flattened]
    rfl
  · rw [artifact, flattened']
    rfl
  · exact Artifact.marks_eq differ
  · exact Artifact.common_eq named differ

/-! ## Bundles -/

/-- Two bundles of a tree are the same but for places, lines of feature blocks and empty lines. Each
is written from its two passes, of which the second starts with what the first has seen. -/
def SameArtifacts (plain debug : Bundler) (tree : FileTree) (timestamp : Text)
    (bundle bundle' : Bundle) : Prop :=
  ∃ header implementation header' implementation',
    plain.assemble tree plain.config.headerEntry [] = .ok header ∧
    plain.assemble tree plain.config.implementationEntry header.seen = .ok implementation ∧
    bundle = ⟨render timestamp header, render timestamp implementation⟩ ∧
    debug.assemble tree plain.config.headerEntry [] = .ok header' ∧
    debug.assemble tree plain.config.implementationEntry header'.seen = .ok implementation' ∧
    bundle' = ⟨render timestamp header', render timestamp implementation'⟩ ∧
    plain.SameArtifact debug tree plain.config.headerEntry [] header header' ∧
    plain.SameArtifact debug tree plain.config.implementationEntry header.seen implementation
      implementation'

/-- **The bundles of every bundler that switches every feature on**, whichever targets it expands
again and again. -/
theorem sameArtifacts_showing {timestamp : Text} {bundle bundle' : Bundle}
    (named : bundler.config.selectorMacro ≠ [])
    (complete : bundler.enabled.isComplete bundler.catalog)
    (declared : bundler.TogglesDeclared tree)
    (done : (bundler.showing false).bundle tree timestamp = .ok bundle)
    (done' : (bundler.showing true).bundle tree timestamp = .ok bundle') :
    (bundler.showing false).SameArtifacts (bundler.showing true) tree timestamp
      bundle bundle' := by
  obtain ⟨header, assembled, rest⟩ := bind_eq_ok.mp done
  obtain ⟨implementation, assembled', written⟩ := bind_eq_ok.mp rest
  obtain ⟨header', filtered, rest'⟩ := bind_eq_ok.mp done'
  obtain ⟨implementation', filtered', written'⟩ := bind_eq_ok.mp rest'
  have first := sameArtifact_showing named complete declared assembled filtered
  -- The second pass of either bundle starts with what its first pass has seen.
  have second := sameArtifact_showing named complete declared assembled'
    (first.seen ▸ filtered')
  exact ⟨header, implementation, header', implementation', assembled, assembled',
    (pure_eq_ok.mp written).symm, filtered, filtered', (pure_eq_ok.mp written').symm, first, second⟩

section Config

variable [engine : PatternEngine] {config : Config}

/-- A bundler keeps its configuration, and the selector of a usable configuration has a name. -/
theorem config_of_ofConfig (usable : ofConfig config = .ok bundler) :
    bundler.config = config ∧ config.selectorMacro ≠ [] := by
  obtain ⟨⟨catalog, enabled⟩, features, usable⟩ := bind_eq_ok.mp usable
  obtain ⟨exemptions, -, same⟩ := bind_eq_ok.mp usable
  obtain rfl := pure_eq_ok.mp same
  obtain ⟨filled, -⟩ := Config.features_eq_ok features
  have required : ("selector_macro".toList, config.selectorMacro) ∈ config.requiredFields := by
    simp [Config.requiredFields]
  exact ⟨rfl, Config.ne_nil_of_requiredFields filled required⟩

/-- Whether places are shown plays no part in whether a configuration is usable. -/
theorem ofConfig_debugSources (config : Config) (shown : Bool) :
    ofConfig { config with debugSources := shown } =
      (ofConfig config).map fun bundler => bundler.showing shown := by
  unfold ofConfig
  have features : Config.features { config with debugSources := shown } = config.features := rfl
  rw [features]
  cases config.features with
  | error e => rfl
  | ok found =>
    show (Exemptions.ofTexts config.exemptPatterns >>= _) = Except.map _
      (Exemptions.ofTexts config.exemptPatterns >>= _)
    cases Exemptions.ofTexts config.exemptPatterns <;> rfl

/-- **A bundle of all features that shows where its lines come from is the plain one** but for the
places, the lines of feature blocks and empty lines. -/
theorem sameArtifacts_of_debugSources (config : Config) (plain debug : Bundler)
    (usable : ofConfig { config with debugSources := false } = .ok plain)
    (usable' : ofConfig { config with debugSources := true } = .ok debug)
    (complete : plain.enabled.isComplete plain.catalog) (tree : FileTree)
    (declared : plain.TogglesDeclared tree) (timestamp : Text) (bundle bundle' : Bundle)
    (done : plain.bundle tree timestamp = .ok bundle)
    (done' : debug.bundle tree timestamp = .ok bundle') :
    plain.SameArtifacts debug tree timestamp bundle bundle' := by
  rw [ofConfig_debugSources] at usable usable'
  obtain ⟨bundler, found, rfl⟩ := map_eq_ok.mp usable
  obtain ⟨same, found', rfl⟩ := map_eq_ok.mp usable'
  obtain rfl := Except.ok.inj (found.symm.trans found')
  obtain ⟨rfl, named⟩ := config_of_ofConfig found
  exact sameArtifacts_showing named complete declared done done'

end Config

end Bundler

/-! ## A feature block -/

/-- A tree with a toggle file, a feature block and an empty line. -/
def FileTree.featureBlock : FileTree where
  workingDirectory := []
  entries :=
    [(["include".toList], .directory),
      (["include".toList, "implementation.h".toList],
        .file (.text "#define FEATURE_A 1\n".toList)),
      (["include".toList, "lib.h".toList],
        .file (.text
          "#include \"implementation.h\"\n\n#if FEATURE_A\nint a;\n#endif // FEATURE_A\n".toList)),
      (["src".toList], .directory),
      (["src".toList, "lib.cpp".toList], .file (.text "#include \"lib.h\"\nint c;\n".toList))]

/-- A configuration with one feature. -/
def Config.featureBlock : Config :=
  { Config.standard with
    headerEntry := "lib.h".toList
    implementationEntry := "lib.cpp".toList
    featurePrefix := "FEATURE".toList
    selectorMacro := "SELECTOR".toList
    knownFeatures := [.named "FEATURE_A" "a"]
    exemptPatterns := [] }

namespace Bundler

/-- The bundler of that configuration. -/
def featureBlock : Bundler where
  config := .featureBlock
  catalog := ⟨Config.featureBlock.knownFeatures, by decide⟩
  enabled := .ofNames ["FEATURE_A".toList]
  exemptions := ⟨[]⟩

/-- Every toggle line of the tree names the feature. -/
theorem declares_featureBlock {path : Path} {text : Text}
    (read : FileTree.featureBlock.read path = .ok text) :
    ∀ line ∈ Text.trimmedLines text, ∀ name value,
      Directive.classify Config.featureBlock.vocabulary line = .toggle name value →
        featureBlock.catalog.declares name := by
  have known : ∀ line ∈ Text.trimmedLines text,
      Directive.classify Config.featureBlock.vocabulary line ∈
        [.toggle "FEATURE_A".toList ['1'], .inclusion "implementation.h".toList,
          .inclusion "lib.h".toList, .opening .ifTrue "FEATURE_A".toList,
          .closing (some "FEATURE_A".toList), .code] := by
    obtain ⟨location, listed⟩ := FileTree.mem_entries_of_read read
    simp only [FileTree.featureBlock, List.mem_cons, Prod.mk.injEq, FileNode.file.injEq,
      FileContent.text.injEq, reduceCtorEq, and_false, false_or, List.not_mem_nil,
      or_false] at listed
    rcases listed with ⟨-, rfl⟩ | ⟨-, rfl⟩ | ⟨-, rfl⟩ <;> decide +kernel
  intro line member name value toggles
  have here := known line member
  rw [toggles] at here
  obtain ⟨rfl, -⟩ : name = "FEATURE_A".toList ∧ value = ['1'] := by simpa using here
  rfl

/-- The two bundles of the tree are the same but for places, the feature block and the empty
line. -/
theorem sameArtifacts_featureBlock :
    ∃ header implementation header' implementation',
      (featureBlock.showing false).SameArtifact (featureBlock.showing true) .featureBlock
        "lib.h".toList [] header header' ∧
      (featureBlock.showing false).SameArtifact (featureBlock.showing true) .featureBlock
        "lib.cpp".toList header.seen implementation implementation' := by
  obtain ⟨header, implementation, header', implementation', -, -, -, -, -, -, first, second⟩ :=
    sameArtifacts_of_debugSources .featureBlock (featureBlock.showing false)
      (featureBlock.showing true) rfl rfl (by decide +kernel) .featureBlock
      (fun _ _ _ _ read _ => declares_featureBlock read) ['T']
      ⟨Text.unlines ["/* auto-generated on T. Do not edit! */".toList,
          "/* begin file include/lib.h */".toList,
          "/* begin file include/implementation.h */".toList, "#define FEATURE_A 1".toList,
          "/* end file include/implementation.h */".toList, [], "#if FEATURE_A".toList,
          "int a;".toList, "#endif // FEATURE_A".toList, "/* end file include/lib.h */".toList],
        Text.unlines ["/* auto-generated on T. Do not edit! */".toList,
          "/* begin file src/lib.cpp */".toList, "#include \"lib.h\"".toList, "int c;".toList,
          "/* end file src/lib.cpp */".toList]⟩
      ⟨Text.unlines ["/* auto-generated on T. Do not edit! */".toList,
          "/* begin file include/lib.h */".toList, "// include/lib.h:1".toList,
          "/* begin file include/implementation.h */".toList, "#define FEATURE_A 1".toList,
          "/* end file include/implementation.h */".toList, "// include/lib.h:2".toList, [],
          "// include/lib.h:4".toList, "int a;".toList, "/* end file include/lib.h */".toList],
        Text.unlines ["/* auto-generated on T. Do not edit! */".toList,
          "/* begin file src/lib.cpp */".toList, "// src/lib.cpp:1".toList,
          "#include \"lib.h\"".toList, "// src/lib.cpp:2".toList, "int c;".toList,
          "/* end file src/lib.cpp */".toList]⟩
      (by decide +kernel) (by decide +kernel)
  exact ⟨header, implementation, header', implementation', first, second⟩

end Bundler

end Amalgamation

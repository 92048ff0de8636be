import Amalgamation.Proofs.FileTree.Changes
import Amalgamation.Proofs.FileTree.Names
import Amalgamation.Proofs.Inclusion.Header

/-!
# Writing a bundle

A bundle is written in three steps: the output directory is created, the header is written, the
implementation is written. Each step can fail, and what the steps before it did is not undone
(`Bundler.write_eq_ok_iff`, `Bundler.write_eq_error`).

If no step fails, the implementation can be read from its file, and so can the header unless both
entries have the same name: then both are written to one file, and the header is lost
(`Bundler.same_place_iff`, `Bundler.read_written`). A configuration with two such entries is usable
(`Bundler.header_lost`).

If a step fails, the file of the implementation is what it was. So is every other file if the
header could not be written. But if it is the implementation that could not be written, the new
header stays (`Bundler.failure_leaves`, `Bundler.header_left_alone`).
-/

set_option autoImplicit false

namespace Amalgamation

namespace Bundler

variable {bundler : Bundler} {tree after : FileTree} {bundle : Bundle} {files : BundleFiles}
  {e : Error} {entry other : Text} {text : Text}

/-! ## The steps -/

/-- The tree with the output directory, or with what could be created of it. -/
def prepared (bundler : Bundler) (tree : FileTree) : FileTree :=
  (tree.makeDirectories bundler.config.outputRoot).1

/-- The path of the file that an entry is written to. -/
def outputPath (bundler : Bundler) (entry : Text) : Path :=
  bundler.config.outputRoot.join ⟨outputName entry⟩

/-- Work that ended with an outcome is what it left, with that outcome. -/
theorem eq_mk_of_snd {α β : Type} {work : α × β} {result : β} (outcome : work.2 = result) :
    work = (work.1, result) := Prod.ext rfl outcome

/-- **Writing succeeds** if every step does. -/
theorem write_eq_ok_iff : bundler.write tree bundle = (after, .ok files) ↔
    (tree.makeDirectories bundler.config.outputRoot).2 = .ok () ∧
      ∃ headed, (bundler.prepared tree).write bundler.outputFiles.header bundle.header =
          .ok headed ∧
        headed.write bundler.outputFiles.implementation bundle.implementation = .ok after ∧
        files = bundler.outputFiles := by
  unfold write prepared
  dsimp only
  obtain ⟨made, fault | ⟨⟩⟩ := tree.makeDirectories bundler.config.outputRoot
  · simp
  · dsimp only
    cases made.write bundler.outputFiles.header bundle.header with
    | error fault => simp
    | ok headed =>
      dsimp only
      cases wrote : headed.write bundler.outputFiles.implementation bundle.implementation with
      | error fault => simp [wrote]
      | ok last => simp [wrote, eq_comm]

/-- **Writing fails** at one of the steps: no file was written, or the header alone. -/
theorem write_eq_error (failed : bundler.write tree bundle = (after, .error e)) :
    ∃ fault, e = .writing fault ∧
      (after = bundler.prepared tree ∨
        (bundler.prepared tree).write bundler.outputFiles.header bundle.header = .ok after ∧
          after.write bundler.outputFiles.implementation bundle.implementation =
            .error fault) := by
  unfold write at failed
  unfold prepared
  dsimp only at failed
  split at failed
  · next made fault work =>
    obtain ⟨rfl, same⟩ := Prod.mk.inj failed
    exact ⟨fault, (Except.error.inj same).symm, .inl (by rw [work])⟩
  · next made work =>
    rw [work]
    split at failed
    · next fault wrote =>
      obtain ⟨rfl, same⟩ := Prod.mk.inj failed
      exact ⟨fault, (Except.error.inj same).symm, .inl rfl⟩
    · next headed wrote =>
      split at failed
      · next fault stuck =>
        obtain ⟨rfl, same⟩ := Prod.mk.inj failed
        exact ⟨fault, (Except.error.inj same).symm, .inr ⟨wrote, stuck⟩⟩
      · obtain ⟨-, absurd⟩ := Prod.mk.inj failed
        cases absurd

theorem keeps_prepared (bundler : Bundler) (tree : FileTree) :
    FileTree.Keeps [] tree (bundler.prepared tree) :=
  tree.keeps_makeDirectories bundler.config.outputRoot

/-! ## After all steps -/

/-- A file that could be written below the output directory has a name of its own. -/
theorem isPlain_outputName (grounded : tree.Grounded)
    (wrote : tree.write (bundler.outputPath entry) text = .ok after) :
    Path.isPlain ⟨outputName entry⟩ := by
  unfold outputPath at wrote
  cases named : Path.fileName ⟨entry⟩ with
  | some name =>
    rw [outputName, named]
    exact Path.isPlain_of_fileName named
  | none =>
    -- An entry without a file name is kept as it is, and leads to a directory.
    rw [outputName, named, Option.getD_none] at wrote
    obtain ⟨location, located, absent, -⟩ := FileTree.write_eq_ok_iff.mp wrote
    obtain ⟨front, name, -, ends, last, -⟩ := grounded.exists_name located absent
    obtain ⟨_, spelled⟩ := Path.segments_of_join ends
    rw [Path.fileName_of_segments spelled last] at named
    cases named

/-- Two entries that were written are written to one place exactly if they have the same name. -/
theorem same_place_iff {headed : FileTree} {first second : Text} (grounded : tree.Grounded)
    (wrote : tree.write (bundler.outputPath entry) first = .ok headed)
    (wrote' : headed.write (bundler.outputPath other) second = .ok after) :
    headed.lexicalLocation (bundler.outputPath entry) =
        headed.lexicalLocation (bundler.outputPath other) ↔
      outputName entry = outputName other := by
  have plain := isPlain_outputName grounded wrote
  have plain' := isPlain_outputName (grounded.write wrote) wrote'
  constructor
  · have apart : headed.Apart [bundler.config.outputRoot] := by
      intro one listed another listed' _
      rw [List.mem_singleton.mp listed, List.mem_singleton.mp listed']
    exact FileTree.eq_of_lexicalLocation_join apart (.head _) (.head _) plain plain'
  · intro same
    rw [outputPath, outputPath, same]

/-- **What is read after writing.** The implementation can be read from its file. So can the header
from its own, unless both are written to one place: then the implementation is read. In a tree
without gaps that is so exactly if both entries have the same name. -/
theorem read_written (done : bundler.write tree bundle = (after, .ok files)) :
    after.read files.implementation = .ok bundle.implementation ∧
      after.read files.header =
        .ok (if tree.lexicalLocation files.header = tree.lexicalLocation files.implementation
          then bundle.implementation else bundle.header) ∧
      (tree.Grounded →
        (tree.lexicalLocation files.header = tree.lexicalLocation files.implementation ↔
          outputName bundler.config.headerEntry =
            outputName bundler.config.implementationEntry)) := by
  obtain ⟨-, headed, first, second, rfl⟩ := write_eq_ok_iff.mp done
  have held := FileTree.read_of_write first
  have kept := FileTree.keeps_write second
  have places : headed.lexicalLocation = tree.lexicalLocation := by
    funext path
    rw [(FileTree.keeps_write first).lexicalLocation,
      (bundler.keeps_prepared tree).lexicalLocation]
  rw [← places]
  refine ⟨FileTree.read_of_write second, ?_, fun grounded => ?_⟩
  · split
    · next same =>
      rw [FileTree.read_eq_ok_iff] at held ⊢
      obtain ⟨location, located⟩ := FileTree.exists_locate_of_node held
      exact FileTree.node_of_write second located same
    · next differ => exact kept.read (by simpa using differ) held
  · have ground : (bundler.prepared tree).Grounded := grounded.makeDirectories _
    exact same_place_iff ground first second

/-- Entries with different names: both texts can be read. -/
theorem read_written_sharedFile :
    ∃ after files, sharedFile.write .headerFirst ⟨"int api;\n".toList, "int impl;\n".toList⟩ =
        (after, .ok files) ∧
      FileTree.headerFirst.Grounded ∧
      after.read files.implementation = .ok "int impl;\n".toList ∧
      after.read files.header = .ok "int api;\n".toList := by
  have outcome : (sharedFile.write .headerFirst ⟨"int api;\n".toList, "int impl;\n".toList⟩).2 =
      .ok ⟨⟨"./singleheader/lib.h".toList⟩, ⟨"./singleheader/lib.cpp".toList⟩⟩ := by
    decide +kernel
  have done := eq_mk_of_snd outcome
  have grounded : FileTree.headerFirst.Grounded := by decide +kernel
  have differ : outputName sharedFile.config.headerEntry ≠
      outputName sharedFile.config.implementationEntry := by decide +kernel
  obtain ⟨implementation, header, same_iff⟩ := read_written done
  rw [if_neg (mt (same_iff grounded).mp differ)] at header
  exact ⟨_, _, done, grounded, implementation, header⟩

/-- A bundler with entries that have the same name in different directories. -/
def sameName : Bundler :=
  { sharedFile with
    config := { Config.sharedFile with
      headerEntry := "a/lib.h".toList
      implementationEntry := "b/lib.h".toList } }

/-- **A header that is lost.** The entries of a usable configuration have the same name, both
artifacts are written, and where the header was written the implementation is read. -/
theorem header_lost :
    ofConfig sameName.config = .ok sameName ∧
      ∃ after files, sameName.write (.bare []) ⟨"int api;\n".toList, "int impl;\n".toList⟩ =
          (after, .ok files) ∧
        after.read files.header = .ok "int impl;\n".toList := by
  have outcome : (sameName.write (.bare []) ⟨"int api;\n".toList, "int impl;\n".toList⟩).2 =
      .ok ⟨⟨"./singleheader/lib.h".toList⟩, ⟨"./singleheader/lib.h".toList⟩⟩ := by decide +kernel
  exact ⟨rfl, _, _, eq_mk_of_snd outcome, by decide +kernel⟩

/-! ## After a failure -/

/-- The file of the implementation is not touched before it can be written. -/
theorem implementation_kept
    (failed : bundler.write tree bundle = (after, .error e)) {node : FileNode}
    (held : tree.node bundler.outputFiles.implementation = some node) :
    after.node bundler.outputFiles.implementation = some node := by
  have ready := (bundler.keeps_prepared tree).node (by simp) held
  obtain ⟨fault, -, rfl | ⟨first, stuck⟩⟩ := write_eq_error failed
  · exact ready
  · have kept := FileTree.keeps_write first
    by_cases same : (bundler.prepared tree).lexicalLocation bundler.outputFiles.implementation =
        (bundler.prepared tree).lexicalLocation bundler.outputFiles.header
    · obtain ⟨location, located⟩ := FileTree.exists_locate_of_node ready
      have there := FileTree.node_of_write first located same
      obtain ⟨_, done⟩ := FileTree.write_of_node there bundle.implementation
      cases stuck.symm.trans done
    · exact kept.node (by simpa using same) ready

/-- What is left of a tree when writing a bundle to it has failed with an error. -/
structure Leaves (bundler : Bundler) (tree : FileTree) (bundle : Bundle) (after : FileTree)
    (e : Error) : Prop where
  /-- The path of the implementation leads to what it led to. -/
  implementation : ∀ node, tree.node bundler.outputFiles.implementation = some node →
    after.node bundler.outputFiles.implementation = some node
  /-- So does the path of the header, unless it was written before the implementation could not
  be. -/
  header : (∀ node, tree.node bundler.outputFiles.header = some node →
      after.node bundler.outputFiles.header = some node) ∨
    after.read bundler.outputFiles.header = .ok bundle.header ∧
      ∃ fault, e = .writing fault ∧
        after.write bundler.outputFiles.implementation bundle.implementation = .error fault
  /-- So does every path that leads elsewhere than the one of the header. -/
  others : ∀ path node, tree.node path = some node →
    tree.lexicalLocation path ≠ tree.lexicalLocation bundler.outputFiles.header →
      after.node path = some node

theorem leaves_of_write_eq_error (failed : bundler.write tree bundle = (after, .error e)) :
    bundler.Leaves tree bundle after e := by
  have ready := bundler.keeps_prepared tree
  refine ⟨fun node held => implementation_kept failed held, ?_, ?_⟩
  · obtain ⟨fault, same, rfl | ⟨first, stuck⟩⟩ := write_eq_error failed
    · exact .inl fun node held => ready.node (by simp) held
    · exact .inr ⟨FileTree.read_of_write first, fault, same, stuck⟩
  · intro path node held elsewhere
    have there := ready.node (by simp) held
    obtain ⟨fault, -, rfl | ⟨first, -⟩⟩ := write_eq_error failed
    · exact there
    · refine (FileTree.keeps_write first).node ?_ there
      rw [ready.lexicalLocation, ready.lexicalLocation]
      simpa using elsewhere

/-- **What a failure leaves.** If writing a bundle fails, the implementation is not touched, nor is
any other file but the header; and the header is touched only if it could be written and the
implementation could not. If no bundle comes about, nothing is written. -/
theorem failure_leaves (bundler : Bundler) (tree : FileTree) :
    (∀ bundle after e, bundler.write tree bundle = (after, .error e) →
      bundler.Leaves tree bundle after e) ∧
    ∀ timestamp after e, bundler.run tree timestamp = (after, .error e) →
      bundler.bundle tree timestamp = .error e ∧ after = tree ∨
        ∃ bundle, bundler.bundle tree timestamp = .ok bundle ∧
          bundler.Leaves tree bundle after e := by
  refine ⟨fun bundle after e => leaves_of_write_eq_error, fun timestamp after e failed => ?_⟩
  unfold run at failed
  split at failed
  · next cause none =>
    obtain ⟨rfl, same⟩ := Prod.mk.inj failed
    obtain rfl := Except.error.inj same
    exact .inl ⟨none, rfl⟩
  · next bundle made => exact .inr ⟨bundle, made, leaves_of_write_eq_error failed⟩

/-- A tree in which a directory stands where the implementation is to be written, beside an old
header. -/
def directoryInPlace : FileTree :=
  { FileTree.headerFirst with
    entries := FileTree.headerFirst.entries ++
      [(["singleheader".toList], .directory),
        (["singleheader".toList, "lib.h".toList], .file (.text "old\n".toList)),
        (["singleheader".toList, "lib.cpp".toList], .directory)] }

/-- After a run that could not write the implementation its path leads to the directory that was
there. -/
theorem failure_leaves_directoryInPlace :
    ∃ after, sharedFile.run directoryInPlace ['T'] = (after, .error (.writing .isADirectory)) ∧
      after.node sharedFile.outputFiles.implementation = some .directory := by
  have outcome : (sharedFile.run directoryInPlace ['T']).2 = .error (.writing .isADirectory) := by
    decide +kernel
  have held : directoryInPlace.node sharedFile.outputFiles.implementation = some .directory := by
    decide +kernel
  obtain ⟨after, failed⟩ : ∃ after, sharedFile.run directoryInPlace ['T'] =
      (after, .error (.writing .isADirectory)) := ⟨_, eq_mk_of_snd outcome⟩
  refine ⟨after, failed, ?_⟩
  rcases (failure_leaves sharedFile directoryInPlace).2 _ _ _ failed with
    ⟨-, rfl⟩ | ⟨bundle, -, left⟩
  · exact held
  · exact left.implementation _ held

/-- **A new header beside no implementation.** A run fails because there is a directory where the
implementation is to be written; by then the old header has been replaced. -/
theorem header_left_alone :
    ofConfig .sharedFile = .ok sharedFile ∧
      directoryInPlace.read sharedFile.outputFiles.header = .ok "old\n".toList ∧
      ∃ after, sharedFile.run directoryInPlace ['T'] = (after, .error (.writing .isADirectory)) ∧
        after.read sharedFile.outputFiles.implementation = .error .isADirectory ∧
        after.read sharedFile.outputFiles.header = .ok (Text.unlines
          ["/* auto-generated on T. Do not edit! */".toList,
            "/* begin file include/lib.h */".toList, "/* begin file include/common.h */".toList,
            "int c;".toList, "/* end file include/common.h */".toList,
            "/* end file include/lib.h */".toList]) := by
  have outcome : (sharedFile.run directoryInPlace ['T']).2 = .error (.writing .isADirectory) := by
    decide +kernel
  refine ⟨rfl, ?_, _, eq_mk_of_snd outcome, ?_, ?_⟩
  · decide +kernel
  · decide +kernel
  · decide +kernel

end Bundler

end Amalgamation

import Amalgamation.Check.Discovery
import Amalgamation.Proofs.FileTree.WellFormed
import Amalgamation.Proofs.SortedList

/-!
# Which files are found

A walk along a tree reaches the files below a place that are not in a directory that is left out
(`Discovery.Reaches`), and it reaches no others: what it reaches in a directory is what it reaches
under the names in it that it enters (`Discovery.reaches_iff`), and no location is longer than the
walk is deep (`Discovery.mem_walk_iff`). Every directory that is not left out has to be listed for
that (`Discovery.Visits`), which is so if names and paths are short (`Discovery.visits_of_short`).

The files that are reached and whose extension is asked for are the source files
(`Discovery.IsSource`). Put together and sorted, the files of all starting paths come in the order
of paths and each of them once (`Discovery.sources_exact`). They are told apart by the order,
because all of them lead along names from one path.
-/

set_option autoImplicit false

namespace Amalgamation

namespace Discovery

variable {tree : FileTree} {extensions : List Text} {root start path : Path} {location : Location}
  {name : Text} {names : List Text}

/-! ## Paths along names -/

/-- The path that leads from a starting path along some names. -/
def extend (start : Path) (names : List Text) : Path :=
  names.foldl (fun path name => path.join ⟨name⟩) start

theorem extend_concat (start : Path) (names : List Text) (name : Text) :
    extend start (names ++ [name]) = (extend start names).join ⟨name⟩ := by
  rw [extend, List.foldl_append]
  rfl

theorem components_extend (named : ∀ name ∈ names, Path.isName name) :
    (extend start names).components = start.components ++ names.map .name := by
  unfold extend
  induction names generalizing start with
  | nil => exact (List.append_nil _).symm
  | cons name names ih =>
    obtain ⟨here, named⟩ := List.forall_mem_cons.mp named
    rw [List.foldl_cons, ih named, Path.components_join here, List.append_assoc]
    rfl

/-- A path that leads along names ends in the last of them. -/
theorem fileName_extend (named : ∀ part ∈ names ++ [name], Path.isName part) :
    (extend start (names ++ [name])).fileName = some name := by
  rw [Path.fileName, components_extend named, List.map_append, ← List.append_assoc,
    List.map_singleton, List.getLast?_concat]

theorem hasExtension_extend (named : ∀ part ∈ names ++ [name], Path.isName part) :
    hasExtension extensions (extend start (names ++ [name])) ↔
      ∃ suffix ∈ extensions, Path.extensionOf name = some suffix := by
  rw [hasExtension, Path.extension, fileName_extend named, Option.bind_some]
  cases Path.extensionOf name <;> simp

/-! ## Walks -/

/-- At a path, a file stands at or below a location, and none of the directories between them is
left out. The starting path leads to the location. -/
def Reaches (tree : FileTree) (start : Path) (location : Location) (path : Path) : Prop :=
  ∃ names content, path = extend start names ∧
    tree.nodeAt (location ++ names) = some (.file content) ∧
    ∀ directory ∈ names.dropLast, isSkipped directory = false

/-- The starting path leads to the directory at the location, so that it can be listed, and so does
the path to every directory below it that is not left out. -/
def Visits (tree : FileTree) (start : Path) (location : Location) : Prop :=
  ∀ directories, tree.nodeAt (location ++ directories) = some .directory →
    (∀ directory ∈ directories, isSkipped directory = false) →
      tree.locate (extend start directories) = .ok (location ++ directories)

/-- A walk enters what stands under a name: a file, or a directory that is not left out. -/
def Enters (tree : FileTree) (location : Location) (name : Text) : Prop :=
  (tree.nodeAt (location ++ [name])).isSome ∧
    (tree.nodeAt (location ++ [name]) = some .directory → isSkipped name = false)

/-- **Every directory that is not left out is visited** if no name in the tree and no path to such a
directory is too long. -/
theorem visits_of_short (wellFormed : tree.WellFormed) (located : tree.locate start = .ok location)
    (short : ∀ entry ∈ tree.entries, ∀ name ∈ entry.1,
      (String.ofList name).utf8ByteSize ≤ FileTree.nameLimit)
    (faultless : ∀ directories, tree.nodeAt (location ++ directories) = some .directory →
      (∀ directory ∈ directories, isSkipped directory = false) →
        FileTree.pathFault? (extend start directories) = none) :
    Visits tree start location := by
  intro directories there kept
  induction directories using List.reverseRecOn with
  | nil => rwa [List.append_nil]
  | append_singleton above name ih =>
    have inside := faultless _ there kept
    rw [← List.append_assoc] at there
    have parent := wellFormed.nodeAt_of_append (List.cons_ne_nil name []) there
    have leads := ih parent fun directory member => kept directory (List.mem_append_left _ member)
    have listed := wellFormed.mem_entries_iff.mpr ⟨by simp, there⟩
    have member : name ∈ location ++ above ++ [name] := by simp
    rw [extend_concat] at inside ⊢
    rw [← List.append_assoc]
    exact FileTree.locate_name leads parent (wellFormed.named _ listed name member)
      (short _ listed name member) inside

theorem Visits.below (wellFormed : tree.WellFormed) (visited : Visits tree start location)
    (enters : Enters tree location name) :
    Visits tree (start.join ⟨name⟩) (location ++ [name]) := by
  intro directories there kept
  have entered : tree.nodeAt (location ++ [name]) = some .directory := by
    by_cases here : directories = []
    · rwa [here, List.append_nil] at there
    · exact wellFormed.nodeAt_of_append here there
  rw [List.append_assoc] at there ⊢
  exact visited (name :: directories) there
    (List.forall_mem_cons.mpr ⟨enters.2 entered, kept⟩)

theorem forall_mem_dropLast_cons {holds : Text → Prop} :
    (∀ directory ∈ (name :: names).dropLast, holds directory) ↔
      (names ≠ [] → holds name) ∧ ∀ directory ∈ names.dropLast, holds directory := by
  cases names <;> simp

/-- **What is reached from a directory** is what is reached under the names in it that a walk
enters. -/
theorem reaches_iff (wellFormed : tree.WellFormed)
    (there : tree.nodeAt location = some .directory) :
    Reaches tree start location path ↔
      ∃ name, Enters tree location name ∧
        Reaches tree (start.join ⟨name⟩) (location ++ [name]) path := by
  constructor
  · rintro ⟨names, content, rfl, file, kept⟩
    cases names with
    | nil =>
      rw [List.append_nil, there] at file
      cases file
    | cons name names =>
      rw [List.append_cons] at file
      obtain ⟨first, kept⟩ := forall_mem_dropLast_cons.mp kept
      refine ⟨name, ?_, names, content, rfl, file, kept⟩
      -- Either the name is that of the file, or it is that of a directory on the way to it.
      by_cases last : names = []
      · rw [last, List.append_nil] at file
        exact ⟨by rw [file]; rfl, fun entered => nomatch file.symm.trans entered⟩
      · have inner := wellFormed.nodeAt_of_append last file
        exact ⟨by rw [inner]; rfl, fun _ => first last⟩
  · rintro ⟨name, enters, names, content, rfl, file, kept⟩
    refine ⟨name :: names, content, rfl, by rwa [List.append_cons], ?_⟩
    refine forall_mem_dropLast_cons.mpr ⟨fun inner => ?_, kept⟩
    exact enters.2 (wellFormed.nodeAt_of_append inner file)

/-- From anything that is no directory only a file is reached, and that is where the walk starts. -/
theorem reaches_iff_of_ne_directory (wellFormed : tree.WellFormed)
    (there : tree.nodeAt location ≠ some .directory) :
    Reaches tree start location path ↔
      path = start ∧ ∃ content, tree.nodeAt location = some (.file content) := by
  constructor
  · rintro ⟨names, content, rfl, file, -⟩
    have here : names = [] := by
      by_contra inner
      exact there (wellFormed.nodeAt_of_append inner file)
    subst here
    rw [List.append_nil] at file
    exact ⟨rfl, content, file⟩
  · rintro ⟨rfl, content, file⟩
    exact ⟨[], content, rfl, by rwa [List.append_nil], nofun⟩

/-- **A walk reaches the files** that are not in a directory that is left out, and no others. -/
theorem mem_walk_iff (wellFormed : tree.WellFormed) {depth : Nat}
    (visited : Visits tree start location) (deep : tree.height < location.length + depth) :
    path ∈ walk tree depth start location ↔ Reaches tree start location path := by
  induction depth generalizing start location with
  | zero =>
    refine iff_of_false List.not_mem_nil ?_
    rintro ⟨names, content, -, file, -⟩
    have low := FileTree.length_le_height file
    rw [List.length_append] at low
    omega
  | succ depth ih =>
    cases here : tree.nodeAt location with
    | none => simp [walk, here, reaches_iff_of_ne_directory wellFormed]
    | some node =>
      cases node with
      | file content => simp [walk, here, reaches_iff_of_ne_directory wellFormed]
      | directory =>
        have located : tree.locate start = .ok location := by
          have leads := visited [] (by rwa [List.append_nil]) nofun
          rwa [List.append_nil] at leads
        have inside : ∀ name, Enters tree location name →
            (path ∈ walk tree depth (start.join ⟨name⟩) (location ++ [name]) ↔
              Reaches tree (start.join ⟨name⟩) (location ++ [name]) path) := by
          intro name enters
          refine ih (visited.below wellFormed enters) ?_
          rw [List.length_append, List.length_singleton]
          omega
        rw [walk, here, reaches_iff wellFormed here]
        simp only [List.mem_flatMap, wellFormed.mem_namesIn_iff located]
        constructor
        · rintro ⟨name, stands, found⟩
          split at found
          · cases found
          · next kept =>
            have enters : Enters tree location name :=
              ⟨stands, fun entered => by simpa [entered] using kept⟩
            exact ⟨name, enters, (inside name enters).mp found⟩
        · rintro ⟨name, enters, reached⟩
          refine ⟨name, enters.1, ?_⟩
          rw [if_neg (by simpa using enters.2)]
          exact (inside name enters).mpr reached

/-! ## Source files -/

/-- At a path, a file with one of the extensions stands below a starting path, and none of the
directories between them is left out. The starting path leads to the location. -/
def IsSource (tree : FileTree) (extensions : List Text) (start : Path) (location : Location)
    (path : Path) : Prop :=
  ∃ directories name content, path = extend start (directories ++ [name]) ∧
    tree.nodeAt (location ++ (directories ++ [name])) = some (.file content) ∧
    (∀ directory ∈ directories, isSkipped directory = false) ∧
    ∃ suffix ∈ extensions, Path.extensionOf name = some suffix

/-- **A search finds the source files** below its starting path. -/
theorem mem_searchFrom_iff (wellFormed : tree.WellFormed)
    (located : tree.locate start = .ok location) (there : tree.nodeAt location = some .directory)
    (visited : Visits tree start location) :
    path ∈ searchFrom tree extensions start ↔ IsSource tree extensions start location path := by
  have deep : tree.height < location.length + (tree.height + 1) := by omega
  rw [searchFrom, located]
  simp only [List.mem_filter, mem_walk_iff wellFormed visited deep]
  constructor
  · rintro ⟨⟨names, content, rfl, file, kept⟩, extended⟩
    -- The starting path leads to a directory, so the file is below it.
    rcases List.eq_nil_or_concat' names with rfl | ⟨directories, name, rfl⟩
    · rw [List.append_nil, there] at file
      cases file
    · rw [List.dropLast_concat] at kept
      exact ⟨directories, name, content, rfl, file, kept,
        (hasExtension_extend (wellFormed.isName_of_append file)).mp extended⟩
  · rintro ⟨directories, name, content, rfl, file, kept, extended⟩
    have named := wellFormed.isName_of_append file
    refine ⟨⟨_, content, rfl, file, ?_⟩, (hasExtension_extend named).mpr extended⟩
    rwa [List.dropLast_concat]

/-- **Source files below one path are told apart by the order of paths.** -/
theorem eq_of_isSource {other : Path} (wellFormed : tree.WellFormed)
    (first : IsSource tree extensions start location path)
    (second : IsSource tree extensions start location other) (notBelow : path.isBelow other = false)
    (notAbove : other.isBelow path = false) : path = other := by
  obtain ⟨_, _, _, rfl, file, -⟩ := first
  obtain ⟨_, _, _, rfl, file', -⟩ := second
  have same := Path.components_eq_of_not_isBelow notBelow notAbove
  rw [components_extend (wellFormed.isName_of_append file),
    components_extend (wellFormed.isName_of_append file')] at same
  have injective : Function.Injective Path.Component.name := fun _ _ => Path.Component.name.inj
  rw [List.map_injective_iff.mpr injective (List.append_cancel_left same)]

/-! ## Limited searches -/

/-- The directories that a limited search starts from. -/
def tops : List Text := ["src".toList, "include".toList]

section Top

variable {top : Text}

theorem kept_of_mem_tops (listed : top ∈ tops) : isSkipped top = false := by
  revert top
  decide

theorem Visits.below_top (wellFormed : tree.WellFormed) (visited : Visits tree root location)
    (listed : top ∈ tops) (there : tree.nodeAt (location ++ [top]) = some .directory) :
    Visits tree (root.join ⟨top⟩) (location ++ [top]) :=
  visited.below wellFormed ⟨by rw [there]; rfl, fun _ => kept_of_mem_tops listed⟩

theorem IsSource.of_top (listed : top ∈ tops)
    (source : IsSource tree extensions (root.join ⟨top⟩) (location ++ [top]) path) :
    IsSource tree extensions root location path := by
  obtain ⟨directories, name, content, rfl, file, kept, extended⟩ := source
  rw [List.append_assoc] at file
  exact ⟨top :: directories, name, content, rfl, file,
    List.forall_mem_cons.mpr ⟨kept_of_mem_tops listed, kept⟩, extended⟩

/-- A directory that a limited search starts from is where its name is in the directory above. -/
theorem locate_top (located : tree.locate root = .ok location)
    (there : tree.nodeAt location = some .directory) (listed : top ∈ tops)
    (faultless : FileTree.pathFault? (root.join ⟨top⟩) = none) :
    tree.locate (root.join ⟨top⟩) = .ok (location ++ [top]) := by
  have facts : ∀ top ∈ tops, Path.isName top ∧
      (String.ofList top).utf8ByteSize ≤ FileTree.nameLimit := by decide
  obtain ⟨named, short⟩ := facts top listed
  exact FileTree.locate_name located there named short faultless

/-- **A limited search finds the source files** below the directories that it starts from. -/
theorem mem_limited_iff (wellFormed : tree.WellFormed) (located : tree.locate root = .ok location)
    (there : tree.nodeAt location = some .directory) (visited : Visits tree root location) :
    path ∈ (startingPaths tree root true).flatMap (searchFrom tree extensions) ↔
      ∃ top ∈ tops, IsSource tree extensions (root.join ⟨top⟩) (location ++ [top]) path := by
  have starting : startingPaths tree root true =
      (tops.map fun top => root.join ⟨top⟩).filter tree.isDirectory := rfl
  rw [starting, List.mem_flatMap]
  constructor
  · rintro ⟨start, member, found⟩
    obtain ⟨member, directory⟩ := List.mem_filter.mp member
    obtain ⟨top, listed, rfl⟩ := List.mem_map.mp member
    obtain ⟨place, leads⟩ := FileTree.exists_locate_of_node (of_decide_eq_true directory)
    obtain rfl : place = location ++ [top] := by
      have faultless := FileTree.pathFault?_of_locate leads
      exact Except.ok.inj (leads.symm.trans (locate_top located there listed faultless))
    have inside : tree.nodeAt (location ++ [top]) = some .directory := by
      rw [FileTree.isDirectory, FileTree.node, leads] at directory
      exact of_decide_eq_true directory
    have below := visited.below_top wellFormed listed inside
    exact ⟨top, listed, (mem_searchFrom_iff wellFormed leads inside below).mp found⟩
  · rintro ⟨top, listed, source⟩
    have inside : tree.nodeAt (location ++ [top]) = some .directory := by
      obtain ⟨directories, name, content, -, file, -⟩ := source
      exact wellFormed.nodeAt_of_append (by simp) file
    have leads : tree.locate (root.join ⟨top⟩) = .ok (location ++ [top]) :=
      visited [top] inside (by simpa using kept_of_mem_tops listed)
    have directory : tree.isDirectory (root.join ⟨top⟩) := by
      rw [FileTree.isDirectory, FileTree.node, leads]
      exact decide_eq_true inside
    refine ⟨_, List.mem_filter.mpr ⟨List.mem_map_of_mem listed, directory⟩, ?_⟩
    have below := visited.below_top wellFormed listed inside
    exact (mem_searchFrom_iff wellFormed leads inside below).mpr source

end Top

/-! ## All searches -/

/-- **What is found.** In a well formed tree, below a directory whose directories can be listed, the
files that are found come strictly in the order of paths, so each of them comes once. They are the
source files below the directory or, if the search is limited, those below `src` and `include` in
it; and a limited search finds no other files than an unlimited one. -/
theorem sources_exact (wellFormed : tree.WellFormed) (located : tree.locate root = .ok location)
    (there : tree.nodeAt location = some .directory) (visited : Visits tree root location)
    (extensions : List Text) :
    (∀ limit, (sources tree root limit extensions).Pairwise (Path.isBelow · ·) ∧
      (sources tree root limit extensions).Nodup) ∧
    (∀ path, path ∈ sources tree root false extensions ↔
      IsSource tree extensions root location path) ∧
    (∀ path, path ∈ sources tree root true extensions ↔
      ∃ top ∈ ["src".toList, "include".toList],
        IsSource tree extensions (root.join ⟨top⟩) (location ++ [top]) path) ∧
    sources tree root true extensions ⊆ sources tree root false extensions := by
  have unlimited : ∀ {path}, path ∈ (startingPaths tree root false).flatMap
      (searchFrom tree extensions) ↔ IsSource tree extensions root location path := by
    intro path
    rw [← mem_searchFrom_iff wellFormed located there visited]
    simp [startingPaths]
  have below : ∀ {limit path}, path ∈ (startingPaths tree root limit).flatMap
      (searchFrom tree extensions) → IsSource tree extensions root location path := by
    intro limit path found
    cases limit with
    | false => exact unlimited.mp found
    | true =>
      obtain ⟨top, listed, source⟩ :=
        (mem_limited_iff wellFormed located there visited).mp found
      exact source.of_top listed
  have apart : ∀ limit, SortedList.TellsApart Path.isBelow
      ((startingPaths tree root limit).flatMap (searchFrom tree extensions)) :=
    fun limit path found other found' => eq_of_isSource wellFormed (below found) (below found')
  have all : ∀ path, path ∈ sources tree root false extensions ↔
      IsSource tree extensions root location path :=
    fun path => (SortedList.mem_ofList_iff (apart false)).trans unlimited
  refine ⟨fun limit => ?_, all, fun path => ?_, fun path found => ?_⟩
  · have sorted : (sources tree root limit extensions).Pairwise (Path.isBelow · ·) := by
      refine SortedList.pairwise_ofList ?_ _
      exact Path.isBelow_trans
    refine ⟨sorted, sorted.imp fun {path other} first same => ?_⟩
    subst same
    exact List.lt_irrefl _ (of_decide_eq_true first)
  · exact (SortedList.mem_ofList_iff (apart true)).trans
      (mem_limited_iff wellFormed located there visited)
  · exact (all path).mpr (below ((SortedList.mem_ofList_iff (apart true)).mp found))

/-- A tree with two source files, a tool, a file with notes, a product of a build and a file in a
hidden directory. -/
def builtTree : FileTree :=
  ["src/b.cpp", "include/a.h", "tools/gen.cpp", "build/gen.h", ".git/x.h", "src/readme.md"].foldl
    (fun tree name => tree.putWithParents (Text.splitOn '/' name.toList) (.file (.text [])))
    (.bare [])

theorem visits_builtTree : Visits builtTree ⟨".".toList⟩ [] := by
  have wellFormed : builtTree.WellFormed := by decide +kernel
  refine visits_of_short wellFormed rfl (by decide +kernel) fun directories there _ => ?_
  have listed : ∀ entry ∈ builtTree.entries,
      FileTree.pathFault? (extend ⟨".".toList⟩ entry.1) = none := by decide +kernel
  by_cases here : directories = []
  · subst here
    rfl
  · exact listed _ (wellFormed.mem_entries_iff.mpr ⟨here, there⟩)

/-- The tool is found, but not in a limited search. The product of the build and the hidden file are
found by neither. -/
theorem sources_exact_builtTree :
    builtTree.WellFormed ∧
      IsSource builtTree ["cpp".toList, "h".toList] ⟨".".toList⟩ [] ⟨"./tools/gen.cpp".toList⟩ ∧
      ¬IsSource builtTree ["cpp".toList, "h".toList] ⟨".".toList⟩ [] ⟨"./build/gen.h".toList⟩ ∧
      ¬IsSource builtTree ["cpp".toList, "h".toList] ⟨".".toList⟩ [] ⟨"./.git/x.h".toList⟩ ∧
      sources builtTree ⟨".".toList⟩ false ["cpp".toList, "h".toList] =
        [⟨"./include/a.h".toList⟩, ⟨"./src/b.cpp".toList⟩, ⟨"./tools/gen.cpp".toList⟩] ∧
      sources builtTree ⟨".".toList⟩ true ["cpp".toList, "h".toList] =
        [⟨"./include/a.h".toList⟩, ⟨"./src/b.cpp".toList⟩] := by
  have wellFormed : builtTree.WellFormed := by decide +kernel
  obtain ⟨-, all, -, -⟩ := sources_exact wellFormed rfl rfl visits_builtTree
    ["cpp".toList, "h".toList]
  have found : sources builtTree ⟨".".toList⟩ false ["cpp".toList, "h".toList] =
      [⟨"./include/a.h".toList⟩, ⟨"./src/b.cpp".toList⟩, ⟨"./tools/gen.cpp".toList⟩] := by
    decide +kernel
  simp only [found] at all
  exact ⟨wellFormed, (all _).mp (by decide +kernel), mt (all _).mpr (by decide +kernel),
    mt (all _).mpr (by decide +kernel), found, by decide +kernel⟩

end Discovery

end Amalgamation

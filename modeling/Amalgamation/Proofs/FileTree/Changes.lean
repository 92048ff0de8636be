import Amalgamation.Proofs.FileTree.Names
import Mathlib.Data.List.TakeWhile

/-!
# What changes leave as it was

A change of a tree touches the files at some places only: every directory stays a directory, and a
file anywhere else holds what it held (`FileTree.Keeps`). Creating directories touches no file at
all (`FileTree.keeps_makeDirectories`), whether or not it succeeds, and writing touches the one file
that is written (`FileTree.keeps_write`). A path that could be followed before a change can be
followed after it, so it leads to what it led to unless it leads to one of those places
(`FileTree.Keeps.node`).

In a tree without gaps every node stands in a directory (`FileTree.Grounded`). There a path whose
last segment is no name leads to a directory, if it leads anywhere
(`FileTree.Grounded.exists_name`). So each change puts one node under a name in a directory
(`FileTree.Adds`), and it leaves no gap.
-/

set_option autoImplicit false

namespace Amalgamation

namespace FileTree

variable {tree before after : FileTree} {location : Location} {path : Path}
  {found : FileNode} {text : Text}

/-! ## A node is put somewhere -/

/-- **What stands where** after a node was put at a location. -/
theorem nodeAt_put (below : location ≠ []) (other : Location) :
    (tree.put location found).nodeAt other =
      if other = location then some found else tree.nodeAt other := by
  cases other with
  | nil => rw [if_neg (Ne.symm below)]; rfl
  | cons name names =>
    unfold nodeAt put
    by_cases same : name :: names = location
    · simp [same]
    · have others : (tree.entries.filter fun entry => entry.1 ≠ location).find?
            (fun entry => entry.1 = name :: names) =
          tree.entries.find? fun entry => entry.1 = name :: names := by
        rw [List.find?_filter]
        congr 1
        funext entry
        by_cases here : entry.1 = name :: names <;> simp [here, same]
      dsimp only
      rw [if_neg same, List.find?_cons_of_neg (by simpa using Ne.symm same), others]

/-- What the entries of a tree list stands somewhere, and nothing else does. -/
theorem isSome_nodeAt_iff :
    (tree.nodeAt location).isSome ↔ location = [] ∨ ∃ entry ∈ tree.entries, entry.1 = location := by
  cases location with
  | nil => simp [nodeAt]
  | cons name names => simp [nodeAt]

/-! ## What is kept -/

/-- From one tree to another, directories stay directories, and a file that does not stand at one of
some places is there before if and only if it is there afterwards, with the same content. -/
structure Keeps (places : List Location) (before after : FileTree) : Prop where
  workingDirectory : after.workingDirectory = before.workingDirectory
  directory : ∀ location, before.nodeAt location = some .directory →
    after.nodeAt location = some .directory
  file : ∀ location, location ∉ places → ∀ content,
    after.nodeAt location = some (.file content) ↔ before.nodeAt location = some (.file content)

namespace Keeps

variable {places more : List Location} {middle : FileTree}

theorem refl (places : List Location) (tree : FileTree) : Keeps places tree tree :=
  ⟨rfl, fun _ there => there, fun _ _ _ => Iff.rfl⟩

theorem trans (first : Keeps places before middle) (second : Keeps more middle after) :
    Keeps (places ++ more) before after where
  workingDirectory := second.workingDirectory.trans first.workingDirectory
  directory location there := second.directory location (first.directory location there)
  file location outside content := by
    obtain ⟨outside, outside'⟩ := not_or.mp (mt List.mem_append.mpr outside)
    exact (second.file location outside' content).trans (first.file location outside content)

theorem nodeAt (kept : Keeps places before after) (outside : location ∉ places)
    (there : before.nodeAt location = some found) : after.nodeAt location = some found := by
  cases found with
  | file content => exact (kept.file location outside content).mpr there
  | directory => exact kept.directory location there

theorem enter {segment : Text} {next : Location} (kept : Keeps places before after)
    (entered : before.enter location segment = .ok next) :
    after.enter location segment = .ok next := by
  unfold FileTree.enter at entered ⊢
  split at entered
  · cases entered
  · cases entered
  · next there => rwa [kept.directory location there]

theorem follow {segments : List Text} {last : Location} (kept : Keeps places before after)
    (followed : before.follow location segments = .ok last) :
    after.follow location segments = .ok last := by
  induction segments generalizing location with
  | nil => exact followed
  | cons segment segments ih =>
    unfold FileTree.follow at followed ⊢
    split at followed
    · cases followed
    · next entered =>
      rw [kept.enter entered]
      exact ih followed

/-- A path that could be followed still leads to the same place. -/
theorem locate (kept : Keeps places before after) (located : before.locate path = .ok location) :
    after.locate path = .ok location := by
  obtain ⟨faultless, followed⟩ := locateAlong_eq_ok_iff.mp located
  have starts : after.startOf path = before.startOf path := by
    rw [startOf, startOf, kept.workingDirectory]
  refine locateAlong_eq_ok_iff.mpr ⟨faultless, ?_⟩
  rw [starts]
  exact kept.follow followed

theorem lexicalLocation (kept : Keeps places before after) (path : Path) :
    after.lexicalLocation path = before.lexicalLocation path := by
  rw [FileTree.lexicalLocation, startOf, kept.workingDirectory]
  rfl

/-- **A path still leads to what it led to**, unless it leads to one of the places. -/
theorem node (kept : Keeps places before after) (outside : before.lexicalLocation path ∉ places)
    (there : before.node path = some found) : after.node path = some found := by
  unfold FileTree.node at there ⊢
  cases located : before.locate path with
  | error fault => simp [located] at there
  | ok location =>
    rw [lexicalLocation_eq located] at outside
    rw [located] at there
    rw [kept.locate located]
    exact kept.nodeAt outside there

end Keeps

/-! ## Reading and writing -/

theorem read_eq_ok_iff :
    tree.read path = .ok text ↔ tree.node path = some (.file (.text text)) := by
  unfold read node
  cases tree.locate path with
  | error fault => simp
  | ok location =>
    dsimp only
    cases tree.nodeAt location with
    | none => simp
    | some found =>
      cases found with
      | directory => simp
      | file content => cases content <;> simp

/-- A file that can be read holds the same text after a change of other files. -/
theorem Keeps.read {places : List Location} (kept : Keeps places before after)
    (outside : before.lexicalLocation path ∉ places) (held : before.read path = .ok text) :
    after.read path = .ok text := by
  rw [read_eq_ok_iff] at held ⊢
  exact kept.node outside held

/-- **A write that succeeds** puts the text where the path leads, and no directory is there. -/
theorem write_eq_ok_iff : tree.write path text = .ok after ↔
    ∃ location, tree.locate path = .ok location ∧ tree.nodeAt location ≠ some .directory ∧
      after = tree.put location (.file (.text text)) := by
  unfold write
  cases tree.locate path with
  | error fault => simp
  | ok location =>
    dsimp only
    split
    · next there => simp [there]
    · next absent =>
      constructor
      · intro wrote
        exact ⟨location, rfl, absent, (Except.ok.inj wrote).symm⟩
      · rintro ⟨_, same, -, rfl⟩
        rw [Except.ok.inj same]

theorem ne_nil_of_nodeAt (absent : tree.nodeAt location ≠ some .directory) : location ≠ [] := by
  rintro rfl
  exact absent rfl

theorem keeps_put (absent : tree.nodeAt location ≠ some .directory) (found : FileNode) :
    Keeps [location] tree (tree.put location found) := by
  have put : ∀ other, (tree.put location found).nodeAt other =
      if other = location then some found else tree.nodeAt other :=
    nodeAt_put (ne_nil_of_nodeAt absent)
  refine ⟨rfl, fun other there => ?_, fun other outside content => ?_⟩
  · rw [put, if_neg, there]
    rintro rfl
    exact absent there
  · rw [put, if_neg (List.mem_singleton.not.mp outside)]

/-- **Writing changes one file**: the one that the path leads to. -/
theorem keeps_write (wrote : tree.write path text = .ok after) :
    Keeps [tree.lexicalLocation path] tree after := by
  obtain ⟨location, located, absent, rfl⟩ := write_eq_ok_iff.mp wrote
  rw [lexicalLocation_eq located]
  exact keeps_put absent _

/-- **What was written** stands where the path leads, by whatever path it is looked up. -/
theorem node_of_write {other : Path} (wrote : tree.write path text = .ok after)
    (located : tree.locate other = .ok location)
    (same : tree.lexicalLocation other = tree.lexicalLocation path) :
    after.node other = some (.file (.text text)) := by
  have kept := keeps_write wrote
  obtain ⟨place, leads, absent, rfl⟩ := write_eq_ok_iff.mp wrote
  obtain rfl : location = place := by
    rw [← lexicalLocation_eq located, same, lexicalLocation_eq leads]
  rw [node, kept.locate located]
  exact (nodeAt_put (ne_nil_of_nodeAt absent) location).trans (if_pos rfl)

/-- **What was written can be read.** -/
theorem read_of_write (wrote : tree.write path text = .ok after) : after.read path = .ok text := by
  obtain ⟨location, located, -, -⟩ := write_eq_ok_iff.mp wrote
  exact read_eq_ok_iff.mpr (node_of_write wrote located rfl)

theorem exists_locate_of_node (there : tree.node path = some found) :
    ∃ location, tree.locate path = .ok location := by
  unfold node at there
  split at there
  · cases there
  · next location located => exact ⟨location, located⟩

/-- A file that is there can be written. -/
theorem write_of_node {content : FileContent} (there : tree.node path = some (.file content))
    (text : Text) : ∃ after, tree.write path text = .ok after := by
  obtain ⟨location, located⟩ := exists_locate_of_node there
  refine ⟨_, write_eq_ok_iff.mpr ⟨location, located, ?_, rfl⟩⟩
  rw [node, located] at there
  dsimp only at there
  rw [there]
  nofun

/-! ## Creating directories -/

/-- **A directory that is created** stands where nothing stood. -/
theorem makeDirectory_eq_ok_iff : tree.makeDirectory path = .ok after ↔
    ∃ location, tree.locateAlong path (path.segments.reverse.dropWhile (· = [])).reverse =
        .ok location ∧
      tree.nodeAt location = none ∧ after = tree.put location .directory := by
  unfold makeDirectory
  cases tree.locateAlong path (path.segments.reverse.dropWhile (· = [])).reverse with
  | error fault => simp
  | ok location =>
    dsimp only
    cases there : tree.nodeAt location with
    | some found => simp [there]
    | none => simp [there, eq_comm]

theorem keeps_makeDirectory (made : tree.makeDirectory path = .ok after) :
    Keeps [] tree after := by
  obtain ⟨location, -, nothing, rfl⟩ := makeDirectory_eq_ok_iff.mp made
  have absent : tree.nodeAt location ≠ some .directory := by simp [nothing]
  have kept := keeps_put absent .directory
  refine ⟨rfl, kept.directory, fun other _ content => ?_⟩
  by_cases here : other = location
  · subst here
    rw [nodeAt_put (ne_nil_of_nodeAt absent), if_pos rfl, nothing]
    exact iff_of_false nofun nofun
  · exact kept.file other (by simpa using here) content

/-- What holds of a tree whose directories are created, one after the other, if one creation keeps
it. -/
theorem makeDirectories_induction {motive : FileTree → Prop}
    (step : ∀ {tree after path}, motive tree → makeDirectory tree path = .ok after → motive after)
    (start : motive tree) (path : Path) : motive (tree.makeDirectories path).1 := by
  have ensured : ∀ {tree after : FileTree} {path : Path}, motive tree →
      tree.ensureDirectory path = .ok after → motive after := by
    intro tree after path holds ensured
    unfold ensureDirectory at ensured
    split at ensured
    · next made =>
      obtain rfl := Except.ok.inj ensured
      exact step holds made
    · split at ensured
      · obtain rfl := Except.ok.inj ensured
        exact holds
      · cases ensured
  have below : ∀ (above : List Path) {tree : FileTree} (path : Path), motive tree →
      motive (tree.ensureBelow path above).1 := by
    intro above
    induction above with
    | nil =>
      intro tree path holds
      unfold ensureBelow
      split
      · next made => exact ensured holds made
      · exact holds
    | cons parent above ih =>
      intro tree path holds
      unfold ensureBelow
      have held : motive (tree.ensureBelow parent above).1 := ih parent holds
      split
      · next made => exact ensured holds made
      · split
        · next work => rwa [work] at held
        · next work =>
          rw [work] at held
          split
          · next made => exact ensured held made
          · exact held
      · exact holds
  exact below path.ancestors path start

/-- **Creating directories changes no file**, also when it fails halfway. -/
theorem keeps_makeDirectories (tree : FileTree) (path : Path) :
    Keeps [] tree (tree.makeDirectories path).1 :=
  makeDirectories_induction (motive := Keeps [] tree)
    (fun kept made => kept.trans (keeps_makeDirectory made)) (.refl [] tree) path

/-! ## Trees without gaps -/

/-- Every node stands in a directory. -/
def Grounded (tree : FileTree) : Prop :=
  ∀ entry ∈ tree.entries, tree.nodeAt entry.1.dropLast = some .directory

instance (tree : FileTree) : Decidable tree.Grounded :=
  inferInstanceAs (Decidable (∀ entry ∈ tree.entries, _))

/-- One tree comes from another by putting a node under a name in a directory, where no directory
stands. -/
inductive Adds (tree : FileTree) : FileTree → Prop
  | put {above : Location} {name : Text} (inside : tree.nodeAt above = some .directory)
      (named : Path.isName name) (absent : tree.nodeAt (above ++ [name]) ≠ some .directory)
      (found : FileNode) : Adds tree (tree.put (above ++ [name]) found)

namespace Grounded

theorem parent (grounded : tree.Grounded) (there : (tree.nodeAt location).isSome) :
    tree.nodeAt location.dropLast = some .directory := by
  rcases isSome_nodeAt_iff.mp there with rfl | ⟨entry, member, rfl⟩
  · rfl
  · exact grounded entry member

/-- **Where segments end** that do not lead to a directory: they enter a directory by a name. -/
theorem exists_name_of_follow (grounded : tree.Grounded) {segments : List Text} {start : Location}
    (segmented : ∀ segment ∈ segments, '/' ∉ segment)
    (followed : tree.follow start segments = .ok location)
    (absent : tree.nodeAt location ≠ some .directory) :
    segments = [] ∧ location = start ∨
      ∃ front name above, segments = front ++ [name] ∧ Path.isName name ∧
        location = above ++ [name] ∧ tree.nodeAt above = some .directory := by
  induction segments generalizing start with
  | nil => exact .inl ⟨rfl, (Except.ok.inj followed).symm⟩
  | cons segment segments ih =>
    obtain ⟨here, segmented⟩ := List.forall_mem_cons.mp segmented
    unfold follow at followed
    split at followed
    · cases followed
    · next next entered =>
      rcases ih segmented followed with ⟨rfl, rfl⟩ | ⟨front, name, above, rfl, rest⟩
      · -- The last segment leads on from a directory.
        obtain ⟨there, leads⟩ := enter_eq_ok entered
        unfold moved at leads
        split at leads
        · subst leads
          exact absurd there absent
        · next noFiller =>
          split at leads
          · subst leads
            exact absurd (grounded.parent (by rw [there]; rfl)) absent
          · next noUp =>
            have named := Path.isName_iff.mpr ⟨Bool.eq_false_iff.mpr noFiller, noUp, here⟩
            exact .inr ⟨[], segment, start, rfl, named, leads.symm, there⟩
      · exact .inr ⟨segment :: front, name, above, rfl, rest⟩

/-- **The last segment of a path** that does not lead to a directory is a name. -/
theorem exists_name (grounded : tree.Grounded) (located : tree.locate path = .ok location)
    (absent : tree.nodeAt location ≠ some .directory) :
    ∃ front name above, path.segments = front ++ [name] ∧ Path.isName name ∧
      location = above ++ [name] ∧ tree.nodeAt above = some .directory := by
  obtain ⟨-, followed⟩ := locateAlong_eq_ok_iff.mp located
  have segmented : ∀ segment ∈ path.segments, '/' ∉ segment :=
    fun _ => Text.not_mem_of_mem_splitOn
  rcases grounded.exists_name_of_follow segmented followed absent with ⟨empty, -⟩ | ends
  · exact absurd empty (Text.splitOn_ne_nil '/' path.text)
  · exact ends

/-- A path of nothing but slashes starts at the root. -/
theorem startOf_of_slashes (faultless : pathFault? path = none)
    (slashes : ∀ segment ∈ path.segments, segment = []) : tree.startOf path = [] := by
  obtain ⟨text⟩ := path
  cases text with
  | nil => cases faultless
  | cons c text =>
    by_cases slash : c = '/'
    · subst slash
      rfl
    · simp only [Path.segments, Text.splitOn, if_neg slash] at slashes
      split at slashes <;> cases slashes _ List.mem_cons_self

/-- A text is written under a name in a directory. -/
theorem adds_of_write (grounded : tree.Grounded) (wrote : tree.write path text = .ok after) :
    tree.Adds after := by
  obtain ⟨location, located, absent, rfl⟩ := write_eq_ok_iff.mp wrote
  obtain ⟨-, name, above, -, named, rfl, inside⟩ := grounded.exists_name located absent
  exact .put inside named absent _

/-- A directory is created under a name in a directory. -/
theorem adds_of_makeDirectory (grounded : tree.Grounded)
    (made : tree.makeDirectory path = .ok after) : tree.Adds after := by
  obtain ⟨location, located, nothing, rfl⟩ := makeDirectory_eq_ok_iff.mp made
  have absent : tree.nodeAt location ≠ some .directory := by simp [nothing]
  obtain ⟨faultless, followed⟩ := locateAlong_eq_ok_iff.mp located
  have segmented : ∀ segment ∈ (path.segments.reverse.dropWhile (· = [])).reverse,
      '/' ∉ segment := by
    intro segment member
    have listed := (List.dropWhile_sublist _).subset (List.mem_reverse.mp member)
    exact Text.not_mem_of_mem_splitOn (List.mem_reverse.mp listed)
  rcases grounded.exists_name_of_follow segmented followed absent with
    ⟨empty, rfl⟩ | ⟨-, name, above, -, named, rfl, inside⟩
  · -- A path of slashes leads to the root.
    have slashes : ∀ segment ∈ path.segments, segment = [] := by
      simpa [List.dropWhile_eq_nil_iff] using empty
    exact absurd (startOf_of_slashes faultless slashes) (ne_nil_of_nodeAt absent)
  · exact .put inside named absent _

/-- What is added to a tree without gaps leaves no gap. -/
theorem of_adds (grounded : tree.Grounded) (adds : tree.Adds after) : after.Grounded := by
  cases adds with
  | @put above name inside named absent found =>
    have kept := keeps_put absent found
    intro entry member
    refine kept.directory _ ?_
    rcases List.mem_cons.mp member with rfl | old
    · rwa [List.dropLast_concat]
    · exact grounded entry (List.mem_filter.mp old).1

theorem write (grounded : tree.Grounded) (wrote : tree.write path text = .ok after) :
    after.Grounded :=
  grounded.of_adds (grounded.adds_of_write wrote)

theorem makeDirectories (grounded : tree.Grounded) (path : Path) :
    (tree.makeDirectories path).1.Grounded :=
  makeDirectories_induction
    (fun grounded made => grounded.of_adds (grounded.adds_of_makeDirectory made)) grounded path

end Grounded

end FileTree

end Amalgamation

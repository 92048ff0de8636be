import Amalgamation.Proofs.FileTree.Changes
import Amalgamation.Proofs.FileTree.Order
import Amalgamation.Proofs.SortedList
import Mathlib.Data.List.Induction
import Mathlib.Data.List.Nodup

/-!
# Trees of directories

In a well formed tree every location is listed once, has nothing but names in it and stands in a
directory. So a node stands where it is listed (`FileTree.WellFormed.mem_entries_iff`), and all that
is below a directory is reached through directories (`FileTree.WellFormed.nodeAt_of_append`).
Writing and creating directories keep a tree well formed.
-/

set_option autoImplicit false

namespace Amalgamation.FileTree

variable {tree after : FileTree} {location : Location} {path : Path} {found : FileNode}
  {name : Text} {names : List Text}

/-- **A path goes on into a directory** by a name, if neither the name nor the path is too long. -/
theorem locate_name (located : tree.locate path = .ok location)
    (there : tree.nodeAt location = some .directory) (named : Path.isName name)
    (short : (String.ofList name).utf8ByteSize ≤ nameLimit)
    (faultless : pathFault? (path.join ⟨name⟩) = none) :
    tree.locate (path.join ⟨name⟩) = .ok (location ++ [name]) := by
  obtain ⟨noFiller, noUp, -⟩ := Path.isName_iff.mp named
  rw [locate_join (Path.relative_of_isName named) located faultless, Path.segments_of_isName named,
    follow, enter, there, noFiller]
  simp [noUp, Nat.not_lt.mpr short, follow]

/-- No location is longer than the tree is high. -/
theorem length_le_height (there : tree.nodeAt location = some found) :
    location.length ≤ tree.height := by
  rcases isSome_nodeAt_iff.mp (Option.isSome_of_eq_some there) with rfl | ⟨entry, listed, rfl⟩
  · exact Nat.zero_le _
  · unfold height
    generalize tree.entries = entries at listed
    induction entries with
    | nil => cases listed
    | cons first entries ih =>
      rcases List.mem_cons.mp listed with rfl | later
      · exact Nat.le_max_left _ _
      · exact Nat.le_trans (ih later) (Nat.le_max_right _ _)

/-- Locations are listed once, apart from the root, which is not listed. They consist of names, and
there are no gaps. -/
structure WellFormed (tree : FileTree) : Prop where
  distinct : (tree.entries.map (·.1)).Nodup
  grounded : tree.Grounded
  below : ∀ entry ∈ tree.entries, entry.1 ≠ []
  named : ∀ entry ∈ tree.entries, ∀ name ∈ entry.1, Path.isName name

theorem wellFormed_iff : tree.WellFormed ↔
    (tree.entries.map (·.1)).Nodup ∧ tree.Grounded ∧ (∀ entry ∈ tree.entries, entry.1 ≠ []) ∧
      ∀ entry ∈ tree.entries, ∀ name ∈ entry.1, Path.isName name :=
  ⟨fun ⟨distinct, grounded, below, named⟩ => ⟨distinct, grounded, below, named⟩,
    fun ⟨distinct, grounded, below, named⟩ => ⟨distinct, grounded, below, named⟩⟩

instance (tree : FileTree) : Decidable tree.WellFormed := decidable_of_iff' _ wellFormed_iff

namespace WellFormed

/-- A node is listed if it stands somewhere other than at the root. -/
theorem mem_entries_iff (wellFormed : tree.WellFormed) :
    (location, found) ∈ tree.entries ↔ location ≠ [] ∧ tree.nodeAt location = some found := by
  constructor
  · intro member
    have below : location ≠ [] := wellFormed.below _ member
    refine ⟨below, ?_⟩
    obtain ⟨entry, search⟩ : ∃ entry,
        (tree.entries.find? fun entry => entry.1 = location) = some entry := by
      rw [← Option.isSome_iff_exists, List.find?_isSome]
      exact ⟨_, member, decide_eq_true rfl⟩
    have same : entry = (location, found) :=
      List.inj_on_of_nodup_map wellFormed.distinct (List.mem_of_find?_eq_some search) member
        (by simpa using List.find?_some search)
    obtain ⟨name, names, rfl⟩ := List.exists_cons_of_ne_nil below
    simp [nodeAt, search, same]
  · rintro ⟨below, there⟩
    obtain ⟨name, names, rfl⟩ := List.exists_cons_of_ne_nil below
    obtain ⟨entry, search, rfl⟩ := Option.map_eq_some_iff.mp there
    have here : entry.1 = name :: names := by simpa using List.find?_some search
    rw [← here]
    exact List.mem_of_find?_eq_some search

/-- Every location where something stands consists of names. -/
theorem isName_of_nodeAt (wellFormed : tree.WellFormed) (there : tree.nodeAt location = some found)
    (member : name ∈ location) : Path.isName name := by
  have listed := wellFormed.mem_entries_iff.mpr ⟨List.ne_nil_of_mem member, there⟩
  exact wellFormed.named _ listed name member

/-- Everything that stands below a location is reached by names. -/
theorem isName_of_append (wellFormed : tree.WellFormed)
    (there : tree.nodeAt (location ++ names) = some found) : ∀ name ∈ names, Path.isName name :=
  fun _ member => wellFormed.isName_of_nodeAt there (List.mem_append_right location member)

/-- **What is below a location** is below a directory. -/
theorem nodeAt_of_append (wellFormed : tree.WellFormed) (inside : names ≠ [])
    (there : tree.nodeAt (location ++ names) = some found) :
    tree.nodeAt location = some .directory := by
  induction names using List.reverseRecOn generalizing found with
  | nil => exact absurd rfl inside
  | append_singleton names name ih =>
    have parent := wellFormed.grounded.parent (Option.isSome_of_eq_some there)
    rw [← List.append_assoc, List.dropLast_concat] at parent
    by_cases empty : names = []
    · rwa [empty, List.append_nil] at parent
    · exact ih empty parent

/-- **A directory is listed by the names** of what stands in it. -/
theorem mem_namesIn_iff (wellFormed : tree.WellFormed) (located : tree.locate path = .ok location) :
    name ∈ tree.namesIn path ↔ (tree.nodeAt (location ++ [name])).isSome := by
  have below : location ++ [name] ≠ [] := by simp
  rw [namesIn, located]
  dsimp only
  rw [SortedList.mem_ofList_texts_iff, List.mem_filterMap, Option.isSome_iff_exists]
  constructor
  · rintro ⟨⟨place, found⟩, member, listed⟩
    split at listed
    · next inside =>
      obtain ⟨above, rfl⟩ := List.getLast?_eq_some_iff.mp listed
      obtain rfl : above = location := by simpa using inside
      exact ⟨found, (wellFormed.mem_entries_iff.mp member).2⟩
    · cases listed
  · rintro ⟨found, there⟩
    exact ⟨_, wellFormed.mem_entries_iff.mpr ⟨below, there⟩, by simp⟩

/-! ## Changes -/

/-- **What is added leaves a tree well formed.** -/
theorem of_adds (wellFormed : tree.WellFormed) (adds : tree.Adds after) : after.WellFormed := by
  cases adds with
  | @put above name inside named absent found =>
    refine ⟨?_, wellFormed.grounded.of_adds (.put inside named absent found), ?_, ?_⟩
    · refine List.nodup_cons.mpr ⟨by simp, ?_⟩
      exact wellFormed.distinct.sublist (List.filter_sublist.map _)
    · rintro entry (_ | ⟨_, old⟩)
      · exact ne_nil_of_nodeAt absent
      · exact wellFormed.below entry (List.mem_filter.mp old).1
    · rintro entry (_ | ⟨_, old⟩) part member
      · rcases List.mem_append.mp member with front | last
        · exact wellFormed.isName_of_nodeAt inside front
        · rwa [List.mem_singleton.mp last]
      · exact wellFormed.named entry (List.mem_filter.mp old).1 part member

/-- **Writing keeps a tree well formed.** -/
theorem write {text : Text} (wellFormed : tree.WellFormed)
    (wrote : tree.write path text = .ok after) : after.WellFormed :=
  wellFormed.of_adds (wellFormed.grounded.adds_of_write wrote)

/-- **Creating directories keeps a tree well formed**, also when it fails halfway. -/
theorem makeDirectories (wellFormed : tree.WellFormed) (path : Path) :
    (tree.makeDirectories path).1.WellFormed :=
  makeDirectories_induction
    (fun wellFormed made => wellFormed.of_adds (wellFormed.grounded.adds_of_makeDirectory made))
    wellFormed path

end WellFormed

end Amalgamation.FileTree

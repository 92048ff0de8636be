import Amalgamation.Proofs.FileTree.Locations

/-!
# File names

The file name of a path is the last of its segments that is no filler, unless that one is `..`
(`Path.isPlain_of_fileName`). A path whose very last segment is a name has it as its file name
(`Path.fileName_of_segments`), and the last segment stays the last if the path is put below a
directory (`Path.segments_of_join`).
-/

set_option autoImplicit false

namespace Amalgamation

/-! ## Pieces without a separator -/

/-- No piece holds the separator. -/
theorem Text.not_mem_of_mem_splitOn {separator : Char} {text piece : Text}
    (member : piece ∈ Text.splitOn separator text) : separator ∉ piece := by
  fun_induction Text.splitOn separator text generalizing piece with
  | case1 =>
    obtain rfl := List.mem_singleton.mp member
    exact List.not_mem_nil
  | case2 text ih =>
    rcases List.mem_cons.mp member with rfl | later
    · exact List.not_mem_nil
    · exact ih later
  | case3 c text other none ih => exact absurd none (Text.splitOn_ne_nil separator text)
  | case4 c text other first pieces split ih =>
    rw [split] at ih
    rcases List.mem_cons.mp member with rfl | later
    · have inFirst := ih List.mem_cons_self
      simpa [Ne.symm other] using inFirst
    · exact ih (List.mem_cons_of_mem first later)

/-- A text without the separator is one piece. -/
theorem Text.splitOn_of_not_mem {separator : Char} {text : Text} (absent : separator ∉ text) :
    Text.splitOn separator text = [text] := by
  induction text with
  | nil => rfl
  | cons c text ih =>
    obtain ⟨other, absent⟩ := not_or.mp (mt List.mem_cons.mpr absent)
    rw [Text.splitOn, if_neg (Ne.symm other), ih absent]

/-! ## The last segment -/

namespace Path

/-- Whether a text can be the name of something in a directory. -/
def isName (name : Text) : Bool := !isFiller name && name ≠ ['.', '.'] && '/' ∉ name

variable {path : Path} {front : List Text} {name : Text}

theorem isName_iff : isName name ↔ isFiller name = false ∧ name ≠ ['.', '.'] ∧ '/' ∉ name := by
  simp [isName, and_assoc]

/-- What the anchor of a path takes from its segments is a filler. -/
theorem componentsOf_anchored (path : Path) :
    componentsOf path.anchored.2 = componentsOf path.segments := by
  have dropped : ∀ {segment : Text} (rest : List Text), isFiller segment = true →
      componentsOf rest = componentsOf (segment :: rest) := by
    intro segment rest filler
    simp [componentsOf, filler]
  unfold anchored
  split
  · next empty => rw [empty]
  · next segment rest split =>
    split
    · next absolute =>
      obtain ⟨text⟩ := path
      obtain ⟨text, rfl⟩ := List.head?_eq_some_iff.mp (of_decide_eq_true absolute)
      obtain ⟨rfl, rfl⟩ : [] = segment ∧ Text.splitOn '/' text = rest := by
        simpa [segments, Text.splitOn] using split
      rw [split]
      exact dropped _ rfl
    · split
      · next here =>
        subst here
        rw [split]
        exact dropped _ rfl
      · rw [split]

/-- A path whose last segment is a name has it as its file name. -/
theorem fileName_of_segments (ends : path.segments = front ++ [name]) (named : isName name) :
    path.fileName = some name := by
  obtain ⟨noFiller, noUp, -⟩ := isName_iff.mp named
  have last : componentsOf path.segments = componentsOf front ++ [.name name] := by
    simp [ends, componentsOf, noFiller, Component.ofSegment, noUp]
  rw [fileName, components, componentsOf_anchored, last, ← List.append_assoc, List.getLast?_concat]

/-- **A file name** is one segment, and neither a filler nor `..`. -/
theorem isPlain_of_fileName (named : path.fileName = some name) : isPlain ⟨name⟩ := by
  have member : .name name ∈ path.components := by
    unfold fileName at named
    split at named
    · next last =>
      obtain rfl := Option.some.inj named
      exact List.mem_of_getLast? last
    · cases named
  rcases List.mem_append.mp member with anchor | segment
  · unfold anchored at anchor
    split at anchor
    · cases anchor
    · split at anchor
      · simp at anchor
      · split at anchor <;> simp at anchor
  · rw [componentsOf_anchored] at segment
    obtain ⟨segment, kept, same⟩ := List.mem_map.mp segment
    obtain ⟨listed, noFiller⟩ := List.mem_filter.mp kept
    unfold Component.ofSegment at same
    split at same
    · cases same
    · next noUp =>
      obtain rfl := Component.name.inj same
      have single := Text.splitOn_of_not_mem (Text.not_mem_of_mem_splitOn listed)
      simpa [isPlain, segments, single, noUp] using noFiller

/-- The segments of a path come last, whatever it is put below. -/
theorem segments_join (base path : Path) :
    ∃ front, (base.join path).segments = front ++ path.segments := by
  unfold join
  split
  · exact ⟨[], rfl⟩
  · split
    · next ends =>
      obtain ⟨base⟩ := base
      rcases ends with rfl | slash
      · exact ⟨[], rfl⟩
      · obtain ⟨front, rfl⟩ := List.getLast?_eq_some_iff.mp slash
        refine ⟨Text.splitOn '/' front, ?_⟩
        simp only [segments, List.append_assoc, List.singleton_append]
        exact Text.splitOn_append '/' front path.text
    · exact ⟨base.segments, Text.splitOn_append '/' base.text path.text⟩

/-- The last segment of a path below a directory is the last segment of the path. -/
theorem segments_of_join {base : Path} (ends : (base.join path).segments = front ++ [name]) :
    ∃ front, path.segments = front ++ [name] := by
  obtain ⟨before, split⟩ := segments_join base path
  have filled : path.segments ≠ [] := Text.splitOn_ne_nil '/' path.text
  rw [split, ← List.dropLast_concat_getLast filled, ← List.append_assoc] at ends
  obtain ⟨-, last⟩ := List.append_inj' ends rfl
  exact ⟨path.segments.dropLast, by rw [← last, List.dropLast_concat_getLast]⟩

end Path

end Amalgamation

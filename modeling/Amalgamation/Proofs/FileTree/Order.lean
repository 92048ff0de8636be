import Amalgamation.Proofs.FileTree.Names
import Mathlib.Data.List.Basic

/-!
# Names below a path, and the order of paths

To put a name below a path is to add one component to it, however the path is spelled
(`Path.components_join`). Paths are ordered by their components alone: of two paths with different
components one is below the other (`Path.components_eq_of_not_isBelow`), and the order is transitive
(`Path.isBelow_trans`).
-/

set_option autoImplicit false

namespace Amalgamation.Path

variable {path other base : Path} {name : Text}

theorem segments_of_isName (named : isName name) : segments ⟨name⟩ = [name] :=
  Text.splitOn_of_not_mem (isName_iff.mp named).2.2

theorem relative_of_isName (named : isName name) : isAbsolute ⟨name⟩ = false := by
  refine decide_eq_false fun slash => (isName_iff.mp named).2.2 ?_
  obtain ⟨rest, rfl⟩ := List.head?_eq_some_iff.mp slash
  exact List.mem_cons_self

theorem componentsOf_of_isName (named : isName name) : componentsOf [name] = [.name name] := by
  obtain ⟨noFiller, noUp, -⟩ := isName_iff.mp named
  simp [componentsOf, noFiller, Component.ofSegment, noUp]

/-! ## Components -/

/-- The anchor of a path depends on its first character and its first segment. -/
theorem anchored_fst (path : Path) :
    path.anchored.1 = if path.isAbsolute then some .root
      else if path.segments.head? = some ['.'] then some .here else none := by
  unfold anchored
  split
  · next empty => exact absurd empty (Text.splitOn_ne_nil '/' path.text)
  · next segment rest split =>
    simp only [split, List.head?_cons, Option.some.injEq]
    split
    · rfl
    · split <;> rfl

theorem components_eq (path : Path) :
    path.components = path.anchored.1.toList ++ componentsOf path.segments := by
  rw [components, componentsOf_anchored]

/-- What stands behind a slash adds its components to what stands before it. -/
theorem components_append {first : Text} (filled : first ≠ []) (second : Text) :
    components ⟨first ++ '/' :: second⟩ =
      components ⟨first⟩ ++ componentsOf (Text.splitOn '/' second) := by
  have segmented : segments ⟨first ++ '/' :: second⟩ =
      segments ⟨first⟩ ++ Text.splitOn '/' second := Text.splitOn_append '/' first second
  have anchors : (anchored ⟨first ++ '/' :: second⟩).1 = (anchored ⟨first⟩).1 := by
    obtain ⟨c, first, rfl⟩ := List.exists_cons_of_ne_nil filled
    obtain ⟨segment, rest, split⟩ :=
      List.exists_cons_of_ne_nil (Text.splitOn_ne_nil '/' (c :: first))
    rw [anchored_fst, anchored_fst, segmented, segments, split]
    rfl
  rw [components_eq, components_eq, anchors, segmented, List.append_assoc]
  simp [componentsOf]

/-- **A name below a path** is one component more. -/
theorem components_join (named : isName name) :
    (base.join ⟨name⟩).components = base.components ++ [.name name] := by
  obtain ⟨noFiller, noUp, inside⟩ := isName_iff.mp named
  have relative := relative_of_isName named
  have added : componentsOf (Text.splitOn '/' name) = [.name name] := by
    rw [Text.splitOn_of_not_mem inside, componentsOf_of_isName named]
  obtain ⟨text⟩ := base
  rw [join, if_neg (by simp [relative])]
  split
  · next ends =>
    rcases ends with rfl | slash
    · have anchor : (anchored ⟨name⟩).1 = none := by
        have noHere : (segments ⟨name⟩).head? ≠ some ['.'] := by
          rw [segments_of_isName named]
          rintro ⟨⟩
          cases noFiller
        rw [anchored_fst, relative, if_neg Bool.false_ne_true, if_neg noHere]
      show components ⟨name⟩ = components ⟨[]⟩ ++ [.name name]
      rw [components_eq, anchor, segments_of_isName named, componentsOf_of_isName named]
      rfl
    · obtain ⟨front, rfl⟩ := List.getLast?_eq_some_iff.mp slash
      dsimp only
      rw [List.append_assoc]
      by_cases filled : front = []
      · subst filled
        show components ⟨'/' :: name⟩ = components ⟨['/']⟩ ++ [.name name]
        rw [← added]
        rfl
      · have slashed := components_append filled []
        have split := components_append filled name
        rw [added] at split
        rw [slashed]
        simpa [componentsOf, Text.splitOn, isFiller] using split
  · next inner =>
    rw [components_append (fun empty => inner (.inl empty)), added]

/-! ## Order -/

theorem Component.key_injective : Function.Injective Component.key := by
  intro a b same
  have spelled : ∀ {text text' : Text}, text.map Char.toNat = text'.map Char.toNat → text = text' :=
    fun same => List.map_injective_iff.mpr (fun _ _ => Char.toNat_inj.mp) same
  cases a <;> cases b <;> simp [key] at same ⊢
  exact spelled same

/-- **The order is the order of the components**: it tells paths with different ones apart. -/
theorem components_eq_of_not_isBelow (notBelow : path.isBelow other = false)
    (notAbove : other.isBelow path = false) : path.components = other.components := by
  have same : path.key = other.key :=
    List.le_antisymm (of_decide_eq_false notAbove) (of_decide_eq_false notBelow)
  exact List.map_injective_iff.mpr Component.key_injective same

theorem isBelow_trans {third : Path} (first : path.isBelow other) (second : other.isBelow third) :
    path.isBelow third :=
  decide_eq_true (List.lt_trans (of_decide_eq_true first) (of_decide_eq_true second))

end Amalgamation.Path

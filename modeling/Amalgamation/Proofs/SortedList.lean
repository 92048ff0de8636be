import Amalgamation.SortedList
import Amalgamation.Text.Basic

/-!
# What a sorted list holds

Repeated insertion adds nothing of its own and loses nothing that differs from the rest: the sorted
list of some elements holds exactly these, if elements that the order does not tell apart are equal
(`SortedList.mem_ofList_iff`). It is strictly sorted (`SortedList.pairwise_ofList`), so it holds
each of them once.
-/

set_option autoImplicit false

namespace Amalgamation.SortedList

variable {α : Type} {below : α → α → Bool} {x y : α} {xs : List α}

/-- Two elements of which neither is below the other are equal. -/
def TellsApart (below : α → α → Bool) (xs : List α) : Prop :=
  ∀ x ∈ xs, ∀ y ∈ xs, below x y = false → below y x = false → x = y

theorem TellsApart.mono {ys : List α} (apart : TellsApart below xs) (fewer : ys ⊆ xs) :
    TellsApart below ys :=
  fun x here y there => apart x (fewer here) y (fewer there)

theorem mem_of_mem_insert (member : y ∈ insert below x xs) : y = x ∨ y ∈ xs := by
  fun_induction insert below x xs with
  | case1 => exact .inl (List.mem_singleton.mp member)
  | case2 => exact List.mem_cons.mp member
  | case3 z zs _ _ ih =>
    rcases List.mem_cons.mp member with rfl | later
    · exact .inr List.mem_cons_self
    · exact (ih later).imp_right (List.mem_cons_of_mem z)
  | case4 => exact .inr member

theorem mem_insert_of_mem (member : y ∈ xs) : y ∈ insert below x xs := by
  fun_induction insert below x xs with
  | case1 => cases member
  | case2 => exact List.mem_cons_of_mem x member
  | case3 z zs _ _ ih =>
    rcases List.mem_cons.mp member with rfl | later
    · exact List.mem_cons_self
    · exact List.mem_cons_of_mem z (ih later)
  | case4 => exact member

theorem mem_insert_self (apart : TellsApart below (x :: xs)) : x ∈ insert below x xs := by
  fun_induction insert below x xs with
  | case1 => exact List.mem_singleton_self x
  | case2 => exact List.mem_cons_self
  | case3 z zs _ _ ih =>
    have fewer : x :: zs ⊆ x :: z :: zs := List.cons_subset_cons x (List.subset_cons_self z zs)
    exact List.mem_cons_of_mem z (ih (apart.mono fewer))
  | case4 z zs notBelow notAbove =>
    have same := apart x List.mem_cons_self z (by simp) (Bool.eq_false_iff.mpr notBelow)
      (Bool.eq_false_iff.mpr notAbove)
    rw [same]
    exact List.mem_cons_self

theorem mem_of_mem_ofList (member : y ∈ ofList below xs) : y ∈ xs := by
  induction xs with
  | nil => cases member
  | cons x xs ih =>
    have inserted : y ∈ insert below x (ofList below xs) := member
    rcases mem_of_mem_insert inserted with rfl | later
    · exact List.mem_cons_self
    · exact List.mem_cons_of_mem x (ih later)

/-- **The sorted list of some elements holds exactly these**, if the order tells them apart. -/
theorem mem_ofList_iff (apart : TellsApart below xs) : y ∈ ofList below xs ↔ y ∈ xs := by
  refine ⟨mem_of_mem_ofList, fun member => ?_⟩
  induction xs with
  | nil => cases member
  | cons x xs ih =>
    show y ∈ insert below x (ofList below xs)
    rcases List.mem_cons.mp member with rfl | later
    · have fewer : y :: ofList below xs ⊆ y :: xs :=
        List.cons_subset_cons y fun _ => mem_of_mem_ofList
      exact mem_insert_self (apart.mono fewer)
    · exact mem_insert_of_mem (ih (apart.mono (List.subset_cons_self x xs)) later)

/-- The order of texts tells all of them apart. -/
theorem mem_ofList_texts_iff {texts : List Text} {text : Text} :
    text ∈ ofList (· < ·) texts ↔ text ∈ texts := by
  refine mem_ofList_iff fun first _ second _ notBelow notAbove => ?_
  exact List.le_antisymm (of_decide_eq_false notAbove) (of_decide_eq_false notBelow)

theorem pairwise_insert (trans : ∀ {x y z}, below x y → below y z → below x z)
    (sorted : xs.Pairwise (below · ·)) : (insert below x xs).Pairwise (below · ·) := by
  fun_induction insert below x xs with
  | case1 => exact List.pairwise_singleton _ x
  | case2 z zs first =>
    refine List.pairwise_cons.mpr ⟨List.forall_mem_cons.mpr ⟨first, fun y member => ?_⟩, sorted⟩
    exact trans first (List.rel_of_pairwise_cons sorted member)
  | case3 z zs _ later ih =>
    obtain ⟨front, behind⟩ := List.pairwise_cons.mp sorted
    refine List.pairwise_cons.mpr ⟨fun y member => ?_, ih behind⟩
    rcases mem_of_mem_insert member with rfl | old
    · exact later
    · exact front y old
  | case4 => exact sorted

/-- **The sorted list of some elements is strictly sorted.** -/
theorem pairwise_ofList (trans : ∀ {x y z}, below x y → below y z → below x z) (xs : List α) :
    (ofList below xs).Pairwise (below · ·) := by
  induction xs with
  | nil => exact List.Pairwise.nil
  | cons x xs ih => exact pairwise_insert trans ih

end Amalgamation.SortedList

import Amalgamation.Proofs.Directive.Borders
import Mathlib.Data.List.Nodup

/-!
# The pairs of openers and closing lines

Which `#endif` belongs to which opener is told here by the marks of a file alone: each `#endif`, one
after the other, takes the nearest opener in front of it that no earlier `#endif` has taken
(`Mark.pairsBack`, `Mark.Matches`). Feature blocks and other blocks are not told apart.

At each mark the openers that are not taken yet are those of the blocks that are open there. An
opener is added to them, an `#endif` takes the nearest away, and no other line changes them
(`Mark.openBack_of_opens`, `Mark.openBack_of_closes`, `Mark.openBack_of_other`). So what the rest of
the file says does not matter for the partner of an `#endif` (`Mark.matches_iff`).
-/

set_option autoImplicit false

namespace Amalgamation

namespace Mark

/-- Whether a block opens. -/
def opens : Mark → Bool
  | .openFeature _ | .openPlain _ _ => true
  | _ => false

/-- Whether a block closes. -/
def closes : Mark → Bool
  | .close _ => true
  | _ => false

/-! ## Pairs -/

/-- The openers among marks that are in none of the pairs. -/
def unpaired (pairs : List (Nat × Nat)) (marks : List (Nat × Mark)) : List (Nat × Mark) :=
  marks.filter fun mark => mark.2.opens && pairs.all fun pair => pair.1 ≠ mark.1

/-- The pairs among marks that are listed from the last to the first: **each `#endif` with the
nearest opener in front of it that is in no earlier pair.** -/
def pairsBack : List (Nat × Mark) → List (Nat × Nat)
  | [] => []
  | (number, mark) :: before =>
    if mark.closes then
      match (unpaired (pairsBack before) before).head? with
      | some opener => (opener.1, number) :: pairsBack before
      | none => pairsBack before
    else pairsBack before

/-- The openers of the blocks that are open behind marks, the nearest first. The marks are listed
from the last to the first. -/
def openBack (before : List (Nat × Mark)) : List (Nat × Mark) := unpaired (pairsBack before) before

/-- An `#endif` belongs to an opener. -/
def Matches (marks : List (Nat × Mark)) (opener closer : Nat) : Prop :=
  (opener, closer) ∈ pairsBack marks.reverse

/-- Marks are listed from the last to the first, and no line has two. -/
def Descending (before : List (Nat × Mark)) : Prop := before.Pairwise fun a b => b.1 < a.1

variable {number : Nat} {mark : Mark} {before later marks : List (Nat × Mark)}

theorem mem_openBack {opener : Nat × Mark} :
    opener ∈ openBack before ↔ opener ∈ before ∧ opener.2.opens ∧
      ∀ closer, (opener.1, closer) ∉ pairsBack before := by
  have taken : ((pairsBack before).all fun pair => pair.1 ≠ opener.1) = true ↔
      ∀ closer, (opener.1, closer) ∉ pairsBack before := by
    simp only [List.all_eq_true, decide_eq_true_eq]
    constructor
    · intro others closer member
      exact others _ member rfl
    · rintro untaken ⟨_, closer⟩ member rfl
      exact untaken closer member
  rw [openBack, unpaired, List.mem_filter, Bool.and_eq_true, taken]

theorem mem_pairsBack_cons {pair : Nat × Nat} :
    pair ∈ pairsBack ((number, mark) :: before) ↔
      mark.closes ∧ (∃ opener, (openBack before).head? = some opener ∧
          pair = (opener.1, number)) ∨
        pair ∈ pairsBack before := by
  rw [pairsBack]
  split
  · next closes =>
    split
    · next opener found => simp [closes, openBack, found]
    · next found => simp [openBack, found]
  · next closes => simp [closes]

/-- Both lines of a pair have marks. -/
theorem mem_of_mem_pairsBack {pair : Nat × Nat} (member : pair ∈ pairsBack before) :
    pair.1 ∈ before.map Prod.fst ∧ pair.2 ∈ before.map Prod.fst := by
  induction before with
  | nil => cases member
  | cons head before ih =>
    rcases mem_pairsBack_cons.mp member with ⟨-, opener, found, rfl⟩ | member
    · have listed := (mem_openBack.mp (List.mem_of_head? found)).1
      exact ⟨List.mem_cons_of_mem _ (List.mem_map_of_mem listed), List.mem_cons_self⟩
    · exact ⟨List.mem_cons_of_mem _ (ih member).1, List.mem_cons_of_mem _ (ih member).2⟩

theorem lt_of_mem_pairsBack {pair : Nat × Nat} (descending : Descending ((number, mark) :: before))
    (member : pair ∈ pairsBack before) : pair.1 < number ∧ pair.2 < number := by
  obtain ⟨opens, closes⟩ := mem_of_mem_pairsBack member
  obtain ⟨first, -⟩ := List.pairwise_cons.mp descending
  obtain ⟨opener, opens, same⟩ := List.mem_map.mp opens
  obtain ⟨closer, closes, same'⟩ := List.mem_map.mp closes
  exact ⟨same ▸ first opener opens, same' ▸ first closer closes⟩

theorem unpaired_cons (pair : Nat × Nat) (pairs : List (Nat × Nat)) :
    unpaired (pair :: pairs) marks = (unpaired pairs marks).filter fun mark => pair.1 ≠ mark.1 := by
  rw [unpaired, unpaired, List.filter_filter]
  refine List.filter_congr fun mark _ => ?_
  rw [List.all_cons, Bool.and_left_comm]

/-! ## The blocks that are open -/

/-- An opener is open behind its line. -/
theorem openBack_of_opens (descending : Descending ((number, mark) :: before))
    (opens : mark.opens) :
    openBack ((number, mark) :: before) = (number, mark) :: openBack before := by
  have silent : mark.closes = false := by
    cases mark <;> first | rfl | cases opens
  have same : pairsBack ((number, mark) :: before) = pairsBack before := by
    rw [pairsBack, silent]
    rfl
  have here : (pairsBack before).all fun pair => pair.1 ≠ number := by
    simp only [List.all_eq_true, decide_eq_true_eq]
    exact fun pair member => (lt_of_mem_pairsBack descending member).1.ne
  rw [openBack, same, unpaired, List.filter_cons_of_pos]
  · rfl
  · rw [Bool.and_eq_true]
    exact ⟨opens, here⟩

/-- A line that neither opens nor closes a block changes nothing. -/
theorem openBack_of_other (opens : mark.opens = false) (closes : mark.closes = false) :
    openBack ((number, mark) :: before) = openBack before := by
  have same : pairsBack ((number, mark) :: before) = pairsBack before := by
    rw [pairsBack, closes]
    rfl
  rw [openBack, same, unpaired, List.filter_cons_of_neg]
  · rfl
  · simp [opens]

/-- **An `#endif` closes the nearest block** that is open. -/
theorem openBack_of_closes (descending : Descending ((number, mark) :: before))
    (closes : mark.closes) : openBack ((number, mark) :: before) = (openBack before).tail := by
  have silent : mark.opens = false := by
    cases mark <;> first | rfl | cases closes
  have behind : openBack ((number, mark) :: before) =
      unpaired (pairsBack ((number, mark) :: before)) before := by
    rw [openBack, unpaired, List.filter_cons_of_neg]
    · rfl
    · simp [silent]
  rw [behind, pairsBack, if_pos closes]
  split
  · next opener found =>
    obtain ⟨others, same⟩ : ∃ others, openBack before = opener :: others :=
      List.head?_eq_some_iff.mp found
    have apart : ∀ other ∈ others, opener.1 ≠ other.1 := by
      have listed : (opener :: others).Pairwise fun a b => b.1 < a.1 := by
        rw [← same]
        exact (List.Pairwise.of_cons descending).sublist List.filter_sublist
      intro other member
      exact ((List.pairwise_cons.mp listed).1 other member).ne'
    rw [unpaired_cons, ← openBack, same, List.filter_cons_of_neg (by simp)]
    exact List.filter_eq_self.mpr fun other member => by simpa using apart other member
  · next none =>
    have empty : openBack before = [] := List.head?_eq_none_iff.mp none
    exact empty.trans (congrArg List.tail empty).symm

/-! ## The partner of a closing line -/

/-- A pair is not changed by the marks behind it. -/
theorem mem_pairsBack_append {opener closer : Nat} (behind : ∀ mark ∈ later, closer < mark.1) :
    (opener, closer) ∈ pairsBack (later ++ before) ↔ (opener, closer) ∈ pairsBack before := by
  induction later with
  | nil => exact Iff.rfl
  | cons head later ih =>
    obtain ⟨here, rest⟩ := List.forall_mem_cons.mp behind
    rw [List.cons_append, mem_pairsBack_cons, ih rest]
    constructor
    · rintro (⟨-, _, -, same⟩ | member)
      · obtain rfl : closer = head.1 := (Prod.mk.inj same).2
        exact absurd here (Nat.lt_irrefl _)
      · exact member
    · exact .inr

/-- The marks of a file are listed from the first to the last, and no line has two. -/
theorem pairwise_marks (vocabulary : Vocabulary) (number taken : Nat) (lines : List Text) :
    (vocabulary.marks number taken lines).Pairwise (·.1 < ·.1) := by
  rw [vocabulary.marks_eq_map, List.pairwise_map]
  exact vocabulary.pairwise_markedLines number taken lines

theorem descending_reverse (ordered : marks.Pairwise (·.1 < ·.1)) : Descending marks.reverse :=
  List.pairwise_reverse.mpr ordered

/-- **The partner of an `#endif`** is the nearest block that is open in front of it. -/
theorem matches_iff {front behind : List (Nat × Mark)} {opener : Nat}
    (ordered : marks.Pairwise (·.1 < ·.1)) (split : marks = front ++ (number, mark) :: behind)
    (closes : mark.closes) :
    Matches marks opener number ↔
      (openBack front.reverse).head?.map Prod.fst = some opener := by
  have apart : marks = (front ++ [(number, mark)]) ++ behind := by simp [split]
  subst apart
  obtain ⟨first, -, apart⟩ := List.pairwise_append.mp ordered
  have descending := descending_reverse first
  rw [List.reverse_append, List.reverse_singleton, List.singleton_append] at descending
  have later : ∀ other ∈ behind.reverse, number < other.1 := fun other member =>
    apart (number, mark) (by simp) other (List.mem_reverse.mp member)
  rw [Matches, List.reverse_append, List.reverse_append, List.reverse_singleton,
    List.singleton_append, mem_pairsBack_append later, mem_pairsBack_cons, Option.map_eq_some_iff]
  constructor
  · rintro (⟨-, found, here, same⟩ | member)
    · exact ⟨found, here, (Prod.mk.inj same).1.symm⟩
    · exact absurd (lt_of_mem_pairsBack descending member).2 (Nat.lt_irrefl number)
  · rintro ⟨found, here, rfl⟩
    exact .inl ⟨closes, found, here, rfl⟩

/-- A line has one mark. -/
theorem eq_of_mem {mark' : Mark} (ordered : marks.Pairwise (·.1 < ·.1))
    (member : (number, mark) ∈ marks) (member' : (number, mark') ∈ marks) : mark = mark' := by
  have apart : (marks.map Prod.fst).Nodup :=
    List.pairwise_map.mpr (ordered.imp fun before => before.ne)
  exact congrArg Prod.snd (List.inj_on_of_nodup_map apart member member' rfl)

/-- An `#endif` belongs to one opener. -/
theorem matches_unique {opener opener' : Nat} (ordered : marks.Pairwise (·.1 < ·.1))
    (member : (number, mark) ∈ marks) (closes : mark.closes)
    (pair : Matches marks opener number) (pair' : Matches marks opener' number) :
    opener = opener' := by
  obtain ⟨front, behind, split⟩ := List.append_of_mem member
  rw [matches_iff ordered split closes] at pair pair'
  exact Option.some.inj (pair.symm.trans pair')

/-- An opener is open behind the last mark if no `#endif` belongs to it. -/
theorem mem_openBack_reverse {opener : Nat × Mark} :
    opener ∈ openBack marks.reverse ↔ opener ∈ marks ∧ opener.2.opens ∧
      ∀ closer, ¬Matches marks opener.1 closer := by
  rw [mem_openBack, List.mem_reverse]
  rfl

end Mark

end Amalgamation

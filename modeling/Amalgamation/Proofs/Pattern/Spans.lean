import Amalgamation.Pattern.Match

/-!
# Stretches that a pattern spans

A pattern spans stretches of a text from left to right (`Pattern.Spans.le`), and the empty stretch
where it is said to match nothing (`Pattern.matchesEmpty_iff`). A repetition spans what some rounds
of its body read. Rounds that read nothing can be left out (`Pattern.Rounds.exists_moving`) unless
they are required, so the first round reads something, or it is required and reads nothing
(`Pattern.within_succ_iff`).

No repetition may require more rounds than it allows (`Pattern.Ordered`).
-/

set_option autoImplicit false

namespace Amalgamation.Pattern

/-- No repetition in the pattern requires more rounds than it allows. -/
def Ordered : Pattern → Prop
  | .sequence first second => Ordered first ∧ Ordered second
  | .choice first second => Ordered first ∧ Ordered second
  | .repetition body least most => Ordered body ∧ ∀ bound, most = some bound → least ≤ bound
  | _ => True

/-! ## Rounds -/

/-- What goes on from a position reads something or ends at once. -/
theorem exists_moving_iff {goes reaches : Nat → Prop} {i : Nat} (forward : ∀ j, goes j → i ≤ j) :
    (∃ j, goes j ∧ reaches j) ↔ (∃ j, i < j ∧ goes j ∧ reaches j) ∨ goes i ∧ reaches i := by
  constructor
  · rintro ⟨j, first, rest⟩
    rcases Nat.lt_or_eq_of_le (forward j first) with moving | rfl
    · exact .inl ⟨j, moving, first, rest⟩
    · exact .inr ⟨first, rest⟩
  · rintro (⟨j, -, both⟩ | both)
    · exact ⟨j, both⟩
    · exact ⟨i, both⟩

section Rounds

variable {step : Nat → Nat → Prop} {endless : Bool} {due count n i j k : Nat}

theorem Rounds.le (forward : ∀ i j, step i j → i ≤ j) (rounds : Rounds step n i j) : i ≤ j := by
  induction rounds with
  | none => exact Nat.le_refl _
  | more first _ ih => exact Nat.le_trans (forward _ _ first) ih

theorem Rounds.le_length {length : Nat} (bounded : ∀ i j, step i j → i ≤ length → j ≤ length)
    (rounds : Rounds step n i j) (inside : i ≤ length) : j ≤ length := by
  induction rounds with
  | none => exact inside
  | more first _ ih => exact ih (bounded _ _ first inside)

/-- Rounds that read nothing in front of one that does can be left out. -/
theorem Rounds.exists_moving (forward : ∀ i j, step i j → i ≤ j) (rounds : Rounds step n i k)
    (moved : i < k) : ∃ m j, i < j ∧ step i j ∧ Rounds step m j k ∧ m < n := by
  induction rounds with
  | none => exact absurd moved (Nat.lt_irrefl _)
  | @more n i j k first rest ih =>
    rcases Nat.lt_or_eq_of_le (forward _ _ first) with moving | rfl
    · exact ⟨n, j, moving, first, rest, Nat.lt_succ_self n⟩
    · obtain ⟨m, j, moving, next, later, fewer⟩ := ih moved
      exact ⟨m, j, moving, next, later, Nat.lt_succ_of_lt fewer⟩

theorem Rounds.of_empty (empty : step i i) (n : Nat) : Rounds step n i i := by
  induction n with
  | zero => exact .none
  | succ n ih => exact .more empty ih

/-- Some rounds lead from one position to another: at least `due` of them, and no more than `count`
unless there is no bound. -/
def Within (step : Nat → Nat → Prop) (endless : Bool) (due count i j : Nat) : Prop :=
  ∃ n, due ≤ n ∧ (endless ∨ n ≤ count) ∧ Rounds step n i j

theorem Within.le (forward : ∀ i j, step i j → i ≤ j) (within : Within step endless due count i j) :
    i ≤ j := by
  obtain ⟨_, -, -, rounds⟩ := within
  exact rounds.le forward

/-- Rounds that read nothing. -/
theorem within_self_iff (forward : ∀ i j, step i j → i ≤ j) (enough : due ≤ count) :
    Within step endless due count i i ↔ due = 0 ∨ step i i := by
  constructor
  · rintro ⟨n, required, -, rounds⟩
    cases rounds with
    | none => exact .inl (Nat.le_zero.mp required)
    | more first rest =>
      obtain rfl := Nat.le_antisymm (forward _ _ first) (rest.le forward)
      exact .inr first
  · rintro (rfl | empty)
    · exact ⟨0, Nat.le_refl 0, .inr (Nat.zero_le count), .none⟩
    · exact ⟨due, Nat.le_refl due, .inr enough, .of_empty empty due⟩

/-- **The first of some rounds that read something.** If there are more rounds than one, either it
reads something itself, or it is required and reads nothing. -/
theorem within_succ_iff (forward : ∀ i j, step i j → i ≤ j) (moved : i < k) :
    Within step endless due (count + 1) i k ↔
      (∃ j, i < j ∧ step i j ∧ Within step endless (due - 1) count j k) ∨
        1 < due ∧ step i i ∧ Within step endless (due - 1) count i k := by
  constructor
  · rintro ⟨n, required, allowed, rounds⟩
    by_cases several : 1 < due
    · cases rounds with
      | none => exact absurd moved (Nat.lt_irrefl _)
      | @more n i j k first rest =>
        have within : Within step endless (due - 1) count j k :=
          ⟨n, by omega, allowed.imp_right Nat.le_of_succ_le_succ, rest⟩
        rcases Nat.lt_or_eq_of_le (forward _ _ first) with moving | rfl
        · exact .inl ⟨j, moving, first, within⟩
        · exact .inr ⟨several, first, within⟩
    · obtain ⟨m, j, moving, first, rest, fewer⟩ := rounds.exists_moving forward moved
      exact .inl ⟨j, moving, first, m, by omega, allowed.imp_right (by omega), rest⟩
  · rintro (⟨j, -, first, n, required, allowed, rest⟩ | ⟨_, first, n, required, allowed, rest⟩)
    all_goals exact ⟨n + 1, by omega, allowed.imp_right Nat.succ_le_succ, .more first rest⟩

/-- Without a bound, the rounds that are left are as many as one likes. -/
theorem within_endless_iff (forward : ∀ i j, step i j → i ≤ j) (few : due ≤ 1) (moved : i < k) :
    Within step true due count i k ↔ ∃ j, i < j ∧ step i j ∧ Within step true 0 0 j k := by
  constructor
  · rintro ⟨n, -, -, rounds⟩
    obtain ⟨m, j, moving, first, rest, -⟩ := rounds.exists_moving forward moved
    exact ⟨j, moving, first, m, Nat.zero_le m, .inl rfl, rest⟩
  · rintro ⟨j, -, first, n, -, -, rest⟩
    exact ⟨n + 1, by omega, .inl rfl, .more first rest⟩

end Rounds

/-! ## Stretches -/

section Stretches

variable {text : Text} {pattern : Pattern} {i j : Nat}

theorem Spans.le (spans : Spans text pattern i j) : i ≤ j := by
  induction pattern generalizing i j with
  | nothing => exact Nat.le_of_eq spans
  | one set => exact spans.1 ▸ Nat.le_succ i
  | here anchor => exact Nat.le_of_eq spans.1
  | sequence first second ih ih' =>
    obtain ⟨_, before, behind⟩ := spans
    exact Nat.le_trans (ih before) (ih' behind)
  | choice first second ih ih' => exact spans.elim ih ih'
  | repetition body least most ih =>
    obtain ⟨_, -, -, rounds⟩ := spans
    exact rounds.le fun _ _ => ih

/-- A stretch that begins in the text ends in it. -/
theorem Spans.le_length (spans : Spans text pattern i j) (inside : i ≤ text.length) :
    j ≤ text.length := by
  induction pattern generalizing i j with
  | nothing => exact spans ▸ inside
  | one set =>
    obtain ⟨rfl, c, there, -⟩ := spans
    exact (List.getElem?_eq_some_iff.mp there).1
  | here anchor => exact spans.1 ▸ inside
  | sequence first second ih ih' =>
    obtain ⟨_, before, behind⟩ := spans
    exact ih' behind (ih before inside)
  | choice first second ih ih' =>
    exact spans.elim (fun spans => ih spans inside) (fun spans => ih' spans inside)
  | repetition body least most ih =>
    obtain ⟨_, -, -, rounds⟩ := spans
    exact rounds.le_length (fun _ _ => ih) inside

theorem spans_repetition_iff {least : Nat} {most : Option Nat} :
    Spans text (.repetition pattern least most) i j ↔
      Within (Spans text pattern) most.isNone least (roundCount least most) i j := by
  cases most <;> simp [Spans, Within, roundCount]

theorem le_roundCount {least : Nat} {most : Option Nat}
    (ordered : ∀ bound, most = some bound → least ≤ bound) : least ≤ roundCount least most := by
  cases most with
  | none => exact Nat.le_max_left least 1
  | some bound => exact ordered bound rfl

/-- **What matches nothing** at a position spans the empty stretch there. -/
theorem matchesEmpty_iff (ordered : pattern.Ordered) :
    pattern.matchesEmpty (placeAt text i) ↔ Spans text pattern i i := by
  induction pattern with
  | nothing => simp [matchesEmpty, Spans]
  | one set => simp [matchesEmpty, Spans]
  | here anchor => simp [matchesEmpty, Spans]
  | sequence first second ih ih' =>
    rw [matchesEmpty, Bool.and_eq_true, ih ordered.1, ih' ordered.2]
    constructor
    · rintro ⟨before, behind⟩
      exact ⟨i, before, behind⟩
    · rintro ⟨j, before, behind⟩
      obtain rfl := Nat.le_antisymm before.le behind.le
      exact ⟨before, behind⟩
  | choice first second ih ih' =>
    rw [matchesEmpty, Bool.or_eq_true, ih ordered.1, ih' ordered.2, Spans]
  | repetition body least most ih =>
    have bounded : most.all (least ≤ ·) := by
      cases most with
      | none => rfl
      | some bound => exact decide_eq_true (ordered.2 bound rfl)
    rw [spans_repetition_iff, within_self_iff (fun _ _ => Spans.le) (le_roundCount ordered.2),
      ← ih ordered.1, matchesEmpty, bounded, Bool.and_true, Bool.or_eq_true, decide_eq_true_eq]

end Stretches

end Amalgamation.Pattern

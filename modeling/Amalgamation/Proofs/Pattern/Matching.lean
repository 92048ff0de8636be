import Amalgamation.Proofs.Pattern.Spans

/-!
# What a search finds

A progress stands for the matches inside of a pattern, so it says at which positions these matches
can come to their ends (`Pattern.Finishes`). To take a progress over a character is to keep these
positions, and to add those of the match that begins there (`Pattern.finishes_advance`). So a search
through a text finds a match if and only if the pattern spans some stretch of it
(`Pattern.occursIn_iff`).

In a repetition the matches stand in different rounds. A match that has ended the last round that is
told apart starts that round again. This takes no rounds away from it, because what it reads next is
read in a round that does not have to be counted.
-/

set_option autoImplicit false

namespace Amalgamation

namespace Progress

@[simp] theorem first_ofParts (first second : Progress) : (ofParts first second).first = first := by
  cases first <;> cases second <;> rfl

@[simp] theorem second_ofParts (first second : Progress) :
    (ofParts first second).second = second := by
  cases first <;> cases second <;> rfl

theorem isIdle_iff {progress : Progress} : progress.isIdle ↔ progress = .idle := by
  cases progress <;> simp [isIdle]

end Progress

namespace Pattern

/-! ## Progress in rounds -/

/-- Matches inside of some rounds can come to the end of the repetition: from their position `i`,
the match in one of the rounds goes on to the end of this round and through the rounds after it. -/
def RoundsFinish (finishes : Progress → Nat → Nat → Prop) (step : Nat → Nat → Prop) (endless : Bool)
    (due : Nat) : Nat → Progress → Nat → Nat → Prop
  | 0, _, _, _ => False
  | count + 1, progress, i, k =>
    (∃ j, finishes progress.first i j ∧ Within step endless (due - 1) count j k) ∨
      RoundsFinish finishes step endless (due - 1) count progress.second i k

section Rounds

variable {step : Nat → Nat → Prop} {finishes : Progress → Nat → Nat → Prop}
  {endless skippable : Bool} {ended : Progress → Bool} {due count i k : Nat} {progress : Progress}

theorem not_roundsFinish_idle (idle : ∀ i j, ¬finishes .idle i j) :
    ¬RoundsFinish finishes step endless due count .idle i k := by
  induction count generalizing due with
  | zero => exact id
  | succ count ih =>
    rintro (⟨j, inside, -⟩ | later)
    · exact idle _ _ inside
    · exact ih later

theorem RoundsFinish.le (forward : ∀ i j, step i j → i ≤ j)
    (goesOn : ∀ progress i j, finishes progress i j → i ≤ j)
    (finish : RoundsFinish finishes step endless due count progress i k) : i ≤ k := by
  induction count generalizing due progress with
  | zero => exact finish.elim
  | succ count ih =>
    rcases finish with ⟨j, inside, rest⟩ | later
    · exact Nat.le_trans (goesOn _ _ _ inside) (rest.le forward)
    · exact ih later

theorem RoundsFinish.le_length {length : Nat} (bounded : ∀ i j, step i j → i ≤ length → j ≤ length)
    (stays : ∀ progress i j, finishes progress i j → i ≤ length → j ≤ length)
    (finish : RoundsFinish finishes step endless due count progress i k) (inside : i ≤ length) :
    k ≤ length := by
  induction count generalizing due progress with
  | zero => exact finish.elim
  | succ count ih =>
    rcases finish with ⟨j, first, _, -, -, rest⟩ | later
    · exact rest.le_length bounded (stays _ _ _ first inside)
    · exact ih later

/-- **Where rounds have come to the end of a repetition**, some match can end at once. -/
theorem roundsEnded_iff (forward : ∀ i j, step i j → i ≤ j)
    (goesOn : ∀ progress i j, finishes progress i j → i ≤ j)
    (idle : ∀ i j, ¬finishes .idle i j) (ends : ∀ progress, ended progress ↔ finishes progress i i)
    (skips : skippable ↔ step i i) (enough : due ≤ count) :
    roundsEnded ended skippable due count progress ↔
      RoundsFinish finishes step endless due count progress i i := by
  induction count generalizing due progress with
  | zero => simp [roundsEnded, RoundsFinish]
  | succ count ih =>
    unfold roundsEnded RoundsFinish
    split
    · next nothing =>
      obtain rfl := Progress.isIdle_iff.mp nothing
      have never : ¬RoundsFinish finishes step endless due (count + 1) .idle i i :=
        not_roundsFinish_idle idle
      exact iff_of_false Bool.false_ne_true never
    · rw [Bool.or_eq_true, Bool.and_eq_true, Bool.or_eq_true, decide_eq_true_eq, ends, skips,
        ih (by omega)]
      refine or_congr_left ?_
      constructor
      · rintro ⟨inside, rest⟩
        refine ⟨i, inside, (within_self_iff forward (by omega)).mpr (rest.imp_left (by omega))⟩
      · rintro ⟨j, inside, rest⟩
        obtain rfl := Nat.le_antisymm (goesOn _ _ _ inside) (rest.le forward)
        exact ⟨inside, ((within_self_iff forward (by omega)).mp rest).imp_left (by omega)⟩

/-- A match that is taken over a character has read something before the end of the round. -/
theorem exists_advance_iff {advance : Bool → Progress → Progress} {enters : Bool}
    (goesOn : ∀ progress i j, finishes progress i j → i ≤ j)
    (advances : ∀ enters progress j, i < j →
      (finishes (advance enters progress) (i + 1) j ↔ finishes progress i j ∨ enters ∧ step i j))
    {reaches : Nat → Prop} :
    (∃ j, finishes (advance enters progress) (i + 1) j ∧ reaches j) ↔
      (∃ j, i < j ∧ finishes progress i j ∧ reaches j) ∨
        enters ∧ ∃ j, i < j ∧ step i j ∧ reaches j := by
  constructor
  · rintro ⟨j, inside, rest⟩
    have moving : i < j := goesOn _ _ _ inside
    rcases (advances enters progress j moving).mp inside with old | ⟨entered, first⟩
    · exact .inl ⟨j, moving, old, rest⟩
    · exact .inr ⟨entered, j, moving, first, rest⟩
  · rintro (⟨j, moving, old, rest⟩ | ⟨entered, j, moving, first, rest⟩)
    · exact ⟨j, (advances enters progress j moving).mpr (.inl old), rest⟩
    · exact ⟨j, (advances enters progress j moving).mpr (.inr ⟨entered, first⟩), rest⟩

/-- **Rounds over a character.** What can come to the end of the repetition later on is what could
before, and the match that begins here. -/
theorem roundsFinish_advanceRounds {advance : Bool → Progress → Progress} {enters : Bool}
    (forward : ∀ i j, step i j → i ≤ j)
    (goesOn : ∀ progress i j, finishes progress i j → i ≤ j)
    (idle : ∀ i j, ¬finishes .idle i j) (ends : ∀ progress, ended progress ↔ finishes progress i i)
    (skips : skippable ↔ step i i)
    (advances : ∀ enters progress j, i < j →
      (finishes (advance enters progress) (i + 1) j ↔ finishes progress i j ∨ enters ∧ step i j))
    (enough : due ≤ count) (filled : endless → 0 < count) (later : i < k) :
    RoundsFinish finishes step endless due count
        (advanceRounds advance ended skippable endless due count enters progress) (i + 1) k ↔
      RoundsFinish finishes step endless due count progress i k ∨
        enters ∧ Within step endless due count i k := by
  induction count generalizing due enters progress with
  | zero =>
    refine iff_of_false id ?_
    rintro (⟨⟨⟩⟩ | ⟨-, n, -, allowed, rounds⟩)
    have none : n ≤ 0 := allowed.resolve_left fun endless => absurd (filled endless) (by omega)
    obtain rfl := Nat.le_zero.mp none
    cases rounds
    exact Nat.lt_irrefl _ later
  | succ count ih =>
    unfold advanceRounds
    split
    · next nothing =>
      obtain ⟨out, unused⟩ := Bool.and_eq_true_iff.mp nothing
      obtain rfl := Progress.isIdle_iff.mp unused
      have never : ∀ i, ¬RoundsFinish finishes step endless due (count + 1) .idle i k :=
        fun _ => not_roundsFinish_idle idle
      refine iff_of_false (never _) (not_or.mpr ⟨never _, fun entered => ?_⟩)
      simp [entered.1] at out
    · rw [RoundsFinish, RoundsFinish, Progress.first_ofParts, Progress.second_ofParts,
        exists_advance_iff goesOn advances, exists_moving_iff (goesOn progress.first i)]
      by_cases last : endless ∧ count = 0
      · -- The round that ends starts again.
        obtain ⟨rfl, rfl⟩ := last
        have few : due - 1 = 0 := by omega
        have again : Within step true 0 0 i k ↔
            ∃ j, i < j ∧ step i j ∧ Within step true 0 0 j k :=
          within_endless_iff forward (Nat.zero_le 1) later
        have fresh : Within step true due 1 i k ↔
            ∃ j, i < j ∧ step i j ∧ Within step true 0 0 j k :=
          within_endless_iff forward enough later
        rw [few, again, fresh, Bool.true_and, decide_eq_true rfl, Bool.true_and, Bool.or_eq_true,
          ends]
        -- What is left are the same cases on both sides.
        simp only [RoundsFinish, or_and_right, or_assoc, or_comm, or_left_comm]
      · have once : (endless && decide (count = 0)) = false := by simpa using last
        rw [once, Bool.false_and, Bool.or_false, within_succ_iff forward later,
          ih (by omega) (by grind)]
        simp only [Bool.or_eq_true, Bool.and_eq_true, ends, skips, decide_eq_true_eq, or_and_right,
          and_or_left, and_assoc, or_assoc, or_comm, or_left_comm]

end Rounds

/-! ## Progress -/

section Progress

variable {text : Text} {pattern : Pattern} {progress : Progress} {i j : Nat} {c : Char}

/-- Matches inside of the pattern can come to the end of it: from their position `i`, one of them
goes on to the position `j`. -/
def Finishes (text : Text) : Pattern → Progress → Nat → Nat → Prop
  | .nothing, _, _, _ => False
  | .one _, progress, i, j => progress ≠ .idle ∧ i = j
  | .here _, _, _, _ => False
  | .sequence first second, progress, i, k =>
    (∃ j, Finishes text first progress.first i j ∧ Spans text second j k) ∨
      Finishes text second progress.second i k
  | .choice first second, progress, i, j =>
    Finishes text first progress.first i j ∨ Finishes text second progress.second i j
  | .repetition body least most, progress, i, j =>
    RoundsFinish (fun progress i j => Finishes text body progress i j) (Spans text body)
      most.isNone least (roundCount least most) progress i j

theorem not_finishes_idle : ¬Finishes text pattern .idle i j := by
  induction pattern generalizing i j with
  | nothing => exact id
  | one set => exact fun finish => finish.1 rfl
  | here anchor => exact id
  | sequence first second ih ih' =>
    rintro (⟨_, before, -⟩ | behind)
    · exact ih before
    · exact ih' behind
  | choice first second ih ih' => exact not_or.mpr ⟨ih, ih'⟩
  | repetition body least most ih => exact not_roundsFinish_idle fun _ _ => ih

theorem Finishes.le (finish : Finishes text pattern progress i j) : i ≤ j := by
  induction pattern generalizing progress i j with
  | nothing => exact finish.elim
  | one set => exact Nat.le_of_eq finish.2
  | here anchor => exact finish.elim
  | sequence first second ih ih' =>
    rcases finish with ⟨_, before, rest⟩ | behind
    · exact Nat.le_trans (ih before) rest.le
    · exact ih' behind
  | choice first second ih ih' => exact finish.elim ih ih'
  | repetition body least most ih =>
    exact RoundsFinish.le (fun _ _ => Spans.le) (fun _ _ _ => ih) finish

/-- A match that stands in the text ends in it. -/
theorem Finishes.le_length (finish : Finishes text pattern progress i j)
    (inside : i ≤ text.length) : j ≤ text.length := by
  induction pattern generalizing progress i j with
  | nothing => exact finish.elim
  | one set => exact finish.2 ▸ inside
  | here anchor => exact finish.elim
  | sequence first second ih ih' =>
    rcases finish with ⟨_, before, rest⟩ | behind
    · exact rest.le_length (ih before inside)
    · exact ih' behind inside
  | choice first second ih ih' =>
    exact finish.elim (fun finish => ih finish inside) (fun finish => ih' finish inside)
  | repetition body least most ih =>
    exact RoundsFinish.le_length (fun _ _ => Spans.le_length) (fun _ _ _ => ih) finish inside

/-- **Where a match has come to the end of the pattern**, some match can end at once. -/
theorem isEnded_iff (ordered : pattern.Ordered) :
    pattern.isEnded (placeAt text i) progress ↔ Finishes text pattern progress i i := by
  induction pattern generalizing progress with
  | nothing => simp [isEnded, Finishes]
  | one set => simp [isEnded, Finishes, ← Progress.isIdle_iff]
  | here anchor => simp [isEnded, Finishes]
  | sequence first second ih ih' =>
    rw [isEnded, Bool.or_eq_true, Bool.and_eq_true, ih ordered.1, ih' ordered.2,
      matchesEmpty_iff ordered.2]
    refine or_congr_left ?_
    constructor
    · rintro ⟨before, rest⟩
      exact ⟨i, before, rest⟩
    · rintro ⟨j, before, rest⟩
      obtain rfl := Nat.le_antisymm before.le rest.le
      exact ⟨before, rest⟩
  | choice first second ih ih' =>
    rw [isEnded, Bool.or_eq_true, ih ordered.1, ih' ordered.2, Finishes]
  | repetition body least most ih =>
    exact roundsEnded_iff (fun _ _ => Spans.le) (fun _ _ _ => Finishes.le)
      (fun _ _ => not_finishes_idle) (fun _ => ih ordered.1)
      (matchesEmpty_iff ordered.1) (le_roundCount ordered.2)

theorem isDone_iff (ordered : pattern.Ordered) {enters : Bool} :
    pattern.isDone (placeAt text i) enters progress ↔
      Finishes text pattern progress i i ∨ enters ∧ Spans text pattern i i := by
  rw [isDone, Bool.or_eq_true, Bool.and_eq_true, isEnded_iff ordered, matchesEmpty_iff ordered]

/-- Where no match stands inside of the pattern and none begins, none does later on. -/
theorem finishes_unless_idle {next : Progress} {enters : Bool} {begins : Prop}
    (moved : Finishes text pattern next (i + 1) j ↔
      Finishes text pattern progress i j ∨ enters ∧ begins) :
    Finishes text pattern (if !enters && progress.isIdle then .idle else next) (i + 1) j ↔
      Finishes text pattern progress i j ∨ enters ∧ begins := by
  split
  · next nothing =>
    obtain ⟨out, unused⟩ := Bool.and_eq_true_iff.mp nothing
    obtain rfl := Progress.isIdle_iff.mp unused
    refine iff_of_false not_finishes_idle (not_or.mpr ⟨not_finishes_idle, fun entered => ?_⟩)
    simp [entered.1] at out
  · exact moved

/-- **Matches over a character.** What can come to the end of the pattern later on is what could
before, and the match that begins here. -/
theorem finishes_advance {enters : Bool} (ordered : pattern.Ordered) (there : text[i]? = some c)
    (later : i < j) :
    Finishes text pattern (pattern.advance (placeAt text i) c enters progress) (i + 1) j ↔
      Finishes text pattern progress i j ∨ enters ∧ Spans text pattern i j := by
  induction pattern generalizing progress enters j with
  | nothing =>
    refine finishes_unless_idle (iff_of_false id ?_)
    rintro (⟨⟨⟩⟩ | ⟨-, same⟩)
    exact Nat.ne_of_lt later same
  | one set =>
    refine finishes_unless_idle ?_
    have reads : (if enters && set.holds c then Progress.read else .idle) ≠ .idle ↔
        enters ∧ set.holds c := by
      split <;> simp_all
    have old : ¬Finishes text (.one set) progress i j :=
      fun finish => Nat.ne_of_lt later finish.2
    have begun : Spans text (.one set) i j ↔ set.holds c ∧ i + 1 = j := by
      constructor
      · rintro ⟨rfl, _, same, held⟩
        obtain rfl := Option.some.inj (there.symm.trans same)
        exact ⟨held, rfl⟩
      · rintro ⟨held, rfl⟩
        exact ⟨rfl, c, there, held⟩
    rw [or_iff_right old, Finishes, reads, begun, and_assoc]
  | here anchor =>
    refine finishes_unless_idle (iff_of_false id ?_)
    rintro (⟨⟨⟩⟩ | ⟨-, same, -⟩)
    exact Nat.ne_of_lt later same
  | sequence first second ih ih' =>
    refine finishes_unless_idle ?_
    have goesOn : ∀ progress i j, Finishes text first progress i j → i ≤ j :=
      fun _ _ _ => Finishes.le
    have begun : (∃ m, Spans text first i m ∧ Spans text second m j) ↔
        (∃ m, i < m ∧ Spans text first i m ∧ Spans text second m j) ∨
          Spans text first i i ∧ Spans text second i j :=
      exists_moving_iff fun _ => Spans.le
    rw [Finishes, Finishes, Progress.first_ofParts, Progress.second_ofParts,
      exists_advance_iff goesOn fun _ _ _ later => ih ordered.1 later,
      exists_moving_iff (goesOn progress.first i), ih' ordered.2 later, isDone_iff ordered.1, Spans,
      begun]
    simp only [or_and_right, and_or_left, and_assoc, or_assoc, or_comm, or_left_comm]
  | choice first second ih ih' =>
    refine finishes_unless_idle ?_
    rw [Finishes, Finishes, Progress.first_ofParts, Progress.second_ofParts, ih ordered.1 later,
      ih' ordered.2 later, Spans, and_or_left]
    simp only [or_assoc, or_comm, or_left_comm]
  | repetition body least most ih =>
    refine finishes_unless_idle ?_
    rw [spans_repetition_iff]
    refine roundsFinish_advanceRounds (fun _ _ => Spans.le) (fun _ _ _ => Finishes.le)
      (fun _ _ => not_finishes_idle) (fun _ => isEnded_iff ordered.1) (matchesEmpty_iff ordered.1)
      (fun _ _ _ later => ih ordered.1 later) (le_roundCount ordered.2) (fun endless => ?_) later
    obtain rfl := Option.isNone_iff_eq_none.mp endless
    exact Nat.lt_of_lt_of_le Nat.zero_lt_one (Nat.le_max_right least 1)

end Progress

/-! ## Searches -/

section Searches

variable {text : Text} {pattern : Pattern}

/-- **What a search finds** from a position on: the end of a match that stands inside of the
pattern, or of one that begins there or later. -/
theorem search_iff (ordered : pattern.Ordered) {progress : Progress} {i : Nat}
    (inside : i ≤ text.length) :
    pattern.search (text.take i).getLast? progress (text.drop i) ↔
      (∃ j, Finishes text pattern progress i j) ∨
        ∃ k j, i ≤ k ∧ k ≤ text.length ∧ Spans text pattern k j := by
  induction rest : text.drop i generalizing progress i with
  | nil =>
    obtain rfl := Nat.le_antisymm inside (List.drop_eq_nil_iff.mp rest)
    have place : placeAt text text.length = ⟨(text.take text.length).getLast?, none⟩ := by
      rw [placeAt, List.getElem?_eq_none (Nat.le_refl _)]
    rw [search, ← place, isDone_iff ordered]
    constructor
    · rintro (finish | ⟨-, spans⟩)
      · exact .inl ⟨_, finish⟩
      · exact .inr ⟨_, _, inside, Nat.le_refl _, spans⟩
    · rintro (⟨j, finish⟩ | ⟨k, j, behind, within, spans⟩)
      · obtain rfl := Nat.le_antisymm (finish.le_length inside) finish.le
        exact .inl finish
      · obtain rfl := Nat.le_antisymm behind within
        obtain rfl := Nat.le_antisymm (spans.le_length within) spans.le
        exact .inr ⟨rfl, spans⟩
  | cons c later ih =>
    have there : text[i]? = some c := by
      rw [← Nat.add_zero i, ← List.getElem?_drop, rest]
      rfl
    have behind : text.drop (i + 1) = later := by
      rw [← List.tail_drop, rest]
      rfl
    have more : i + 1 ≤ text.length := (List.getElem?_eq_some_iff.mp there).1
    have place : placeAt text i = ⟨(text.take i).getLast?, some c⟩ := by rw [placeAt, there]
    have last : some c = (text.take (i + 1)).getLast? := by
      rw [List.take_add_one, there, Option.toList_some, List.getLast?_concat]
    rw [search, ← place, Bool.or_eq_true, isDone_iff ordered, last, ih more behind]
    have moves : ∀ {j}, i < j →
        (Finishes text pattern (pattern.advance (placeAt text i) c true progress) (i + 1) j ↔
          Finishes text pattern progress i j ∨ true ∧ Spans text pattern i j) :=
      finishes_advance ordered there
    constructor
    · rintro ((finish | ⟨-, spans⟩) | ⟨j, finish⟩ | ⟨k, j, further, within, spans⟩)
      · exact .inl ⟨i, finish⟩
      · exact .inr ⟨i, i, Nat.le_refl i, inside, spans⟩
      · rcases (moves finish.le).mp finish with old | ⟨-, spans⟩
        · exact .inl ⟨j, old⟩
        · exact .inr ⟨i, j, Nat.le_refl i, inside, spans⟩
      · exact .inr ⟨k, j, Nat.le_of_succ_le further, within, spans⟩
    · rintro (⟨j, finish⟩ | ⟨k, j, further, within, spans⟩)
      · rcases Nat.lt_or_eq_of_le finish.le with moving | rfl
        · exact .inr (.inl ⟨j, (moves moving).mpr (.inl finish)⟩)
        · exact .inl (.inl finish)
      · rcases Nat.lt_or_eq_of_le further with beyond | rfl
        · exact .inr (.inr ⟨k, j, beyond, within, spans⟩)
        · rcases Nat.lt_or_eq_of_le spans.le with moving | rfl
          · exact .inr (.inl ⟨j, (moves moving).mpr (.inr ⟨rfl, spans⟩)⟩)
          · exact .inl (.inr ⟨rfl, spans⟩)

/-- **A pattern occurs in a text** if it spans a stretch of the text. -/
theorem occursIn_iff (ordered : pattern.Ordered) :
    pattern.occursIn text ↔ ∃ i j, i ≤ text.length ∧ Spans text pattern i j := by
  refine (search_iff ordered (Nat.zero_le _)).trans ⟨?_, ?_⟩
  · rintro (⟨j, finish⟩ | ⟨i, j, -, within, spans⟩)
    · exact absurd finish not_finishes_idle
    · exact ⟨i, j, within, spans⟩
  · rintro ⟨i, j, within, spans⟩
    exact .inr ⟨i, j, Nat.zero_le i, within, spans⟩

end Searches

end Pattern

end Amalgamation

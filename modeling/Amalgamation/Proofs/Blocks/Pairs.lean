import Amalgamation.Proofs.Blocks.Boundary
import Amalgamation.Proofs.Source.Selections

/-!
# Blocks that are kept or dropped whole

The filter does not look at blocks other than feature blocks; it keeps or drops their lines like any
other line. Nevertheless it never keeps the opener of such a block and drops its `#endif`, or the
other way round, if it goes through a file in which the check finds nothing.

The check pairs the two lines (`Checker.plainPairs`). Under the opener on its stack lie the blocks
that were open there, and when the `#endif` takes the opener off the stack, the same blocks are
left. One of them at most is a feature block, and it is the open block of the filter (`Agrees`). So
the same condition stands around both lines (`Checker.paired_readings`), and they are written both
or neither (`Checker.emitted_pair`).
-/

set_option autoImplicit false

namespace Amalgamation

/-! ## Pairs of lines -/

/-- Where a block that is no feature block closes: the lines of its opener and of its `#endif`. -/
def Situation.plainPair? (situation : Situation) : Option (Nat × Nat) :=
  match situation.mark, situation.frames with
  | .close _, frame :: _ =>
    if frame.isFeature then none else some (frame.openedAt, situation.number)
  | _, _ => none

/-- The lines of opener and `#endif` of the blocks that are no feature blocks and are closed. -/
def Checker.plainPairs (checker : Checker) (lines : List Text) : List (Nat × Nat) :=
  (checker.visits 1 0 [] lines).filterMap fun visit =>
    (visit.situation checker.vocabulary).plainPair?

theorem Checker.plainPairs_eq (checker : Checker) (lines : List Text) :
    checker.plainPairs lines =
      (checker.situations [] (checker.vocabulary.marks 1 0 lines)).filterMap
        Situation.plainPair? := by
  rw [situations_eq, List.filterMap_map]
  rfl

/-! ## The block around a line -/

/-- The stack of the check tells the condition of the open block of the filter. -/
theorem Agrees.condition_eq {frames : List Frame} {block block' : Option Filter.OpenBlock}
    (agrees : Agrees frames block) (agrees' : Agrees frames block') :
    block.map Filter.OpenBlock.condition = block'.map Filter.OpenBlock.condition := by
  rw [Agrees] at agrees agrees'
  have same := agrees.symm.trans agrees'
  cases block with
  | none => cases block' with
    | none => rfl
    | some _ => cases same
  | some _ => cases block' with
    | none => cases same
    | some _ => simpa using same

/-- A block that is no feature block makes no difference to the open block of the filter. -/
theorem agrees_cons_of_plain {frame : Frame} {frames : List Frame}
    {block : Option Filter.OpenBlock} (plain : frame.isFeature = false) :
    Agrees (frame :: frames) block ↔ Agrees frames block := by
  have none : frame.feature? = none := by
    rw [Frame.isFeature_eq] at plain
    simpa using plain
  rw [Agrees, Agrees, List.filterMap_cons, none]

/-! ## Readings along marks -/

/-- Whether a mark is that of a block that is no feature block, or may be as far as its comment
goes. -/
def Mark.isPlain (vocabulary : Vocabulary) : Mark → Bool
  | .openPlain _ _ => true
  | .close comment => comment.all fun text => !vocabulary.mentions text
  | _ => false

namespace Filter

variable {filter : Filter} {file line : Text} {number taken : Nat} {block next : Option OpenBlock}
  {reading : Reading} {following : List Text}

/-- An empty line is no directive. -/
theorem classify_nil (vocabulary : Vocabulary) : Directive.classify vocabulary [] = .code :=
  Directive.classify_of_afterSign_eq_none vocabulary rfl

/-- **Reading follows the marks**: a line that is read has the effect of its mark on the open block,
and a plain line of a block is kept or dropped with the open block. -/
theorem read_along (plainFile : filter.isToggleFile file = false)
    (done : filter.read file number line following block = .ok (reading, taken, next))
    {mark : Mark} {lines : Nat}
    (marked : (Directive.classify filter.vocabulary line).mark filter.vocabulary following =
      (mark, lines)) :
    taken = lines ∧ filter.blockAfter file number block mark = .ok next ∧
      (mark.isPlain filter.vocabulary →
        line ≠ [] ∧ reading = .plain number line (block.map OpenBlock.condition)) := by
  rcases read_eq_ok done with ⟨text, state, condition, opened, rfl, rfl⟩ |
    ⟨text, state, comment, closed, rfl, rfl⟩ | ⟨condition, comment, read, rfl, rfl⟩
  · rw [Directive.mark_of_featureCondition condition] at marked
    obtain ⟨rfl, rfl⟩ := Prod.mk.inj marked
    refine ⟨rfl, map_eq_ok.mpr ⟨state, opened, rfl⟩, fun absurd => ?_⟩
    cases absurd
  · obtain ⟨closes, speaks⟩ := Directive.mark_of_featureComment comment
    rw [closes] at marked
    obtain ⟨rfl, rfl⟩ := Prod.mk.inj marked
    refine ⟨rfl, ?_, fun absurd => ?_⟩
    · rw [blockAfter, if_pos speaks]
      exact map_eq_ok.mpr ⟨state, closed, rfl⟩
    · simp [Mark.isPlain, speaks] at absurd
  · have takes := Directive.taken_eq_zero condition comment
    obtain ⟨opens, closes⟩ := Directive.mark_silent condition comment
    rw [marked] at takes opens closes
    refine ⟨takes.symm, blockAfter_eq_self opens closes, fun plain => ⟨?_, ?_⟩⟩
    · rintro rfl
      rw [classify_nil] at marked
      obtain ⟨rfl, -⟩ := Prod.mk.inj marked
      cases plain
    · rcases readPlain_eq_ok read with ⟨_, _, -, inToggleFile, -⟩ | ⟨-, plain⟩
      · rw [plainFile] at inToggleFile
        cases inToggleFile
      · exact plain

/-! ## The number of a line -/

variable {lines : List Text} {readings : List Reading} {lineNumber : Nat}
  {condition condition' : Option FeatureExpr} {line' : Text}

theorem number_of_read
    (done : filter.read file number line following block =
      .ok (.plain lineNumber line' condition, taken, next)) : lineNumber = number := by
  rcases read_eq_ok done with ⟨_, _, -, -, absurd, -⟩ | ⟨_, _, -, -, absurd, -⟩ | ⟨-, -, read, -, -⟩
  · cases absurd
  · cases absurd
  · rcases readPlain_eq_ok read with ⟨_, _, -, -, absurd⟩ | ⟨-, same⟩
    · cases absurd
    · exact (Reading.plain.inj same).1

theorem number_le_of_mem (done : filter.readings file number taken block lines = .ok readings)
    (member : .plain lineNumber line condition ∈ readings) : number ≤ lineNumber := by
  induction lines generalizing number taken block readings with
  | nil =>
    obtain rfl := readings_nil done
    cases member
  | cons first following ih =>
    cases taken with
    | succ taken => exact (Nat.le_succ number).trans (ih done member)
    | zero =>
      obtain ⟨reading, taken, next, behind, read, done', rfl⟩ := readings_cons done
      rcases List.mem_cons.mp member with rfl | later
      · exact (number_of_read read).ge
      · exact (Nat.le_succ number).trans (ih done' later)

/-- **A line is read once**, so one condition stands around it. -/
theorem condition_unique (done : filter.readings file number taken block lines = .ok readings)
    (member : .plain lineNumber line condition ∈ readings)
    (member' : .plain lineNumber line' condition' ∈ readings) : condition = condition' := by
  induction lines generalizing number taken block readings with
  | nil =>
    obtain rfl := readings_nil done
    cases member
  | cons first following ih =>
    cases taken with
    | succ taken => exact ih done member member'
    | zero =>
      obtain ⟨reading, taken, next, behind, read, done', rfl⟩ := readings_cons done
      rcases List.mem_cons.mp member with rfl | later <;>
        rcases List.mem_cons.mp member' with same | later'
      · exact (Reading.plain.inj same).2.2.symm
      · have here := number_of_read read
        have after := number_le_of_mem done' later'
        omega
      · subst same
        have here := number_of_read read
        have after := number_le_of_mem done' later
        omega
      · exact ih done' later later'

/-- **A line that is not empty is written exactly if the condition around it holds.** -/
theorem mem_collapse_iff (done : filter.readings file number taken block lines = .ok readings)
    (member : .plain lineNumber line condition ∈ readings) (filled : line ≠ [])
    (selection : Selection) :
    (∃ written, (written, lineNumber) ∈
        collapse [] (readings.filterMap (Reading.kept selection))) ↔
      condition.all (·.holds selection) := by
  constructor
  · rintro ⟨written, listed⟩
    have kept := (collapse_sublist [] _).subset listed
    obtain ⟨reading, member', keeps⟩ := List.mem_filterMap.mp kept
    cases reading with
    | border | switch _ _ => cases keeps
    | plain number' line' condition' =>
      by_cases holds : condition'.all (·.holds selection)
      · rw [Reading.kept_of_holds number' line' holds] at keeps
        obtain ⟨rfl, rfl⟩ := Prod.mk.inj (Option.some.inj keeps)
        rw [condition_unique done member member']
        exact holds
      · rw [Reading.kept_of_not_holds number' line' holds] at keeps
        cases keeps
  · intro holds
    have keeps : (line, lineNumber) ∈ readings.filterMap (Reading.kept selection) :=
      List.mem_filterMap.mpr ⟨_, member, Reading.kept_of_holds lineNumber line holds⟩
    have full : (line, lineNumber) ∈
        (readings.filterMap (Reading.kept selection)).filter (·.1 ≠ []) :=
      List.mem_filter.mpr ⟨keeps, by simpa using filled⟩
    rw [← filter_collapse []] at full
    exact ⟨line, (List.mem_filter.mp full).1⟩

end Filter

/-! ## What stands around opener and `#endif` -/

/-- The same condition stands around two lines, and neither is empty. -/
def Paired (readings : List Reading) (pair : Nat × Nat) : Prop :=
  ∃ line line' condition, line ≠ [] ∧ line' ≠ [] ∧
    .plain pair.1 line condition ∈ readings ∧ .plain pair.2 line' condition ∈ readings

/-- Each opener on the stack that is none of a feature block was read with the condition of the
block that is open below it. -/
def Recorded (readings : List Reading) : List Frame → Prop
  | [] => True
  | frame :: below =>
    (frame.isFeature = false → ∃ line block, line ≠ [] ∧ Agrees below block ∧
      .plain frame.openedAt line (block.map Filter.OpenBlock.condition) ∈ readings) ∧
    Recorded readings below

theorem Recorded.mono {readings readings' : List Reading} {frames : List Frame}
    (recorded : Recorded readings frames) (more : readings ⊆ readings') :
    Recorded readings' frames := by
  induction frames with
  | nil => trivial
  | cons frame below ih =>
    refine ⟨fun plain => ?_, ih recorded.2⟩
    obtain ⟨line, block, filled, agrees, member⟩ := recorded.1 plain
    exact ⟨line, block, filled, agrees, more member⟩

theorem Recorded.tail {readings : List Reading} {frames : List Frame}
    (recorded : Recorded readings frames) : Recorded readings frames.tail := by
  cases frames with
  | nil => trivial
  | cons _ _ => exact recorded.2

namespace Checker

variable {checker : Checker} {enabled : Selection} {toggleFile file : Text} {frames : List Frame}
  {block next : Option Filter.OpenBlock} {number taken : Nat} {readings seen : List Reading}

/-- **One mark** keeps what is recorded of the stack, and where it closes a block that is no feature
block the same condition stands around both lines. -/
theorem recorded_step (leads : checker.vocabulary.Leads checker.catalog) {mark : Mark}
    (clean : checker.findingsAt number frames mark = []) (agrees : Agrees frames block)
    (feature : Situation.closesPlain checker.vocabulary ⟨number, mark, frames⟩ = false)
    (goes : (checker.filter enabled toggleFile).blockAfter file number block mark = .ok next)
    (reads : mark.isPlain checker.vocabulary → ∃ line, line ≠ [] ∧
      .plain number line (block.map Filter.OpenBlock.condition) ∈ readings)
    (recorded : Recorded readings frames) :
    Agrees (checker.advance number frames mark) next ∧
      Recorded readings (checker.advance number frames mark) ∧
      ∀ pair ∈ Situation.plainPair? ⟨number, mark, frames⟩, Paired readings pair := by
  have agrees' : Agrees (checker.advance number frames mark) next := by
    rcases agrees_step enabled toggleFile file leads clean agrees feature with
      ⟨next', goes', agrees'⟩ | ⟨-, openedAt, stops⟩
    · rw [goes] at goes'
      rwa [Except.ok.inj goes']
    · rw [goes] at stops
      cases stops
  have noPair : ∀ pair ∈ (none : Option (Nat × Nat)), Paired readings pair := by
    intro pair absurd
    cases absurd
  refine ⟨agrees', ?_⟩
  cases mark with
  | openFeature condition =>
    obtain ⟨parsed, -, frame⟩ := parse_of_openFeature clean
    refine ⟨⟨fun plain => ?_, recorded⟩, noPair⟩
    rw [frame] at plain
    cases plain
  | openPlain opener condition =>
    obtain ⟨line, filled, member⟩ := reads rfl
    refine ⟨⟨fun _ => ?_, recorded⟩, noPair⟩
    exact ⟨line, block, filled, agrees, member⟩
  | close comment =>
    refine ⟨recorded.tail, ?_⟩
    rintro ⟨opener, closer⟩ paired
    cases frames with
    | nil => cases paired
    | cons frame below =>
      by_cases plain : frame.isFeature
      · simp [Situation.plainPair?, plain] at paired
      · rw [Bool.not_eq_true] at plain
        obtain ⟨rfl, rfl⟩ : frame.openedAt = opener ∧ number = closer := by
          simpa [Situation.plainPair?, plain] using paired
        have silent : (Mark.close comment).isPlain checker.vocabulary := by
          cases comment with
          | none => rfl
          | some text => simpa [Situation.closesPlain, Mark.isPlain, plain] using feature
        obtain ⟨line', filled', closes⟩ := reads silent
        obtain ⟨line, below', filled, under, opens⟩ := recorded.1 plain
        -- The block around the opener is the one that is left when the opener is taken away.
        have same := under.condition_eq ((agrees_cons_of_plain plain).mp agrees)
        rw [same] at opens
        exact ⟨line, line', _, filled, filled', opens, closes⟩
  | other => exact ⟨recorded, noPair⟩

/-- **Along a clean file that the filter goes through**, the same condition stands around the opener
and the `#endif` of each block that is no feature block. -/
theorem paired_readings (leads : checker.vocabulary.Leads checker.catalog)
    (plainFile : (checker.filter enabled toggleFile).isToggleFile file = false) {lines : List Text}
    (clean : checker.findings frames (checker.vocabulary.marks number taken lines) = [])
    (agrees : Agrees frames block)
    (feature : ∀ situation ∈
      checker.situations frames (checker.vocabulary.marks number taken lines),
        situation.closesPlain checker.vocabulary = false)
    (recorded : Recorded seen frames)
    (done : (checker.filter enabled toggleFile).readings file number taken block lines =
      .ok readings) :
    ∀ situation ∈ checker.situations frames (checker.vocabulary.marks number taken lines),
      ∀ pair ∈ situation.plainPair?, Paired (seen ++ readings) pair := by
  induction lines generalizing number taken frames block seen readings with
  | nil => cases taken <;> exact List.forall_mem_nil _
  | cons line following ih =>
    cases taken with
    | succ taken => exact ih clean agrees feature recorded done
    | zero =>
      obtain ⟨reading, taken, next, behind, read, done', rfl⟩ := Filter.readings_cons done
      cases marked : (Directive.classify checker.vocabulary line).mark checker.vocabulary
          following with
      | mk mark lines =>
        obtain ⟨rfl, goes, plain⟩ := Filter.read_along plainFile read marked
        simp only [Vocabulary.marks, marked, findings, situations] at clean feature ⊢
        obtain ⟨here, rest⟩ := List.append_eq_nil_iff.mp clean
        obtain ⟨now, later⟩ := List.forall_mem_cons.mp feature
        have recorded := recorded.mono (List.subset_append_left seen [reading])
        have reads : mark.isPlain checker.vocabulary → ∃ line, line ≠ [] ∧
            .plain number line (block.map Filter.OpenBlock.condition) ∈ seen ++ [reading] := by
          intro silent
          obtain ⟨filled, rfl⟩ := plain silent
          exact ⟨line, filled, List.mem_append_right seen List.mem_cons_self⟩
        obtain ⟨agrees, recorded, paired⟩ :=
          recorded_step leads (List.map_eq_nil_iff.mp here) agrees now goes reads recorded
        have all : seen ++ reading :: behind = seen ++ [reading] ++ behind :=
          (List.append_assoc seen [reading] behind).symm
        rw [all]
        intro situation member pair closes
        rcases List.mem_cons.mp member with rfl | member
        · obtain ⟨line, line', condition, filled, filled', opener, closer⟩ := paired pair closes
          exact ⟨line, line', condition, filled, filled', List.mem_append_left behind opener,
            List.mem_append_left behind closer⟩
        · exact ih rest agrees later recorded done' situation member pair closes

/-! ## Opener and `#endif` are written both or neither -/

/-- **A block is kept or dropped whole.** In a file in which the check finds nothing and which the
filter goes through, the opener of a block that is no feature block is written exactly if its
`#endif` is. -/
theorem emitted_pair {config : Config} {text reported : Text} {output : List Text}
    (usable : ofConfig config = .ok checker)
    (plainFile : (checker.filter enabled toggleFile).isToggleFile file = false)
    (clean : (checker.checkText reported text).isClean) :
    ∀ lines ∈ [Text.lines text, Text.trimmedLines text],
      (checker.filter enabled toggleFile).filterLines file lines = .ok output →
        ∃ emitted, (checker.filter enabled toggleFile).emitted enabled file lines = .ok emitted ∧
          output = Filter.placed file [] emitted ∧ emitted.Sublist (lines.zipIdx 1) ∧
          ∀ opener closer, (opener, closer) ∈ checker.plainPairs (Text.lines text) →
            ((∃ line, (line, opener) ∈ emitted) ↔ ∃ line, (line, closer) ∈ emitted) := by
  intro lines member done
  obtain ⟨-, leads⟩ := ofConfig_eq_ok usable
  have marks : checker.vocabulary.marks 1 0 lines =
      checker.vocabulary.marks 1 0 (Text.lines text) :=
    marks_of_mem checker enabled toggleFile member
  have passed : (checker.filter enabled toggleFile).lastBlock file none
      (checker.vocabulary.marks 1 0 lines) = .ok none :=
    (Filter.filterLines_eq_ok plainFile).mp ⟨output, done⟩
  obtain ⟨emitted, found, wrote, listed⟩ := Filter.filterLines_eq_placed enabled plainFile done
  refine ⟨emitted, found, wrote, listed, fun opener closer paired => ?_⟩
  obtain ⟨readings, read, rfl⟩ := map_eq_ok.mp found
  have faultless := (isClean_checkText_iff checker reported text).mp clean
  rw [plainPairs_eq] at paired
  obtain ⟨situation, member, closes⟩ := List.mem_filterMap.mp paired
  have feature : ∀ situation ∈ checker.situations [] (checker.vocabulary.marks 1 0 lines),
      situation.closesPlain checker.vocabulary = false := by
    rw [marks] at passed ⊢
    obtain ⟨-, flat⟩ := eq_none_of_lastBlock leads clean passed
    rw [situations_eq]
    intro situation member
    obtain ⟨visit, visited, rfl⟩ := List.mem_map.mp member
    rw [Visit.closesPlain_situation]
    exact (flat visit visited).2
  rw [← marks] at faultless member
  have start : Agrees [] none := rfl
  have nothing : Recorded [] [] := trivial
  obtain ⟨line, line', condition, filled, filled', opens, ends⟩ :=
    paired_readings leads plainFile faultless start feature nothing read situation member _ closes
  rw [Filter.mem_collapse_iff read opens filled, Filter.mem_collapse_iff read ends filled']

/-- With no feature on, the block in front of the feature block is kept and the one inside it is
dropped, each with both of its lines. -/
theorem emitted_pair_singleBlocks :
    twoFeatures.plainPairs (Text.lines Text.singleBlocks) = [(1, 2), (4, 5)] ∧
      ∃ output emitted,
        (twoFeatures.filter .empty ['t']).filterLines ['x'] (Text.lines Text.singleBlocks) =
          .ok output ∧
        (twoFeatures.filter .empty ['t']).emitted .empty ['x'] (Text.lines Text.singleBlocks) =
          .ok emitted ∧
        emitted.map Prod.snd = [1, 2] ∧
        ((∃ line, (line, 1) ∈ emitted) ↔ ∃ line, (line, 2) ∈ emitted) ∧
        ((∃ line, (line, 4) ∈ emitted) ↔ ∃ line, (line, 5) ∈ emitted) := by
  have pairs : twoFeatures.plainPairs (Text.lines Text.singleBlocks) = [(1, 2), (4, 5)] := by
    decide +kernel
  have clean : (twoFeatures.checkText [] Text.singleBlocks).isClean := by decide +kernel
  have plainFile : (twoFeatures.filter .empty ['t']).isToggleFile ['x'] = false := by
    decide +kernel
  have done : (twoFeatures.filter .empty ['t']).filterLines ['x'] (Text.lines Text.singleBlocks) =
      .ok (Filter.placed ['x'] [] [("#ifdef X".toList, 1), ("#endif // X".toList, 2)]) := by
    decide +kernel
  have listed : (twoFeatures.filter .empty ['t']).emitted .empty ['x']
      (Text.lines Text.singleBlocks) = .ok [("#ifdef X".toList, 1), ("#endif // X".toList, 2)] := by
    decide +kernel
  obtain ⟨emitted, found, -, -, both⟩ :=
    emitted_pair ofConfig_twoFeatures plainFile clean _ (.head _) done
  have numbers : emitted.map Prod.snd = [1, 2] := by
    obtain rfl := Except.ok.inj (found.symm.trans listed)
    rfl
  refine ⟨pairs, _, emitted, done, found, numbers, both 1 2 ?_, both 4 5 ?_⟩
  · rw [pairs]
    exact List.mem_cons_self
  · rw [pairs]
    exact List.mem_cons_of_mem _ List.mem_cons_self

end Checker

end Amalgamation

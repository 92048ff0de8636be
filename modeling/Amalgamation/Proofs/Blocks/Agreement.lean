import Amalgamation.Proofs.Blocks.Scans

/-!
# What a clean check means for the filter

The check keeps all open blocks on a stack and pairs every `#endif` with the nearest one; the filter
keeps one feature block and looks at feature lines alone. On a file in which the check finds nothing
they differ in two situations only: a feature block opens inside another one (`Visit.nestsFeature`),
or a comment that speaks of features closes a block that is no feature block (`Visit.closesPlain`).

While neither occurs the open block of the filter is the one feature block on the stack (`Agrees`),
and the filter does not fail (`Checker.lastBlock_of_clean`). Conversely, let the filter go through.
At each `#endif` that closes another block with a feature comment it loses a feature block that the
check still has open, and the two may come together again when a block opens. But a filter opens a
block only when none is open, so what it lost is missing at the end (`Checker.countP_closesPlain`).
-/

set_option autoImplicit false

namespace Amalgamation

/-! ## The lines that a check visits -/

/-- A line at which a check stops, with the lines that follow it and the blocks that are open. -/
structure Visit where
  number : Nat
  line : Text
  following : List Text
  frames : List Frame
  deriving DecidableEq, Repr

/-- The lines at which a check stops. -/
def Checker.visits (checker : Checker) : (number taken : Nat) → List Frame → List Text → List Visit
  | _, _, _, [] => []
  | number, taken + 1, frames, _ :: following =>
    checker.visits (number + 1) taken frames following
  | number, 0, frames, line :: following =>
    let effect := checker.step number line following frames
    ⟨number, line, following, frames⟩ ::
      checker.visits (number + 1) effect.taken effect.frames following

namespace Visit

/-- Whether a feature block opens inside another one. -/
def nestsFeature (vocabulary : Vocabulary) (visit : Visit) : Bool :=
  ((Directive.classify vocabulary visit.line).featureCondition vocabulary visit.following).isSome &&
    visit.frames.any Frame.isFeature

/-- Whether a comment that speaks of features closes a block that is no feature block. -/
def closesPlain (vocabulary : Vocabulary) (visit : Visit) : Bool :=
  ((Directive.classify vocabulary visit.line).featureComment vocabulary visit.following).isSome &&
    visit.frames.head?.any fun frame => !frame.isFeature

/-- The situation at a visited line. -/
def situation (vocabulary : Vocabulary) (visit : Visit) : Situation :=
  ⟨visit.number,
    ((Directive.classify vocabulary visit.line).mark vocabulary visit.following).1, visit.frames⟩

theorem nestsFeature_situation (vocabulary : Vocabulary) (visit : Visit) :
    (visit.situation vocabulary).nestsFeature = visit.nestsFeature vocabulary := by
  unfold nestsFeature situation Situation.nestsFeature
  cases Directive.classify vocabulary visit.line with
  | opening opener condition =>
    cases feature : (Directive.opening opener condition).featureCondition vocabulary
        visit.following <;> simp [Directive.mark, feature]
  | closing comment => rfl
  | inclusion _ | bind _ | unbind | toggle _ _ | code => rfl

theorem closesPlain_situation (vocabulary : Vocabulary) (visit : Visit) :
    (visit.situation vocabulary).closesPlain vocabulary = visit.closesPlain vocabulary := by
  unfold closesPlain situation Situation.closesPlain
  cases Directive.classify vocabulary visit.line with
  | opening opener condition =>
    cases feature : (Directive.opening opener condition).featureCondition vocabulary
        visit.following <;> simp [Directive.mark, feature, Directive.featureComment]
  | closing comment =>
    cases whole : wholeComment vocabulary comment visit.following with
    | mk found taken =>
      cases found with
      | none => simp [Directive.mark, Directive.featureComment, whole]
      | some text =>
        by_cases speaks : vocabulary.mentions text <;> cases visit.frames <;>
          simp [Directive.mark, Directive.featureComment, whole, speaks]
  | inclusion _ | bind _ | unbind | toggle _ _ | code => rfl

end Visit

/-- **The situations along the marks are those at the lines that the check visits.** -/
theorem Checker.situations_eq (checker : Checker) (number taken : Nat) (frames : List Frame)
    (lines : List Text) :
    checker.situations frames (checker.vocabulary.marks number taken lines) =
      (checker.visits number taken frames lines).map (Visit.situation checker.vocabulary) := by
  induction lines generalizing number taken frames with
  | nil => cases taken <;> rfl
  | cons line following ih =>
    cases taken with
    | succ taken => exact ih (number + 1) taken frames
    | zero =>
      cases marked : (Directive.classify checker.vocabulary line).mark checker.vocabulary
          following with
      | mk mark taken =>
        obtain ⟨-, takes, opens⟩ := checker.step_eq number line following frames marked
        simp only [Vocabulary.marks, situations, visits, List.map_cons, Visit.situation, marked, ih,
          takes, opens]

/-! ## One step -/

namespace Frame

/-- The condition of a feature block, if it could be read. -/
def feature? (frame : Frame) : Option (Option FeatureExpr) :=
  match frame.kind with
  | .feature condition => some condition
  | .plain => none

theorem isFeature_eq (frame : Frame) : frame.isFeature = frame.feature?.isSome := by
  unfold isFeature feature?
  cases frame.kind <;> rfl

end Frame

/-- The filter of a checker for one selection of features. -/
def Checker.filter (checker : Checker) (enabled : Selection) (toggleFile : Text) : Filter :=
  ⟨checker.vocabulary, checker.catalog, enabled, toggleFile⟩

namespace Checker

variable {checker : Checker}

/-- Nothing is found where a feature block opens if its condition can be read. -/
theorem parse_of_openFeature {opener : Opener} {number : Nat} {condition : Text}
    (clean : (checker.openFeature opener number condition).1 = []) :
    ∃ parsed, FeatureExpr.parse checker.catalog condition = .ok parsed ∧
      (checker.openFeature opener number condition).2 =
        ⟨opener, condition, number, .feature (some parsed)⟩ := by
  unfold openFeature at clean ⊢
  cases read : FeatureExpr.parse checker.catalog condition with
  | error e => simp [read] at clean
  | ok parsed => exact ⟨parsed, rfl, rfl⟩

/-- Nothing is found where a feature block closes if the comment speaks of features and spells the
condition of the block. -/
theorem comment_of_closingFindings (leads : checker.vocabulary.Leads checker.catalog)
    {openedAt : Nat} {condition : Text} {expected : Option FeatureExpr} {comment : Option Text}
    (clean : checker.closingFindings openedAt condition expected comment = []) :
    ∃ text found, comment = some text ∧ checker.vocabulary.mentions text ∧
      FeatureExpr.parse checker.catalog text = .ok found ∧
      ∀ wanted ∈ expected, found.canonical = wanted.canonical := by
  cases comment with
  | none => simp [closingFindings] at clean
  | some text =>
    by_cases start : checker.vocabulary.leads text
    · cases read : FeatureExpr.parse checker.catalog text with
      | error e => simp [closingFindings, start, read] at clean
      | ok found =>
        obtain ⟨c, rest, same, word⟩ := leads.exists_cons read
        refine ⟨text, found, rfl, mentions_of_leads word same start, read, ?_⟩
        rintro wanted rfl
        by_contra differ
        simp [closingFindings, start, read, differ] at clean
    · simp [closingFindings, start] at clean

/-- Nothing is found at the end of a file if no feature block is open there. -/
theorem feature?_eq_none_of_unclosed {frames : List Frame} (clean : unclosed frames = []) :
    ∀ frame ∈ frames, frame.feature? = none := by
  intro frame member
  have silent := List.filterMap_eq_nil_iff.mp clean frame (List.mem_reverse.mpr member)
  unfold Frame.feature?
  cases kind : frame.kind with
  | plain => rfl
  | feature condition => simp [kind] at silent

end Checker

namespace Filter

variable {filter : Filter} {file : Text} {number : Nat}

theorem blockAfter_openFeature {condition : Text} {parsed : FeatureExpr}
    (read : FeatureExpr.parse filter.catalog condition = .ok parsed) :
    filter.blockAfter file number none (.openFeature condition) = .ok (some ⟨parsed, number⟩) := by
  rw [blockAfter, openBlock, readCondition, read]
  rfl

/-- A comment that spells the condition of the open block closes it. -/
theorem blockAfter_close_of_same {text : Text} {block : OpenBlock} {found : FeatureExpr}
    (speaks : filter.vocabulary.mentions text)
    (read : FeatureExpr.parse filter.catalog text = .ok found)
    (same : found.canonical = block.condition.canonical) :
    filter.blockAfter file number (some block) (.close (some text)) = .ok none := by
  rw [blockAfter, if_pos speaks]
  refine map_eq_ok.mpr ⟨⟨none, []⟩, bind_eq_ok.mpr ⟨found, mapError_eq_ok.mpr read, ?_⟩, rfl⟩
  rw [if_pos same]
  rfl

/-- A comment that speaks of features closes the open block, or the filter fails. -/
theorem eq_none_of_blockAfter_close {text : Text} {block next : Option OpenBlock}
    (speaks : filter.vocabulary.mentions text)
    (done : filter.blockAfter file number block (.close (some text)) = .ok next) :
    block.isSome ∧ next = none := by
  rw [blockAfter, if_pos speaks, closeBlock] at done
  cases block with
  | none => cases done
  | some block =>
    refine ⟨rfl, ?_⟩
    obtain ⟨state, closed, rfl⟩ := map_eq_ok.mp done
    obtain ⟨found, -, closed⟩ := bind_eq_ok.mp closed
    split at closed
    · obtain rfl := pure_eq_ok.mp closed
      rfl
    · cases closed

end Filter

/-! ## The filter goes through -/

/-- The open block of the filter is the one feature block on the stack, if there is one. -/
def Agrees (frames : List Frame) (block : Option Filter.OpenBlock) : Prop :=
  frames.filterMap Frame.feature? = block.toList.map fun block => some block.condition

namespace Checker

variable {checker : Checker} (enabled : Selection) (toggleFile file : Text)

/-- What one mark does to blocks that agree: unless it nests, the blocks go on to agree. -/
theorem agrees_step (leads : checker.vocabulary.Leads checker.catalog) {number : Nat}
    {frames : List Frame} {block : Option Filter.OpenBlock} {mark : Mark}
    (clean : checker.findingsAt number frames mark = []) (agrees : Agrees frames block)
    (feature : Situation.closesPlain checker.vocabulary ⟨number, mark, frames⟩ = false) :
    (∃ next, (checker.filter enabled toggleFile).blockAfter file number block mark = .ok next ∧
        Agrees (checker.advance number frames mark) next) ∨
      (Situation.nestsFeature ⟨number, mark, frames⟩ ∧ ∃ openedAt,
        (checker.filter enabled toggleFile).blockAfter file number block mark =
          .error (.nestedBlock file number openedAt)) := by
  cases mark with
  | openFeature condition =>
    obtain ⟨parsed, read, frame⟩ := parse_of_openFeature clean
    cases block with
    | none =>
      refine .inl ⟨some ⟨parsed, number⟩, ?_, ?_⟩
      · exact Filter.blockAfter_openFeature read
      · rw [Agrees] at agrees ⊢
        simp [advance, frame, Frame.feature?, agrees]
    | some block =>
      refine .inr ⟨?_, block.openedAt, rfl⟩
      have member : some block.condition ∈ frames.filterMap Frame.feature? := by
        rw [agrees]
        exact .head _
      obtain ⟨inner, member, feature⟩ := List.mem_filterMap.mp member
      exact List.any_eq_true.mpr ⟨inner, member, by rw [Frame.isFeature_eq, feature]; rfl⟩
  | openPlain opener condition => exact .inl ⟨block, rfl, agrees⟩
  | close comment =>
    refine .inl ?_
    cases frames with
    | nil => simp [findingsAt, closeFindings] at clean
    | cons frame frames =>
      cases kind : frame.kind with
      | plain =>
        refine ⟨block, ?_, ?_⟩
        · refine Filter.blockAfter_close_of_silent ?_
          rintro text rfl
          show checker.vocabulary.mentions text = false
          simpa [Situation.closesPlain, Frame.isFeature, kind] using feature
        · rw [Agrees] at agrees ⊢
          simpa [advance, Frame.feature?, kind] using agrees
      | feature expected =>
        have closing : checker.closingFindings frame.openedAt frame.condition expected comment =
            [] := by
          simpa [findingsAt, closeFindings, kind] using clean
        obtain ⟨text, found, rfl, speaks, read, same⟩ := comment_of_closingFindings leads closing
        have opened : expected :: frames.filterMap Frame.feature? =
            block.toList.map fun block => some block.condition := by
          simpa [Agrees, Frame.feature?, kind] using agrees
        cases block with
        | none => cases opened
        | some block =>
          obtain ⟨rfl, rest⟩ := List.cons.inj opened
          exact ⟨none, Filter.blockAfter_close_of_same speaks read (same block.condition rfl), rest⟩
  | other => exact .inl ⟨block, rfl, agrees⟩

/-- **Where feature comments close feature blocks alone, a filter fails on a clean file only at a
nested block.** -/
theorem lastBlock_of_clean (leads : checker.vocabulary.Leads checker.catalog)
    {marks : List (Nat × Mark)} {frames : List Frame} {block : Option Filter.OpenBlock}
    (clean : checker.findings frames marks = []) (agrees : Agrees frames block)
    (feature : ∀ situation ∈ checker.situations frames marks,
      situation.closesPlain checker.vocabulary = false) :
    (checker.filter enabled toggleFile).lastBlock file block marks = .ok none ∨
      ∃ situation ∈ checker.situations frames marks, situation.nestsFeature ∧ ∃ openedAt,
        (checker.filter enabled toggleFile).lastBlock file block marks =
          .error (.nestedBlock file situation.number openedAt) := by
  induction marks generalizing frames block with
  | nil =>
    rw [Agrees, List.filterMap_eq_nil_iff.mpr (feature?_eq_none_of_unclosed clean)] at agrees
    cases block with
    | none => exact .inl rfl
    | some block => cases agrees
  | cons head marks ih =>
    obtain ⟨number, mark⟩ := head
    obtain ⟨here, rest⟩ := List.append_eq_nil_iff.mp clean
    have head := feature _ (.head _)
    rcases agrees_step enabled toggleFile file leads (List.map_eq_nil_iff.mp here) agrees head with
      ⟨next, done, agrees⟩ | ⟨nests, openedAt, failed⟩
    · simp only [Filter.lastBlock, done]
      rcases ih rest agrees fun situation member => feature situation (.tail _ member) with
        passed | ⟨situation, member, nests, failed⟩
      · exact .inl passed
      · exact .inr ⟨situation, .tail _ member, nests, failed⟩
    · refine .inr ⟨_, .head _, nests, openedAt, ?_⟩
      simp only [Filter.lastBlock, failed]

end Checker

/-! ## Counting blocks -/

namespace Checker

variable {checker : Checker} (enabled : Selection) (toggleFile file : Text)

/-- What one mark changes in the numbers of feature blocks. -/
theorem countP_advance (leads : checker.vocabulary.Leads checker.catalog) {number : Nat}
    {frames : List Frame} {block next : Option Filter.OpenBlock} {mark : Mark}
    (clean : checker.findingsAt number frames mark = [])
    (done : (checker.filter enabled toggleFile).blockAfter file number block mark = .ok next) :
    (Situation.closesPlain checker.vocabulary ⟨number, mark, frames⟩).toNat +
        frames.countP Frame.isFeature + next.isSome.toNat =
      (checker.advance number frames mark).countP Frame.isFeature + block.isSome.toNat := by
  cases mark with
  | openFeature condition =>
    obtain ⟨parsed, read, frame⟩ := parse_of_openFeature clean
    cases block with
    | some block => cases done
    | none =>
      obtain rfl := Except.ok.inj ((Filter.blockAfter_openFeature read).symm.trans done)
      simp [Situation.closesPlain, advance, frame, Frame.isFeature]
  | openPlain opener condition =>
    obtain rfl := Except.ok.inj done
    simp [Situation.closesPlain, advance, Frame.isFeature]
  | close comment =>
    cases frames with
    | nil => simp [findingsAt, closeFindings] at clean
    | cons frame frames =>
      cases kind : frame.kind with
      | plain =>
        by_cases speaks : ∃ text, comment = some text ∧ checker.vocabulary.mentions text
        · obtain ⟨text, rfl, speaks⟩ := speaks
          obtain ⟨opened, rfl⟩ := Filter.eq_none_of_blockAfter_close speaks done
          simp [Situation.closesPlain, advance, Frame.isFeature, kind, speaks, opened, Nat.add_comm]
        · have silent : ∀ text ∈ comment, checker.vocabulary.mentions text = false := by
            rintro text rfl
            simpa using fun mentioned => speaks ⟨text, rfl, mentioned⟩
          obtain rfl := Except.ok.inj ((Filter.blockAfter_close_of_silent silent).symm.trans done)
          cases comment with
          | none => simp [Situation.closesPlain, advance, Frame.isFeature, kind]
          | some text => simp [Situation.closesPlain, advance, Frame.isFeature, kind, silent text]
      | feature expected =>
        have closing : checker.closingFindings frame.openedAt frame.condition expected comment =
            [] := by
          simpa [findingsAt, closeFindings, kind] using clean
        obtain ⟨text, found, rfl, speaks, -, -⟩ := comment_of_closingFindings leads closing
        obtain ⟨opened, rfl⟩ := Filter.eq_none_of_blockAfter_close speaks done
        simp [Situation.closesPlain, advance, Frame.isFeature, kind, opened]
  | other =>
    obtain rfl := Except.ok.inj done
    simp [Situation.closesPlain, advance]

/-- **On a clean file a filter that goes through has as many feature blocks open as the check has
and as comments will still take from it.** -/
theorem countP_closesPlain (leads : checker.vocabulary.Leads checker.catalog)
    {marks : List (Nat × Mark)} {frames : List Frame} {block last : Option Filter.OpenBlock}
    (clean : checker.findings frames marks = [])
    (done : (checker.filter enabled toggleFile).lastBlock file block marks = .ok last) :
    (checker.situations frames marks).countP (Situation.closesPlain checker.vocabulary) +
        frames.countP Frame.isFeature + last.isSome.toNat =
      block.isSome.toNat := by
  induction marks generalizing frames block with
  | nil =>
    obtain rfl := Except.ok.inj done
    have none : frames.countP Frame.isFeature = 0 := by
      rw [List.countP_eq_zero]
      intro frame member
      rw [Frame.isFeature_eq, feature?_eq_none_of_unclosed clean frame member]
      decide
    simp [situations, none]
  | cons head marks ih =>
    obtain ⟨number, mark⟩ := head
    obtain ⟨here, rest⟩ := List.append_eq_nil_iff.mp clean
    cases next : (checker.filter enabled toggleFile).blockAfter file number block mark with
    | error e => simp [Filter.lastBlock, next] at done
    | ok block' =>
      simp only [Filter.lastBlock, next] at done
      have step := countP_advance enabled toggleFile file leads (List.map_eq_nil_iff.mp here) next
      have rest := ih rest done
      rw [situations, List.countP_cons]
      cases closes : Situation.closesPlain checker.vocabulary ⟨number, mark, frames⟩ <;>
        simp only [closes, Bool.toNat_true, Bool.toNat_false, if_true, Bool.false_eq_true,
          if_false] at step ⊢ <;>
        omega

/-- A filter that goes through a clean file meets no nested block. -/
theorem nestsFeature_eq_false (leads : checker.vocabulary.Leads checker.catalog)
    {marks : List (Nat × Mark)} {frames : List Frame} {block last : Option Filter.OpenBlock}
    (clean : checker.findings frames marks = [])
    (done : (checker.filter enabled toggleFile).lastBlock file block marks = .ok last) :
    ∀ situation ∈ checker.situations frames marks, situation.nestsFeature = false := by
  induction marks generalizing frames block with
  | nil => exact fun _ member => nomatch member
  | cons head marks ih =>
    obtain ⟨number, mark⟩ := head
    have count := countP_closesPlain enabled toggleFile file leads clean done
    cases next : (checker.filter enabled toggleFile).blockAfter file number block mark with
    | error e => simp [Filter.lastBlock, next] at done
    | ok block' =>
      simp only [Filter.lastBlock, next] at done
      intro situation member
      rcases List.mem_cons.mp member with rfl | member
      · -- Where a feature block opens the filter has none open, so neither has the check.
        cases mark with
        | openFeature condition =>
          cases block with
          | some block => cases next
          | none =>
            have none : frames.countP Frame.isFeature = 0 := by
              simp only [Option.isSome_none, Bool.toNat_false] at count
              omega
            rw [List.countP_eq_zero] at none
            simpa [Situation.nestsFeature] using none
        | openPlain _ _ | close _ | other => rfl
      · exact ih (List.append_eq_nil_iff.mp clean).2 done situation member

end Checker

end Amalgamation

import Amalgamation.Proofs.Directive.Borders
import Amalgamation.Proofs.Source.Selections

/-!
# What a filter accepts

A filter goes through a file exactly if the borders of feature blocks come in pairs, an opener and
the closer that spells its condition, and, in the toggle file, every definition of a feature has the
value 1 (`Filter.Accepts`). Otherwise it stops at the first line that breaks a rule, or at the end
of the file if a block is open there and no line breaks one (`Filter.FirstBreak`). Which rule a line
breaks depends on the line and on the last border in front of it alone (`Filter.Breaks`).

The filter itself remembers the open block. That block is the last border in front of the line, if
this is an opener (`Filter.Opened`); so reading a line fails exactly if the line breaks a rule
(`Filter.read_eq_error_iff`), and both halves of the verdict follow line by line
(`Filter.filterLines_verdict`).
-/

set_option autoImplicit false

namespace Amalgamation

namespace Filter

/-! ## Rules -/

/-- No block is open behind a border. -/
def Closed (before : Option (Nat × Border)) : Prop :=
  ∀ openedAt condition, before ≠ some (openedAt, .opening condition)

/-- **What a line breaks**, given the last border in front of it. Feature blocks do not nest and are
not closed before they are opened, their borders can be read and spell the same condition, and a
definition of a feature in the toggle file has the value 1. -/
inductive Breaks (filter : Filter) (file : Text) (before : Option (Nat × Border))
    (here : MarkedLine) : Error → Prop
  | nested {openedAt : Nat} {opening condition : Text}
      (inside : before = some (openedAt, .opening opening))
      (border : here.mark.border? filter.vocabulary = some (.opening condition)) :
      Breaks filter file before here (.nestedBlock file here.number openedAt)
  | condition {condition : Text} {cause : ParseError} (outside : Closed before)
      (border : here.mark.border? filter.vocabulary = some (.opening condition))
      (unread : FeatureExpr.parse filter.catalog condition = .error cause) :
      Breaks filter file before here (.expression file here.number cause)
  | orphan {comment : Text} (outside : Closed before)
      (border : here.mark.border? filter.vocabulary = some (.closing comment)) :
      Breaks filter file before here (.orphanEndif file here.number)
  | comment {openedAt : Nat} {opening comment : Text} {cause : ParseError}
      (inside : before = some (openedAt, .opening opening))
      (border : here.mark.border? filter.vocabulary = some (.closing comment))
      (unread : FeatureExpr.parse filter.catalog comment = .error cause) :
      Breaks filter file before here (.expression file here.number cause)
  | mismatch {openedAt : Nat} {opening comment : Text} {expected found : FeatureExpr}
      (inside : before = some (openedAt, .opening opening))
      (border : here.mark.border? filter.vocabulary = some (.closing comment))
      (opened : FeatureExpr.parse filter.catalog opening = .ok expected)
      (closed : FeatureExpr.parse filter.catalog comment = .ok found)
      (differ : found.canonical ≠ expected.canonical) :
      Breaks filter file before here
        (.blockMismatch file here.number openedAt expected.canonical found.canonical)
  | toggle {name value : Text} (inToggleFile : filter.isToggleFile file)
      (toggles : Directive.classify filter.vocabulary here.line = .toggle name value)
      (unset : value ≠ ['1']) :
      Breaks filter file before here (.invalidToggle file here.number here.line)

/-- The last border among marked lines or, if there is none, the one before them. -/
def lastBorder (filter : Filter) (before : Option (Nat × Border)) (marked : List MarkedLine) :
    Option (Nat × Border) :=
  (filter.vocabulary.borders marked).getLast?.or before

/-- No line breaks a rule. -/
def Unbroken (filter : Filter) (file : Text) (before : Option (Nat × Border))
    (marked : List MarkedLine) : Prop :=
  ∀ front here behind, marked = front ++ here :: behind →
    ∀ e, ¬filter.Breaks file (filter.lastBorder before front) here e

/-- **The error of the first line that breaks a rule** or, if there is none, that of a block that is
open behind the last line. -/
inductive FirstBreak (filter : Filter) (file : Text) (before : Option (Nat × Border))
    (marked : List MarkedLine) : Error → Prop
  | line {front behind : List MarkedLine} {here : MarkedLine} {e : Error}
      (split : marked = front ++ here :: behind) (unbroken : filter.Unbroken file before front)
      (breaks : filter.Breaks file (filter.lastBorder before front) here e) :
      FirstBreak filter file before marked e
  | fileEnd {openedAt : Nat} {text : Text} {condition : FeatureExpr}
      (unbroken : filter.Unbroken file before marked)
      (inside : filter.lastBorder before marked = some (openedAt, .opening text))
      (read : FeatureExpr.parse filter.catalog text = .ok condition) :
      FirstBreak filter file before marked (.unclosedBlock file openedAt condition.canonical)

/-- The opener of the block that is open behind a border. -/
def pending : Option (Nat × Border) → List (Nat × Border)
  | some (openedAt, .opening condition) => [(openedAt, .opening condition)]
  | _ => []

/-- The definitions of features in the toggle file have the value 1. -/
def TogglesSet (filter : Filter) (file : Text) (marked : List MarkedLine) : Prop :=
  filter.isToggleFile file → ∀ here ∈ marked, ∀ name value,
    Directive.classify filter.vocabulary here.line = .toggle name value → value = ['1']

/-- **What a filter accepts**: regular borders, with the opener that is pending before them, and
definitions with the value 1. -/
structure Accepts (filter : Filter) (file : Text) (before : Option (Nat × Border))
    (marked : List MarkedLine) : Prop where
  blocks : Border.Regular filter.catalog (pending before ++ filter.vocabulary.borders marked)
  toggles : filter.TogglesSet file marked

/-! ## One line after the other -/

variable {filter : Filter} {file : Text} {before : Option (Nat × Border)} {here : MarkedLine}
  {rest : List MarkedLine} {e : Error}

theorem lastBorder_cons :
    filter.lastBorder before (here :: rest) =
      filter.lastBorder ((here.border? filter.vocabulary).or before) rest := by
  unfold lastBorder Vocabulary.borders
  rw [List.filterMap_cons]
  cases here.border? filter.vocabulary with
  | none => rfl
  | some border =>
    rw [List.getLast?_cons]
    cases (rest.filterMap (MarkedLine.border? filter.vocabulary)).getLast? <;> rfl

theorem unbroken_cons :
    filter.Unbroken file before (here :: rest) ↔ (∀ e, ¬filter.Breaks file before here e) ∧
      filter.Unbroken file ((here.border? filter.vocabulary).or before) rest := by
  constructor
  · intro unbroken
    refine ⟨unbroken [] here rest rfl, fun front other behind split => ?_⟩
    rw [← lastBorder_cons]
    exact unbroken (here :: front) other behind (congrArg (here :: ·) split)
  · rintro ⟨now, later⟩ front other behind split
    rcases List.cons_eq_append_iff.mp split with ⟨rfl, same⟩ | ⟨others, rfl, same⟩
    · obtain ⟨rfl, -⟩ := List.cons.inj same
      exact now
    · rw [lastBorder_cons]
      exact later others other behind same

/-- The first line to break a rule is the first of all, or that of the others. -/
theorem firstBreak_cons :
    filter.FirstBreak file before (here :: rest) e ↔ filter.Breaks file before here e ∨
      (∀ e, ¬filter.Breaks file before here e) ∧
        filter.FirstBreak file ((here.border? filter.vocabulary).or before) rest e := by
  constructor
  · rintro (⟨split, unbroken, breaks⟩ | ⟨unbroken, inside, read⟩)
    · rcases List.cons_eq_append_iff.mp split with ⟨rfl, same⟩ | ⟨others, rfl, same⟩
      · obtain ⟨rfl, -⟩ := List.cons.inj same
        exact .inl breaks
      · obtain ⟨now, later⟩ := unbroken_cons.mp unbroken
        rw [lastBorder_cons] at breaks
        exact .inr ⟨now, .line same later breaks⟩
    · obtain ⟨now, later⟩ := unbroken_cons.mp unbroken
      rw [lastBorder_cons] at inside
      exact .inr ⟨now, .fileEnd later inside read⟩
  · rintro (breaks | ⟨now, first⟩)
    · have nothing : filter.Unbroken file before [] := by
        intro front other behind split
        simp at split
      exact .line rfl nothing breaks
    · cases first with
      | line split unbroken breaks =>
        rw [← lastBorder_cons] at breaks
        exact .line (congrArg (here :: ·) split) (unbroken_cons.mpr ⟨now, unbroken⟩) breaks
      | fileEnd unbroken inside read =>
        rw [← lastBorder_cons] at inside
        exact .fileEnd (unbroken_cons.mpr ⟨now, unbroken⟩) inside read

/-! ## The open block -/

/-- The open block of the filter is that of the last border. -/
def Opened (catalog : Catalog) (before : Option (Nat × Border)) : Option OpenBlock → Prop
  | none => Closed before
  | some block => ∃ text, before = some (block.openedAt, .opening text) ∧
    FeatureExpr.parse catalog text = .ok block.condition

/-- No block is open in front of the first border. -/
theorem opened_none {catalog : Catalog} : Opened catalog none none := fun _ _ => nofun

section OpenBlock

variable {number : Nat} {text : Text} {block : Option OpenBlock}

theorem openBlock_eq_error_iff (opened : Opened filter.catalog before block) :
    filter.openBlock file number text ⟨block, []⟩ = .error e ↔
      (∃ openedAt opening, before = some (openedAt, .opening opening) ∧
        .nestedBlock file number openedAt = e) ∨
      Closed before ∧ ∃ cause, FeatureExpr.parse filter.catalog text = .error cause ∧
        .expression file number cause = e := by
  cases block with
  | none =>
    have outside : ∀ openedAt opening, before ≠ some (openedAt, .opening opening) := opened
    simp [openBlock, readCondition, outside, Closed, pure_eq_error, -bind_pure_comp]
  | some block =>
    obtain ⟨opening, rfl, -⟩ := opened
    simp [openBlock, Closed]

theorem closeBlock_eq_error_iff (opened : Opened filter.catalog before block) :
    filter.closeBlock file number text ⟨block, []⟩ = .error e ↔
      Closed before ∧ .orphanEndif file number = e ∨
      ∃ openedAt opening, before = some (openedAt, .opening opening) ∧
        ((∃ cause, FeatureExpr.parse filter.catalog text = .error cause ∧
            .expression file number cause = e) ∨
          ∃ expected found, FeatureExpr.parse filter.catalog opening = .ok expected ∧
            FeatureExpr.parse filter.catalog text = .ok found ∧
            found.canonical ≠ expected.canonical ∧
            .blockMismatch file number openedAt expected.canonical found.canonical = e) := by
  cases block with
  | none =>
    have outside : ∀ openedAt opening, before ≠ some (openedAt, .opening opening) := opened
    simp [closeBlock, outside, Closed]
  | some block =>
    obtain ⟨opening, rfl, read⟩ := opened
    cases found : FeatureExpr.parse filter.catalog text with
    | error cause => simp [closeBlock, readCondition, Closed, found]
    | ok condition =>
      by_cases same : condition.canonical = block.condition.canonical
      · simp [closeBlock, readCondition, Closed, found, read, same, pure_eq_error]
      · simp [closeBlock, readCondition, Closed, found, read, same]

end OpenBlock

theorem readPlain_eq_error_iff {number : Nat} {line : Text} {directive : Directive}
    {block : Option OpenBlock} :
    filter.readPlain file number directive line block = .error e ↔
      filter.isToggleFile file ∧ ∃ name value, directive = .toggle name value ∧ value ≠ ['1'] ∧
        .invalidToggle file number line = e := by
  cases inToggleFile : filter.isToggleFile file with
  | false => cases directive <;> simp [readPlain, inToggleFile]
  | true =>
    cases directive with
    | toggle name value => by_cases set : value = ['1'] <;> simp [readPlain, inToggleFile, set]
    | inclusion _ | bind _ | unbind | opening _ _ | closing _ | code => simp [readPlain]

/-! ## What a line can break -/

section Rules

variable {text : Text}
  (noToggle : ∀ name value, Directive.classify filter.vocabulary here.line ≠ .toggle name value)

include noToggle

theorem breaks_opening_iff (border : here.mark.border? filter.vocabulary = some (.opening text)) :
    filter.Breaks file before here e ↔
      (∃ openedAt opening, before = some (openedAt, .opening opening) ∧
        .nestedBlock file here.number openedAt = e) ∨
      Closed before ∧ ∃ cause, FeatureExpr.parse filter.catalog text = .error cause ∧
        .expression file here.number cause = e := by
  constructor
  · intro breaks
    cases breaks with
    | nested inside _ => exact .inl ⟨_, _, inside, rfl⟩
    | condition outside border' unread =>
      obtain rfl := Border.opening.inj (Option.some.inj (border.symm.trans border'))
      exact .inr ⟨outside, _, unread, rfl⟩
    | orphan _ border' | comment _ border' _ | mismatch _ border' _ _ _ =>
      cases border.symm.trans border'
    | toggle _ toggles _ => exact absurd toggles (noToggle _ _)
  · rintro (⟨openedAt, opening, inside, rfl⟩ | ⟨outside, cause, unread, rfl⟩)
    · exact .nested inside border
    · exact .condition outside border unread

theorem breaks_closing_iff (border : here.mark.border? filter.vocabulary = some (.closing text)) :
    filter.Breaks file before here e ↔
      Closed before ∧ .orphanEndif file here.number = e ∨
      ∃ openedAt opening, before = some (openedAt, .opening opening) ∧
        ((∃ cause, FeatureExpr.parse filter.catalog text = .error cause ∧
            .expression file here.number cause = e) ∨
          ∃ expected found, FeatureExpr.parse filter.catalog opening = .ok expected ∧
            FeatureExpr.parse filter.catalog text = .ok found ∧
            found.canonical ≠ expected.canonical ∧
            .blockMismatch file here.number openedAt expected.canonical found.canonical = e) := by
  constructor
  · intro breaks
    cases breaks with
    | nested _ border' | condition _ border' _ => cases border.symm.trans border'
    | orphan outside _ => exact .inl ⟨outside, rfl⟩
    | comment inside border' unread =>
      obtain rfl := Border.closing.inj (Option.some.inj (border.symm.trans border'))
      exact .inr ⟨_, _, inside, .inl ⟨_, unread, rfl⟩⟩
    | mismatch inside border' opens closes differ =>
      obtain rfl := Border.closing.inj (Option.some.inj (border.symm.trans border'))
      exact .inr ⟨_, _, inside, .inr ⟨_, _, opens, closes, differ, rfl⟩⟩
    | toggle _ toggles _ => exact absurd toggles (noToggle _ _)
  · rintro (⟨outside, rfl⟩ | ⟨openedAt, opening, inside, ⟨cause, unread, rfl⟩ |
      ⟨expected, found, opens, closes, differ, rfl⟩⟩)
    · exact .orphan outside border
    · exact .comment inside border unread
    · exact .mismatch inside border opens closes differ

end Rules

theorem breaks_silent_iff (silent : here.mark.border? filter.vocabulary = none) :
    filter.Breaks file before here e ↔
      filter.isToggleFile file ∧ ∃ name value,
        Directive.classify filter.vocabulary here.line = .toggle name value ∧ value ≠ ['1'] ∧
          .invalidToggle file here.number here.line = e := by
  constructor
  · intro breaks
    cases breaks with
    | nested _ border | condition _ border _ | orphan _ border | comment _ border _
    | mismatch _ border _ _ _ => cases silent.symm.trans border
    | toggle inToggleFile toggles unset => exact ⟨inToggleFile, _, _, toggles, unset, rfl⟩
  · rintro ⟨inToggleFile, name, value, toggles, unset, rfl⟩
    exact .toggle inToggleFile toggles unset

/-! ## Reading a line -/

section Step

variable {number taken : Nat} {line : Text} {following : List Text} {block next : Option OpenBlock}
  {mark : Mark}

/-- **Reading a line fails exactly if the line breaks a rule**, with the error of the rule. -/
theorem read_eq_error_iff (opened : Opened filter.catalog before block)
    (marked : (Directive.classify filter.vocabulary line).mark filter.vocabulary following =
      (mark, taken)) :
    filter.read file number line following block = .error e ↔
      filter.Breaks file before ⟨number, line, mark, taken⟩ e := by
  obtain rfl : _ = mark := congrArg Prod.fst marked
  cases condition : (Directive.classify filter.vocabulary line).featureCondition
      filter.vocabulary following with
  | some whole =>
    have border := Directive.border?_of_featureCondition condition
    have noToggle := Directive.ne_toggle_of_border? border
    rw [breaks_opening_iff noToggle border,
      ← openBlock_eq_error_iff opened]
    simp [read, condition, pure_eq_error, -bind_pure_comp]
  | none =>
    cases comment : (Directive.classify filter.vocabulary line).featureComment
        filter.vocabulary following with
    | some whole =>
      have border := Directive.border?_of_featureComment comment
      have noToggle := Directive.ne_toggle_of_border? border
      rw [breaks_closing_iff noToggle border,
        ← closeBlock_eq_error_iff opened]
      simp [read, condition, comment, pure_eq_error, -bind_pure_comp]
    | none =>
      rw [breaks_silent_iff (Directive.border?_silent condition comment)]
      simp [read, condition, comment, readPlain_eq_error_iff, pure_eq_error, -bind_pure_comp]

/-- Behind a line that was read, the open block is again that of the last border. -/
theorem opened_of_read {reading : Reading} {lines : Nat}
    (opened : Opened filter.catalog before block)
    (marked : (Directive.classify filter.vocabulary line).mark filter.vocabulary following =
      (mark, taken))
    (done : filter.read file number line following block = .ok (reading, lines, next)) :
    lines = taken ∧ Opened filter.catalog
      ((MarkedLine.border? filter.vocabulary ⟨number, line, mark, taken⟩).or before) next := by
  obtain rfl : _ = mark := congrArg Prod.fst marked
  obtain rfl : _ = taken := congrArg Prod.snd marked
  rw [MarkedLine.border?]
  rcases read_eq_ok done with ⟨text, state, condition, opens, rfl, rfl⟩ |
    ⟨text, state, comment, closes, rfl, rfl⟩ | ⟨condition, comment, -, rfl, rfl⟩
  · obtain ⟨found, read, block⟩ := openBlock_eq_ok opens
    rw [Directive.border?_of_featureCondition condition,
      Directive.mark_of_featureCondition condition, block]
    exact ⟨rfl, text, rfl, read⟩
  · rw [Directive.border?_of_featureComment comment, (Directive.mark_of_featureComment comment).1,
      block_closeBlock closes]
    exact ⟨rfl, nofun⟩
  · rw [Directive.border?_silent condition comment, Directive.taken_eq_zero condition comment]
    exact ⟨rfl, opened⟩

end Step

/-! ## All lines -/

section Lines

variable {number taken : Nat} {block : Option OpenBlock}

theorem pending_of_closed (outside : Closed before) : pending before = [] := by
  unfold pending
  split
  · next openedAt condition => exact absurd rfl (outside openedAt condition)
  · rfl

theorem borders_cons (vocabulary : Vocabulary) :
    vocabulary.borders (here :: rest) =
      (here.border? vocabulary).toList ++ vocabulary.borders rest := by
  rw [Vocabulary.borders, List.filterMap_cons]
  cases here.border? vocabulary <;> rfl

/-- A file is not accepted if a line breaks a rule. -/
theorem not_accepts_of_breaks (breaks : filter.Breaks file before here e) :
    ¬filter.Accepts file before (here :: rest) := by
  rintro ⟨blocks, toggles⟩
  rw [borders_cons, MarkedLine.border?] at blocks
  cases breaks with
  | nested inside border =>
    rw [inside, border] at blocks
    obtain ⟨_, _, _, _, -, absurd, -⟩ := Border.regular_cons_iff.mp blocks
    cases absurd
  | condition outside border unread =>
    rw [pending_of_closed outside, border] at blocks
    obtain ⟨_, _, _, _, same, -, ⟨_, _, read, -⟩, -⟩ := Border.regular_cons_iff.mp blocks
    obtain rfl := Border.opening.inj same
    cases unread.symm.trans read
  | orphan outside border =>
    rw [pending_of_closed outside, border] at blocks
    obtain ⟨_, _, _, _, absurd, -⟩ := Border.regular_cons_iff.mp blocks
    cases absurd
  | comment inside border unread =>
    rw [inside, border] at blocks
    obtain ⟨_, _, _, _, -, same, ⟨_, _, -, read, -⟩, -⟩ := Border.regular_cons_iff.mp blocks
    cases same
    cases unread.symm.trans read
  | mismatch inside border opened closed differ =>
    rw [inside, border] at blocks
    obtain ⟨_, _, _, _, same, same', ⟨_, _, read, read', equal⟩, -⟩ :=
      Border.regular_cons_iff.mp blocks
    cases same
    cases same'
    obtain rfl := Except.ok.inj (opened.symm.trans read)
    obtain rfl := Except.ok.inj (closed.symm.trans read')
    exact differ equal
  | toggle inToggleFile toggling unset =>
    exact unset (toggles inToggleFile here List.mem_cons_self _ _ toggling)

section Cons

variable (now : ∀ e, ¬filter.Breaks file before here e)

include now

theorem togglesSet_cons_iff :
    filter.TogglesSet file (here :: rest) ↔ filter.TogglesSet file rest := by
  constructor
  · intro toggles inToggleFile other member
    exact toggles inToggleFile other (List.mem_cons_of_mem _ member)
  · intro toggles inToggleFile other member name value toggling
    rcases List.mem_cons.mp member with rfl | member
    · by_contra unset
      exact now _ (.toggle inToggleFile toggling unset)
    · exact toggles inToggleFile other member name value toggling

/-- The pending opener takes the place of the borders that were passed. -/
theorem regular_pending_iff (opened : Opened filter.catalog before block) :
    Border.Regular filter.catalog
        (pending before ++ filter.vocabulary.borders (here :: rest)) ↔
      Border.Regular filter.catalog
        (pending ((here.border? filter.vocabulary).or before) ++
          filter.vocabulary.borders rest) := by
  rw [borders_cons, MarkedLine.border?]
  cases border : here.mark.border? filter.vocabulary with
  | none => rfl
  | some side =>
    cases side with
    | opening text =>
      have outside : Closed before := fun openedAt opening inside => now _ (.nested inside border)
      rw [pending_of_closed outside]
      rfl
    | closing text =>
      cases block with
      | none => exact absurd (.orphan opened border) (now _)
      | some block =>
        obtain ⟨opening, inside, read⟩ := opened
        have matched : FeatureRegion.Matched filter.catalog
            ⟨block.openedAt, opening, here.number, text⟩ := by
          cases found : FeatureExpr.parse filter.catalog text with
          | error cause => exact absurd (.comment inside border found) (now _)
          | ok condition =>
            refine ⟨block.condition, condition, read, found, ?_⟩
            by_contra differ
            exact now _ (.mismatch inside border read found differ)
        subst inside
        constructor
        · intro regular
          obtain ⟨_, _, _, _, -, same, -, later⟩ := Border.regular_cons_iff.mp regular
          cases same
          exact later
        · intro later
          exact Border.regular_cons_iff.mpr ⟨_, _, _, _, rfl, rfl, matched, later⟩

/-- If a line breaks no rule, the lines behind it decide whether the file is accepted. -/
theorem accepts_cons_iff (opened : Opened filter.catalog before block) :
    filter.Accepts file before (here :: rest) ↔
      filter.Accepts file ((here.border? filter.vocabulary).or before) rest := by
  constructor
  · rintro ⟨blocks, toggles⟩
    exact ⟨(regular_pending_iff now opened).mp blocks, (togglesSet_cons_iff now).mp toggles⟩
  · rintro ⟨blocks, toggles⟩
    exact ⟨(regular_pending_iff now opened).mpr blocks, (togglesSet_cons_iff now).mpr toggles⟩

end Cons

theorem accepts_nil_iff : filter.Accepts file before [] ↔ Closed before := by
  constructor
  · rintro ⟨blocks, -⟩ openedAt condition rfl
    obtain ⟨_, _, _, _, -, absurd, -⟩ := Border.regular_cons_iff.mp blocks
    cases absurd
  · intro outside
    refine ⟨?_, fun _ => nofun⟩
    rw [pending_of_closed outside]
    exact Border.regular_nil

theorem firstBreak_nil_iff :
    filter.FirstBreak file before [] e ↔ ∃ openedAt text condition,
      before = some (openedAt, .opening text) ∧
        FeatureExpr.parse filter.catalog text = .ok condition ∧
        .unclosedBlock file openedAt condition.canonical = e := by
  constructor
  · rintro (⟨split, -, -⟩ | ⟨-, inside, read⟩)
    · simp at split
    · exact ⟨_, _, _, inside, read, rfl⟩
  · rintro ⟨openedAt, text, condition, inside, read, rfl⟩
    refine .fileEnd ?_ inside read
    intro front here behind split
    simp at split

/-- **Reading lines** succeeds exactly if they are accepted, and otherwise fails with the error of
their first break. -/
theorem readings_verdict (filter : Filter) (file : Text) (number taken : Nat) (lines : List Text)
    (opened : Opened filter.catalog before block) :
    ((∃ readings, filter.readings file number taken block lines = .ok readings) ↔
        filter.Accepts file before (filter.vocabulary.markedLines number taken lines)) ∧
      ∀ e, filter.readings file number taken block lines = .error e ↔
        filter.FirstBreak file before (filter.vocabulary.markedLines number taken lines) e := by
  induction lines generalizing number taken before block with
  | nil =>
    have noLine : filter.vocabulary.markedLines number taken [] = [] := by cases taken <;> rfl
    simp only [noLine, accepts_nil_iff, firstBreak_nil_iff]
    cases block with
    | none =>
      have done : filter.readings file number taken none [] = .ok [] := by cases taken <;> rfl
      have outside : ∀ openedAt text, before ≠ some (openedAt, .opening text) := opened
      rw [done]
      refine ⟨iff_of_true ⟨_, rfl⟩ opened, fun e => ⟨?_, ?_⟩⟩
      · rintro ⟨⟩
      · rintro ⟨openedAt, text, _, inside, -⟩
        exact absurd inside (outside openedAt text)
    | some block =>
      obtain ⟨text, rfl, read⟩ := opened
      have stops : filter.readings file number taken (some block) [] =
          .error (.unclosedBlock file block.openedAt block.condition.canonical) := by
        cases taken <;> rfl
      rw [stops]
      refine ⟨⟨?_, fun outside => absurd rfl (outside _ _)⟩, fun e => ⟨?_, ?_⟩⟩
      · rintro ⟨_, ⟨⟩⟩
      · rintro ⟨⟩
        exact ⟨_, _, _, rfl, read, rfl⟩
      · rintro ⟨_, _, condition, same, read', rfl⟩
        cases same
        rw [Except.ok.inj (read.symm.trans read')]
  | cons line following ih =>
    cases taken with
    | succ taken => exact ih (number + 1) taken opened
    | zero =>
      cases marked : (Directive.classify filter.vocabulary line).mark filter.vocabulary
          following with
      | mk mark taken =>
        have stops : ∀ e, filter.read file number line following block = .error e ↔ _ :=
          fun e => read_eq_error_iff opened marked
        simp only [Vocabulary.markedLines, marked, readings, firstBreak_cons, ← stops]
        cases done : filter.read file number line following block with
        | error e =>
          refine ⟨⟨?_, fun accepts => ?_⟩, fun e' => ?_⟩
          · rintro ⟨_, ⟨⟩⟩
          · exact absurd accepts (not_accepts_of_breaks ((stops e).mp done))
          · simp
        | ok result =>
          obtain ⟨reading, lines, next⟩ := result
          obtain ⟨rfl, opened'⟩ := opened_of_read opened marked done
          have now : ∀ e, ¬filter.Breaks file before ⟨number, line, mark, lines⟩ e := by
            intro e breaks
            rw [← stops e, done] at breaks
            cases breaks
          obtain ⟨accepts, fails⟩ := ih (number + 1) lines opened'
          rw [accepts_cons_iff now opened, ← accepts]
          refine ⟨?_, fun e => ?_⟩
          · simp [-bind_pure_comp]
          · simp [← fails, pure_eq_error, -bind_pure_comp]

/-- A filter goes through a file exactly if it accepts its lines. -/
theorem filterLines_eq_ok_iff_accepts (filter : Filter) (file : Text) (lines : List Text) :
    (∃ output, filter.filterLines file lines = .ok output) ↔
      filter.Accepts file none (filter.vocabulary.markedLines 1 0 lines) := by
  rw [← (readings_verdict filter file 1 0 lines opened_none).1, filterLines_eq_map_readings]
  constructor
  · rintro ⟨output, done⟩
    obtain ⟨readings, read, -⟩ := map_eq_ok.mp done
    exact ⟨readings, read⟩
  · rintro ⟨readings, read⟩
    exact ⟨_, map_eq_ok.mpr ⟨readings, read, rfl⟩⟩

/-- **The verdict of the filter.** A filter goes through a file exactly if its borders are regular
and, in the toggle file, the definitions of features have the value 1. Otherwise it fails with the
error of the first line that breaks a rule, or with the open block at the end of the file if no line
breaks one. -/
theorem filterLines_verdict (filter : Filter) (file : Text) (lines : List Text) :
    ((∃ output, filter.filterLines file lines = .ok output) ↔
        Border.Regular filter.catalog
          (filter.vocabulary.borders (filter.vocabulary.markedLines 1 0 lines)) ∧
        filter.TogglesSet file (filter.vocabulary.markedLines 1 0 lines)) ∧
      ∀ e, filter.filterLines file lines = .error e ↔
        filter.FirstBreak file none (filter.vocabulary.markedLines 1 0 lines) e := by
  refine ⟨(filter.filterLines_eq_ok_iff_accepts file lines).trans ⟨?_, ?_⟩, fun e => ?_⟩
  · rintro ⟨blocks, toggles⟩
    exact ⟨blocks, toggles⟩
  · rintro ⟨blocks, toggles⟩
    exact ⟨blocks, toggles⟩
  · rw [filterLines_eq_map_readings, map_eq_error]
    exact (readings_verdict filter file 1 0 lines opened_none).2 e

end Lines

end Filter

end Amalgamation

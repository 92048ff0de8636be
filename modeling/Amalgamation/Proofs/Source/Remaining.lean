import Amalgamation.Proofs.Source.Verdict

/-!
# The lines that remain

What a filter leaves of a file, told without the run over its lines. The borders of feature blocks
go, with all lines that they take, and so do the lines between the borders of a block whose
condition does not hold (`Filter.stays`, `Filter.remaining`). Of the other lines an empty one goes
behind an empty one (`Filter.collapse`), and what is left is written with its places
(`Filter.placed`).

The run decides about a line from the open block, and `Filter.stays` from the numbers of the borders
of the whole file. Both agree at a line that is no border (`Filter.stays_iff_of_silent`), and no
border has a say about the lines behind the last one it takes (`Filter.stays_cons`), nor a region
about those behind its end (`Filter.stays_region`); so they agree on the whole file
(`Filter.filterLines_eq_remaining`).
-/

set_option autoImplicit false

namespace Amalgamation

/-! ## What stays -/

/-- Whether a line is a marked line or taken by it. -/
def MarkedLine.covers (here : MarkedLine) (number : Nat) : Bool :=
  here.number ≤ number && number ≤ here.number + here.taken

/-- Whether a line stands between the borders of a region. -/
def FeatureRegion.encloses (region : FeatureRegion) (number : Nat) : Bool :=
  region.openedAt < number && number < region.closedAt

namespace Filter

/-- Whether the condition of a region is false. -/
def turnsOff (filter : Filter) (region : FeatureRegion) : Bool :=
  match FeatureExpr.parse filter.catalog region.condition with
  | .ok condition => !condition.holds filter.enabled
  | .error _ => false

/-- **Whether a line stays**: no border covers it, and no region encloses it whose condition is
false. -/
def stays (filter : Filter) (marked : List MarkedLine) (regions : List FeatureRegion)
    (number : Nat) : Bool :=
  (marked.all fun here => !((here.border? filter.vocabulary).isSome && here.covers number)) &&
    regions.all fun region => !(region.encloses number && filter.turnsOff region)

/-- The lines of a file that stay, with their numbers. -/
def remaining (filter : Filter) (regions : List FeatureRegion) (lines : List Text) :
    List (Text × Nat) :=
  (lines.zipIdx 1).filter fun numbered =>
    filter.stays (filter.vocabulary.markedLines 1 0 lines) regions numbered.2

section Stays

variable {filter : Filter} {here : MarkedLine} {rest : List MarkedLine}
  {regions : List FeatureRegion} {region : FeatureRegion} {number : Nat}

theorem stays_silent (silent : here.mark.border? filter.vocabulary = none) :
    filter.stays (here :: rest) regions number = filter.stays rest regions number := by
  simp [stays, MarkedLine.border?, silent]

theorem stays_border {side : Border} (border : here.mark.border? filter.vocabulary = some side) :
    filter.stays (here :: rest) regions here.number = false := by
  simp [stays, MarkedLine.border?, border, MarkedLine.covers]

/-- A line says nothing about those behind the last one that it takes. -/
theorem stays_cons (behind : here.number < number)
    (takes : here.mark.border? filter.vocabulary = none → here.taken = 0) :
    filter.stays (here :: rest) regions number =
      (decide (here.number + here.taken < number) && filter.stays rest regions number) := by
  cases border : here.mark.border? filter.vocabulary with
  | none => simp [stays_silent border, takes border, behind]
  | some side =>
    simp [stays, MarkedLine.border?, border, MarkedLine.covers, behind.le, Bool.and_assoc]
    rw [← decide_not, decide_eq_decide.mpr Nat.not_le]

theorem stays_region_cons :
    filter.stays rest (region :: regions) number =
      (!(region.encloses number && filter.turnsOff region) && filter.stays rest regions number) := by
  rw [stays, stays, List.all_cons, Bool.and_left_comm]

/-- A region says nothing about the lines behind it. -/
theorem stays_region (behind : region.closedAt ≤ number) :
    filter.stays rest (region :: regions) number = filter.stays rest regions number := by
  simp [stays_region_cons, FeatureRegion.encloses, Nat.not_lt.mpr behind]

end Stays

/-! ## A line that is no border -/

section Silent

variable {filter : Filter} {number taken : Nat} {lines : List Text} {regions : List FeatureRegion}
  {before : Option (Nat × Border)} {block : Option OpenBlock}

theorem number_le_of_mem_borders {border : Nat × Border}
    (member : border ∈ filter.vocabulary.borders
      (filter.vocabulary.markedLines number taken lines)) : number + taken ≤ border.1 := by
  obtain ⟨here, found, same⟩ := List.mem_filterMap.mp member
  obtain ⟨side, -, rfl⟩ := Option.map_eq_some_iff.mp same
  exact Vocabulary.number_add_taken_le found

/-- A line stays that no border covers and that stands in front of all regions. -/
theorem stays_in_front
    (later : ∀ border ∈ regions.flatMap FeatureRegion.borders, number < border.1) :
    filter.stays (filter.vocabulary.markedLines (number + 1) taken lines) regions number := by
  simp only [stays, Bool.and_eq_true, List.all_eq_true, Bool.not_eq_true', Bool.and_eq_false_iff]
  refine ⟨fun here member => .inr ?_, fun region member => .inl ?_⟩
  · have behind := Vocabulary.number_add_taken_le member
    simp only [MarkedLine.covers, Bool.and_eq_false_iff, decide_eq_false_iff_not]
    omega
  · have opens := later (region.openedAt, .opening region.condition)
      (List.mem_flatMap.mpr ⟨region, member, List.mem_cons_self⟩)
    simp only [FeatureRegion.encloses, Bool.and_eq_false_iff, decide_eq_false_iff_not]
    omega

/-- **At a line that is no border the open block decides** whether it stays. -/
theorem stays_of_opened (opened : Opened filter.catalog before block)
    (earlier : ∀ border ∈ before, border.1 < number)
    (tiled : pending before ++
        filter.vocabulary.borders (filter.vocabulary.markedLines (number + 1) taken lines) =
      regions.flatMap FeatureRegion.borders) :
    filter.stays (filter.vocabulary.markedLines (number + 1) taken lines) regions number =
      (block.map OpenBlock.condition).all (·.holds filter.enabled) := by
  have later : ∀ border ∈ filter.vocabulary.borders
      (filter.vocabulary.markedLines (number + 1) taken lines), number < border.1 := by
    intro border member
    have behind := number_le_of_mem_borders member
    omega
  cases block with
  | none =>
    rw [pending_of_closed opened, List.nil_append] at tiled
    rw [stays_in_front (tiled ▸ later)]
    rfl
  | some block =>
    obtain ⟨text, rfl, read⟩ := opened
    cases regions with
    | nil => cases tiled
    | cons region regions =>
      obtain ⟨⟨opensAt, rfl⟩, rest⟩ :
          (block.openedAt = region.openedAt ∧ text = region.condition) ∧ _ := by
        simpa [pending, FeatureRegion.borders] using tiled
      have opens : region.openedAt < number := opensAt ▸ earlier _ rfl
      rw [rest] at later
      obtain ⟨closes, behind⟩ := List.forall_mem_cons.mp later
      have inside : region.encloses number := by
        simpa [FeatureRegion.encloses] using ⟨opens, closes⟩
      rw [stays_region_cons, inside, stays_in_front behind, turnsOff, read]
      simp

end Silent

/-! ## All lines -/

section Lines

variable {filter : Filter} {file line : Text} {number taken : Nat} {lines following : List Text}
  {regions : List FeatureRegion} {before : Option (Nat × Border)} {block next : Option OpenBlock}
  {here : MarkedLine} {rest : List MarkedLine}

/-- A region that ends at a marked line is not needed behind it. -/
theorem exists_regions_behind
    (tiled : pending before ++ filter.vocabulary.borders (here :: rest) =
      regions.flatMap FeatureRegion.borders) :
    ∃ later : List FeatureRegion,
      pending ((here.border? filter.vocabulary).or before) ++ filter.vocabulary.borders rest =
          later.flatMap FeatureRegion.borders ∧
        ∀ marked number, here.number < number →
          filter.stays marked regions number = filter.stays marked later number := by
  rw [borders_cons, MarkedLine.border?] at tiled
  rw [MarkedLine.border?]
  cases border : here.mark.border? filter.vocabulary with
  | none =>
    rw [border] at tiled
    exact ⟨regions, tiled, fun _ _ _ => rfl⟩
  | some side =>
    rw [border] at tiled
    by_cases outside : Closed before
    · rw [pending_of_closed outside] at tiled
      cases side with
      | opening text => exact ⟨regions, tiled, fun _ _ _ => rfl⟩
      | closing text => cases regions <;> simp [FeatureRegion.borders] at tiled
    · obtain ⟨openedAt, opening, rfl⟩ : ∃ openedAt opening,
          before = some (openedAt, .opening opening) := by
        simpa [Closed] using outside
      cases regions with
      | nil => cases tiled
      | cons region regions =>
        cases side with
        | opening text => simp [pending, FeatureRegion.borders] at tiled
        | closing text =>
          obtain ⟨-, ⟨closesAt, -⟩, later⟩ :
              _ ∧ (here.number = region.closedAt ∧ text = region.comment) ∧ _ := by
            simpa [pending, FeatureRegion.borders] using tiled
          exact ⟨regions, later, fun _ _ behind => stays_region (closesAt ▸ behind.le)⟩

/-- **A line that was read is kept if it stays.** -/
theorem kept_read_eq {reading : Reading} {mark : Mark}
    (plainFile : filter.isToggleFile file = false)
    (opened : Opened filter.catalog before block) (earlier : ∀ border ∈ before, border.1 < number)
    (marked : (Directive.classify filter.vocabulary line).mark filter.vocabulary following =
      (mark, taken))
    (tiled : pending before ++ filter.vocabulary.borders
        (⟨number, line, mark, taken⟩ ::
          filter.vocabulary.markedLines (number + 1) taken following) =
      regions.flatMap FeatureRegion.borders)
    (done : filter.read file number line following block = .ok (reading, taken, next)) :
    reading.kept filter.enabled =
      if filter.stays (⟨number, line, mark, taken⟩ ::
          filter.vocabulary.markedLines (number + 1) taken following) regions number then
        some (line, number)
      else none := by
  rcases read_eq_ok done with ⟨text, state, condition, opens, rfl, rfl⟩ |
    ⟨text, state, comment, closes, rfl, rfl⟩ | ⟨condition, comment, plain, rfl, rfl⟩
  · have border := Directive.border?_of_featureCondition condition
    rw [marked] at border
    exact (if_neg (Bool.eq_false_iff.mp (stays_border border))).symm
  · have border := Directive.border?_of_featureComment comment
    rw [marked] at border
    exact (if_neg (Bool.eq_false_iff.mp (stays_border border))).symm
  · have silent := Directive.border?_silent condition comment
    rw [marked] at silent
    rw [borders_cons, MarkedLine.border?, silent] at tiled
    rw [stays_silent silent, stays_of_opened opened earlier tiled]
    rcases readPlain_eq_ok plain with ⟨_, _, -, inToggleFile, -⟩ | ⟨-, rfl⟩
    · rw [plainFile] at inToggleFile
      cases inToggleFile
    · rfl

theorem lt_succ_of_or (earlier : ∀ border ∈ before, border.1 < here.number) :
    ∀ border ∈ (here.border? filter.vocabulary).or before, border.1 < here.number + 1 := by
  intro border member
  rcases Option.or_eq_some_iff.mp member with last | ⟨-, last⟩
  · obtain ⟨side, -, rfl⟩ := Option.map_eq_some_iff.mp last
    exact Nat.lt_succ_self here.number
  · exact (earlier border last).trans (Nat.lt_succ_self here.number)

variable {readings : List Reading}

/-- **The lines that are kept are those that stay**, behind the lines that an earlier directive
took. -/
theorem filterMap_kept (plainFile : filter.isToggleFile file = false)
    (opened : Opened filter.catalog before block)
    (earlier : ∀ border ∈ before, border.1 < number)
    (tiled : pending before ++
        filter.vocabulary.borders (filter.vocabulary.markedLines number taken lines) =
      regions.flatMap FeatureRegion.borders)
    (done : filter.readings file number taken block lines = .ok readings) :
    readings.filterMap (Reading.kept filter.enabled) =
      (lines.zipIdx number).filter fun numbered =>
        decide (number + taken ≤ numbered.2) &&
          filter.stays (filter.vocabulary.markedLines number taken lines) regions numbered.2 := by
  induction lines generalizing number taken before block regions readings with
  | nil =>
    obtain rfl := readings_nil done
    rfl
  | cons line following ih =>
    rw [List.zipIdx_cons, List.filter_cons]
    cases taken with
    | succ taken =>
      have earlier' : ∀ border ∈ before, border.1 < number + 1 :=
        fun border member => (earlier border member).trans (Nat.lt_succ_self number)
      -- The line belongs to an earlier directive; where the next marked line may stand is the same.
      have early : ¬number + (taken + 1) ≤ number := by omega
      simp only [ih opened earlier' tiled done, Vocabulary.markedLines, early, decide_false,
        Bool.false_and, Bool.false_eq_true, if_false, Nat.add_assoc, Nat.add_comm 1 taken]
    | zero =>
      obtain ⟨reading, taken, next, behind, read, done', rfl⟩ := readings_cons done
      cases marked : (Directive.classify filter.vocabulary line).mark filter.vocabulary
          following with
      | mk mark lines =>
        obtain ⟨rfl, opened'⟩ := opened_of_read opened marked read
        simp only [Vocabulary.markedLines, marked] at tiled ⊢
        obtain ⟨later, tiled', agree⟩ := exists_regions_behind tiled
        have silent : mark.border? filter.vocabulary = none → taken = 0 := by
          have silent := @Directive.taken_eq_zero_of_border? filter.vocabulary
            (Directive.classify filter.vocabulary line) following
          rwa [marked] at silent
        have tail : ∀ numbered ∈ following.zipIdx (number + 1),
            (decide (number + 0 ≤ numbered.2) && filter.stays (⟨number, line, mark, taken⟩ ::
                filter.vocabulary.markedLines (number + 1) taken following) regions numbered.2) =
              (decide (number + 1 + taken ≤ numbered.2) && filter.stays
                (filter.vocabulary.markedLines (number + 1) taken following) later numbered.2) := by
          intro numbered member
          have behind : number < numbered.2 := List.le_snd_of_mem_zipIdx member
          have first : number + 0 ≤ numbered.2 := behind.le
          have same : number + taken < numbered.2 ↔ number + 1 + taken ≤ numbered.2 := by omega
          rw [stays_cons behind silent, agree _ _ behind, decide_eq_true first, Bool.true_and,
            decide_eq_decide.mpr same]
        rw [List.filterMap_cons, kept_read_eq plainFile opened earlier marked tiled read,
          List.filter_congr tail, ← ih opened' (lt_succ_of_or earlier) tiled' done']
        cases filter.stays (⟨number, line, mark, taken⟩ ::
          filter.vocabulary.markedLines (number + 1) taken following) regions number <;> simp

/-- **What a filter leaves of a file** that is not the toggle file. The borders of the file are
those of matched regions, one behind the other. The lines remain that no border covers and no region
encloses whose condition is false; an empty line behind an empty one goes, and the others are
written with their places. -/
theorem filterLines_eq_remaining {output : List Text} (plainFile : filter.isToggleFile file = false)
    (done : filter.filterLines file lines = .ok output) :
    ∃ regions : List FeatureRegion,
      filter.vocabulary.borders (filter.vocabulary.markedLines 1 0 lines) =
          regions.flatMap FeatureRegion.borders ∧
        (∀ region ∈ regions, region.Matched filter.catalog) ∧
        output = placed file [] (collapse [] (filter.remaining regions lines)) := by
  rw [filterLines_eq_map_readings] at done
  obtain ⟨readings, read, same⟩ := map_eq_ok.mp done
  obtain ⟨⟨regions, tiled, matched⟩, -⟩ :=
    (readings_verdict filter file 1 0 lines opened_none).1.mp ⟨readings, read⟩
  refine ⟨regions, tiled, matched, ?_⟩
  have kept : readings.filterMap (Reading.kept filter.enabled) = filter.remaining regions lines := by
    rw [filterMap_kept plainFile opened_none nofun tiled read]
    refine List.filter_congr fun numbered member => ?_
    have first : 1 ≤ numbered.2 := List.le_snd_of_mem_zipIdx member
    simp [first]
  rw [← same, ← kept]
  exact writeAll_eq_placed file filter.enabled [] ((kept_sublist read).1 plainFile)

end Lines

/-- A file in which both borders of a block go on over a second line. -/
def longBorders : List Text :=
  ["int a; \\".toList, "int b;".toList, [], "#if FEATURE_A && \\".toList, "  FEATURE_B".toList,
    "int c;".toList, "#endif // FEATURE_A &&".toList, "// FEATURE_B".toList, [], "int d;".toList]

/-- The block goes with both its borders, and so does the second of the empty lines around it. -/
theorem filterLines_eq_remaining_longBorders :
    twoFeatures.isToggleFile ['x'] = false ∧
      ∃ regions : List FeatureRegion,
        twoFeatures.vocabulary.borders (twoFeatures.vocabulary.markedLines 1 0 longBorders) =
            regions.flatMap FeatureRegion.borders ∧
          (∀ region ∈ regions, region.Matched twoFeatures.catalog) ∧
          ["// x:1".toList, "int a; \\".toList, "int b;".toList, "// x:3".toList, [],
              "// x:10".toList, "int d;".toList] =
            placed ['x'] [] (collapse [] (twoFeatures.remaining regions longBorders)) := by
  have plainFile : twoFeatures.isToggleFile ['x'] = false := by decide
  have done : twoFeatures.filterLines ['x'] longBorders =
      .ok ["// x:1".toList, "int a; \\".toList, "int b;".toList, "// x:3".toList, [],
        "// x:10".toList, "int d;".toList] := by
    decide +kernel
  exact ⟨plainFile, filterLines_eq_remaining plainFile done⟩

end Filter

end Amalgamation

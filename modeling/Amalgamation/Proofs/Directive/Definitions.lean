import Amalgamation.Proofs.Directive.Kinds
import Amalgamation.Proofs.Text.Trimming

/-!
# Lines that define or remove a macro

Behind the keyword of such a line stand blanks, then a name, then whatever belongs to the name. The
name may itself begin with blanks, so there can be more than one place at which it is looked for
(`Directive.mem_afterBlanks_iff`); a name that is not blank is found at one of them at most
(`Directive.Names.behind_unique`).

The readings of such lines are inverted here: what a line that is read as a definition of the
selector, as its removal or as the definition of a feature macro consists of
(`Directive.bind?_eq_some`, `Directive.unbind?_isSome_iff`, `Directive.toggle?_eq_some`), and that
no other reading gets in its way (`Directive.classify_of_define`, `Directive.classify_of_undef`).
More text at the end of a line is more text behind the name (`Directive.Names.append`).
-/

set_option autoImplicit false

namespace Amalgamation

namespace Directive

variable {vocabulary : Vocabulary} {line keyword name behind rest text value : Text}
  {directive : Directive}

/-! ## Behind the keyword -/

/-- **Where a name is looked for** behind a keyword: after one blank or more. -/
theorem mem_afterBlanks_iff :
    text ∈ afterBlanks rest ↔
      ∃ spaces, spaces ≠ [] ∧ (∀ c ∈ spaces, isBlank c) ∧ rest = spaces ++ text := by
  induction rest with
  | nil =>
    refine iff_of_false List.not_mem_nil ?_
    rintro ⟨spaces, filled, -, same⟩
    exact filled (List.append_eq_nil_iff.mp same.symm).1
  | cons c rest ih =>
    rw [afterBlanks]
    split
    · next blank =>
      rw [List.mem_append, List.mem_singleton, ih]
      constructor
      · rintro (⟨spaces, -, blanks, rfl⟩ | rfl)
        · exact ⟨c :: spaces, List.cons_ne_nil _ _, List.forall_mem_cons.mpr ⟨blank, blanks⟩, rfl⟩
        · exact ⟨[c], List.cons_ne_nil _ _, by simpa using blank, rfl⟩
      · rintro ⟨spaces, filled, blanks, same⟩
        obtain ⟨d, spaces, rfl⟩ := List.exists_cons_of_ne_nil filled
        obtain ⟨rfl, rfl⟩ := List.cons.inj same
        by_cases last : spaces = []
        · subst last
          exact .inr rfl
        · exact .inl ⟨spaces, last, (List.forall_mem_cons.mp blanks).2, rfl⟩
    · next solid =>
      refine iff_of_false List.not_mem_nil ?_
      rintro ⟨spaces, filled, blanks, same⟩
      obtain ⟨d, spaces, rfl⟩ := List.exists_cons_of_ne_nil filled
      obtain ⟨rfl, -⟩ := List.cons.inj same
      exact solid (blanks c List.mem_cons_self)

/-- The shorter ends of a text are looked at first. -/
theorem afterBlanks_split {shorter longer : List Text}
    (split : afterBlanks rest = shorter ++ text :: longer) : shorter = afterBlanks text := by
  induction rest generalizing longer with
  | nil => exact absurd split.symm (List.append_ne_nil_of_right_ne_nil _ (List.cons_ne_nil _ _))
  | cons c rest ih =>
    rw [afterBlanks] at split
    split at split
    · rcases List.append_eq_append_iff.mp split with ⟨more, rfl, same⟩ | ⟨more, earlier, same⟩
      · cases more with
        | nil =>
          obtain ⟨rfl, -⟩ : rest = text ∧ longer = [] := by simpa using same
          rw [List.append_nil]
        | cons d more => simp at same
      · cases more with
        | nil =>
          obtain ⟨rfl, -⟩ : rest = text ∧ longer = [] := by simpa using same.symm
          rw [earlier, List.append_nil]
        | cons d more =>
          obtain ⟨rfl, -⟩ := List.cons.inj same
          exact ih earlier
    · exact absurd split.symm (List.append_ne_nil_of_right_ne_nil _ (List.cons_ne_nil _ _))

/-- More text at the end of a line is more text behind its keyword. -/
theorem afterKeyword_append (filled : keyword ≠ []) (found : afterKeyword keyword line = some rest)
    (more : Text) : afterKeyword keyword (line ++ more) = some (rest ++ more) := by
  obtain ⟨behind, sign, after⟩ := Option.bind_eq_some_iff.mp found
  obtain rfl := after?_eq_some_iff.mp after
  unfold afterSign at sign
  split at sign
  · next inner start =>
    have spelled : Text.trimStart inner = keyword ++ rest := Option.some.inj sign
    have solid : Text.trimStart inner ≠ [] := by simp [spelled, filled]
    have whole : Text.trimStart (line ++ more) = '#' :: (inner ++ more) := by
      rw [Text.trimStart_append (by simp [start]), start, List.cons_append]
    have behind : afterSign (line ++ more) = some (Text.trimStart (inner ++ more)) := by
      rw [afterSign, whole]
      rfl
    rw [afterKeyword, behind, Option.bind_some, Text.trimStart_append solid, spelled,
      List.append_assoc]
    exact after?_append keyword (rest ++ more)
  · cases sign

/-- Behind a keyword and blanks, a line goes on with a name, and behind the name with a text. -/
def Names (line keyword name behind : Text) : Prop :=
  ∃ spaces, spaces ≠ [] ∧ (∀ c ∈ spaces, isBlank c) ∧
    afterKeyword keyword line = some (spaces ++ (name ++ behind))

theorem names_iff : Names line keyword name behind ↔
    ∃ rest, afterKeyword keyword line = some rest ∧ name ++ behind ∈ afterBlanks rest := by
  constructor
  · rintro ⟨spaces, filled, blank, found⟩
    exact ⟨_, found, mem_afterBlanks_iff.mpr ⟨spaces, filled, blank, rfl⟩⟩
  · rintro ⟨rest, found, member⟩
    obtain ⟨spaces, filled, blank, rfl⟩ := mem_afterBlanks_iff.mp member
    exact ⟨spaces, filled, blank, found⟩

namespace Names

theorem keyword_isSome (names : Names line keyword name behind) :
    (afterKeyword keyword line).isSome := by
  obtain ⟨_, -, -, found⟩ := names
  simp [found]

theorem append (names : Names line keyword name behind) (filled : keyword ≠ []) (more : Text) :
    Names (line ++ more) keyword name (behind ++ more) := by
  obtain ⟨spaces, some, blank, found⟩ := names
  refine ⟨spaces, some, blank, ?_⟩
  rw [afterKeyword_append filled found, List.append_assoc, List.append_assoc]

/-- **A name that is not blank** stands at one place only. -/
theorem behind_unique {behind' : Text} (visible : Text.isBlankText name = false)
    (names : Names line keyword name behind) (names' : Names line keyword name behind') :
    behind = behind' := by
  obtain ⟨spaces, -, blank, found⟩ := names
  obtain ⟨spaces', -, blank', found'⟩ := names'
  have same := Option.some.inj (found.symm.trans found')
  have solid : Text.trimStart name ≠ [] := by
    intro gone
    rw [Text.isBlankText, List.all_eq_true.mpr (List.dropWhile_eq_nil_iff.mp gone)] at visible
    cases visible
  -- The blanks in front of the first other character are those before the name and its own.
  have cut : ∀ {spaces behind : Text}, (∀ c ∈ spaces, isBlank c) →
      Text.trimStart (spaces ++ (name ++ behind)) = Text.trimStart name ++ behind := by
    intro spaces behind blank
    rw [← Text.trimStart_append solid, Text.trimStart, List.dropWhile_append_of_pos blank]
    rfl
  have texts : Text.trimStart name ++ behind = Text.trimStart name ++ behind' := by
    rw [← cut blank, same, cut blank']
  exact List.append_cancel_left texts

end Names

/-! ## One keyword only -/

/-- Of the keywords that are not conditional a line has one only. -/
theorem afterKeyword_eq_none_of_ne {other : Text} (member : keyword ∈ otherKeywords)
    (member' : other ∈ otherKeywords) (differ : other ≠ keyword)
    (found : (afterKeyword keyword line).isSome) : afterKeyword other line = none := by
  by_contra also
  have alike := keywords_alike found (Option.isSome_iff_ne_none.mpr also)
  have apart : ∀ keyword ∈ otherKeywords, ∀ other ∈ otherKeywords, other ≠ keyword →
      ¬(keyword <+: other ∨ other <+: keyword) := by decide
  exact apart keyword member other member' differ alike

theorem conditional?_eq_none (member : keyword ∈ otherKeywords)
    (found : (afterKeyword keyword line).isSome) : conditional? line = none := by
  by_contra also
  rw [afterKeyword_eq_none (Option.isSome_iff_ne_none.mpr also) member] at found
  cases found

theorem mem_define : "define".toList ∈ otherKeywords := .tail _ (.head _)

theorem mem_undef : "undef".toList ∈ otherKeywords := .tail _ (.tail _ (.head _))

theorem inclusion?_eq_none (member : keyword ∈ otherKeywords)
    (differ : "include".toList ≠ keyword) (found : (afterKeyword keyword line).isSome) :
    inclusion? line = none := by
  rw [inclusion?, afterKeyword_eq_none_of_ne member (.head _) differ found]
  rfl

/-- A line with the keyword of a definition defines the selector, a feature macro or neither. -/
theorem classify_of_define (vocabulary : Vocabulary)
    (found : (afterKeyword "define".toList line).isSome) :
    classify vocabulary line =
      ((bind? vocabulary line).or (toggle? vocabulary line)).getD .code := by
  have unbind : unbind? vocabulary line = none := by
    rw [unbind?, afterKeyword_eq_none_of_ne mem_define mem_undef (by decide) found]
    rfl
  simp only [classify_eq, unconditional?, inclusion?_eq_none mem_define (by decide) found, unbind,
    conditional?_eq_none mem_define found, Option.orElse_eq_orElse, Option.orElse_eq_or,
    Option.none_or, Option.or_none]

/-- A line with the keyword of a removal removes the selector or is code. -/
theorem classify_of_undef (vocabulary : Vocabulary)
    (found : (afterKeyword "undef".toList line).isSome) :
    classify vocabulary line = (unbind? vocabulary line).getD .code := by
  have noDefine := afterKeyword_eq_none_of_ne mem_undef mem_define (by decide) found
  have bind : bind? vocabulary line = none := by
    rw [bind?, noDefine]
    rfl
  have toggle : toggle? vocabulary line = none := by
    rw [toggle?, noDefine]
    rfl
  simp only [classify_eq, unconditional?, inclusion?_eq_none mem_undef (by decide) found, bind,
    toggle, conditional?_eq_none mem_undef found, Option.orElse_eq_orElse, Option.orElse_eq_or,
    Option.none_or, Option.or_none]

/-! ## What the readings consist of -/

theorem inclusion?_eq_some (found : inclusion? line = some directive) :
    ∃ target, directive = .inclusion target := by
  unfold inclusion? at found
  split at found
  · split at found
    · exact ⟨_, (Option.some.inj found).symm⟩
    · cases found
  · cases found

theorem unbind?_eq_some (found : unbind? vocabulary line = some directive) :
    directive = .unbind := by
  obtain ⟨_, -, found⟩ := Option.bind_eq_some_iff.mp found
  split at found
  · exact (Option.some.inj found).symm
  · cases found

/-- **A definition of the selector** has a value behind the name. -/
theorem bind?_eq_some (found : bind? vocabulary line = some directive) :
    ∃ behind value, Names line "define".toList vocabulary.selector behind ∧
      value? behind = some value ∧ directive = .bind value := by
  obtain ⟨rest, defines, found⟩ := Option.bind_eq_some_iff.mp found
  obtain ⟨value, found, same⟩ := Option.bind_eq_some_iff.mp found
  obtain ⟨text, place, found⟩ := List.exists_of_findSome?_eq_some found
  obtain ⟨behind, after, read⟩ := Option.bind_eq_some_iff.mp found
  obtain rfl := after?_eq_some_iff.mp after
  exact ⟨behind, value, names_iff.mpr ⟨rest, defines, place⟩, read, (Option.some.inj same).symm⟩

theorem bind?_isSome (names : Names line "define".toList vocabulary.selector behind)
    (read : (value? behind).isSome) : (bind? vocabulary line).isSome := by
  obtain ⟨rest, defines, place⟩ := names_iff.mp names
  obtain ⟨value, read⟩ := Option.isSome_iff_exists.mp read
  have found : ((afterBlanks rest).findSome? fun text =>
      (after? vocabulary.selector text).bind value?).isSome := by
    rw [List.findSome?_isSome_iff]
    exact ⟨_, place, by rw [after?_append, Option.bind_some, read]; rfl⟩
  obtain ⟨value, first⟩ := Option.isSome_iff_exists.mp found
  rw [bind?, defines]
  show (((afterBlanks rest).findSome? _).bind _).isSome
  rw [first]
  rfl

/-- **A removal of the selector** has nothing but blanks behind the name. -/
theorem unbind?_isSome_iff : (unbind? vocabulary line).isSome ↔
    ∃ behind, Names line "undef".toList vocabulary.selector behind ∧ Text.isBlankText behind := by
  simp only [unbind?, names_iff]
  cases afterKeyword "undef".toList line with
  | none => simp
  | some rest =>
    have places : ((afterBlanks rest).any fun text =>
        (after? vocabulary.selector text).any Text.isBlankText) ↔
          ∃ behind, vocabulary.selector ++ behind ∈ afterBlanks rest ∧
            Text.isBlankText behind := by
      simp only [List.any_eq_true, Option.any_eq_true]
      constructor
      · rintro ⟨text, place, behind, after, blank⟩
        obtain rfl := after?_eq_some_iff.mp after
        exact ⟨behind, place, blank⟩
      · rintro ⟨behind, place, blank⟩
        exact ⟨_, place, behind, after?_append _ _, blank⟩
    simp only [Option.some.injEq, exists_eq_left', ← places]
    show (if _ then some Directive.unbind else none).isSome ↔ _
    split <;> simp_all

/-- **A definition of a feature macro**: the word that begins with the feature prefix is the name,
and the rest of the line is the value. The prefix is taken where it stands last. -/
theorem toggle?_eq_some (found : toggle? vocabulary line = some directive) :
    ∃ behind, Names line "define".toList vocabulary.featurePrefix behind ∧
      '\n' ∉ behind.dropWhile isWord ∧
      directive = .toggle (vocabulary.featurePrefix ++ behind.takeWhile isWord)
        (Text.trim (behind.dropWhile isWord)) ∧
      ∀ more, vocabulary.featurePrefix ++ more ∈ afterBlanks (vocabulary.featurePrefix ++ behind) →
        '\n' ∈ more.dropWhile isWord := by
  obtain ⟨rest, defines, found⟩ := Option.bind_eq_some_iff.mp found
  obtain ⟨shorter, text, longer, split, read, later⟩ := List.findSome?_eq_some_iff.mp found
  obtain ⟨behind, after, made⟩ := Option.bind_eq_some_iff.mp read
  dsimp only at made
  split at made
  · cases made
  · next oneLine =>
    obtain rfl := after?_eq_some_iff.mp after
    have place : vocabulary.featurePrefix ++ behind ∈ afterBlanks rest := by simp [split]
    refine ⟨behind, names_iff.mpr ⟨rest, defines, place⟩, oneLine, (Option.some.inj made).symm, ?_⟩
    intro more shorterPlace
    rw [← afterBlanks_split split] at shorterPlace
    have fails := later _ shorterPlace
    simpa [after?_append] using fails

/-! ## What a classified line was read as -/

/-- A line that is classified as a definition or a removal was read as one, and a definition of a
feature macro could not be read as one of the selector. -/
theorem read_of_classify (found : classify vocabulary line = directive) (spoken : directive ≠ .code)
    (noInclusion : ∀ target, directive ≠ .inclusion target)
    (noOpening : ∀ opener condition, directive ≠ .opening opener condition)
    (noClosing : ∀ comment, directive ≠ .closing comment) :
    bind? vocabulary line = some directive ∨ unbind? vocabulary line = some directive ∨
      bind? vocabulary line = none ∧ toggle? vocabulary line = some directive := by
  rw [classify_eq] at found
  cases earlier : unconditional? vocabulary line with
  | some first =>
    obtain rfl : first = directive := by simpa [earlier] using found
    simp only [unconditional?, Option.orElse_eq_orElse, Option.orElse_eq_or,
      Option.or_eq_some_iff] at earlier
    rcases earlier with inclusion | ⟨-, bind | ⟨noBind, unbind | ⟨-, toggle⟩⟩⟩
    · obtain ⟨target, same⟩ := inclusion?_eq_some inclusion
      exact absurd same (noInclusion target)
    · exact .inl bind
    · exact .inr (.inl unbind)
    · exact .inr (.inr ⟨noBind, toggle⟩)
  | none =>
    cases later : conditional? line with
    | none => exact absurd (by simpa [earlier, later] using found.symm) spoken
    | some first =>
      obtain rfl : first = directive := by simpa [earlier, later] using found
      rcases conditional?_eq_some later with ⟨opener, condition, same⟩ | ⟨comment, same⟩
      · exact absurd same (noOpening opener condition)
      · exact absurd same (noClosing comment)

theorem bind?_of_classify (found : classify vocabulary line = .bind value) :
    bind? vocabulary line = some (.bind value) := by
  rcases read_of_classify found nofun nofun nofun nofun with bind | unbind | ⟨-, toggle⟩
  · exact bind
  · cases unbind?_eq_some unbind
  · obtain ⟨_, -, -, absurd, -⟩ := toggle?_eq_some toggle
    cases absurd

theorem unbind?_of_classify (found : classify vocabulary line = .unbind) :
    unbind? vocabulary line = some .unbind := by
  rcases read_of_classify found nofun nofun nofun nofun with bind | unbind | ⟨-, toggle⟩
  · obtain ⟨_, _, -, -, absurd⟩ := bind?_eq_some bind
    cases absurd
  · exact unbind
  · obtain ⟨_, -, -, absurd, -⟩ := toggle?_eq_some toggle
    cases absurd

theorem toggle?_of_classify (found : classify vocabulary line = .toggle name value) :
    bind? vocabulary line = none ∧ toggle? vocabulary line = some (.toggle name value) := by
  rcases read_of_classify found nofun nofun nofun nofun with bind | unbind | toggle
  · obtain ⟨_, _, -, -, absurd⟩ := bind?_eq_some bind
    cases absurd
  · cases unbind?_eq_some unbind
  · exact toggle

end Directive

end Amalgamation

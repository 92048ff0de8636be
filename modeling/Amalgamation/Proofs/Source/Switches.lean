import Amalgamation.Proofs.Directive.Definitions
import Amalgamation.Proofs.Source.Lines
import Amalgamation.Proofs.Source.Selections

/-!
# What the definitions in the toggle file say

In the toggle file a filter writes the definition of a feature macro anew: as it stands if the
feature is on, and with the value 0 if it is off. The line that it writes is read as the definition
of the same macro with that value, however the old line was laid out and whatever the selector is
called (`Directive.classify_switchOff`): where the new line could be read as a definition of the
selector, so could the old one. Nothing else that a filter writes into the toggle file is read as
such a definition (`Filter.Writes`). So the definitions in what is left of the toggle file state the
selection, each with 1 or 0 (`Filter.definitions_written`); in any other file they are kept as they
stand.

The one prefix for which the new line is misread is a run of spaces: the name then swallows the
space in front of it, and the value with it (`Filter.definitions_not_stating_selection`).
-/

set_option autoImplicit false

namespace Amalgamation

namespace Directive

/-! ## Where the prefix stands in the new line -/

/-- A text that is the same with one character more in front as with one more behind consists of
that character. -/
theorem eq_of_append_singleton {first last : Char} {text : Text}
    (same : text ++ [last] = first :: text) : ∀ c ∈ text, c = last := by
  induction text generalizing first with
  | nil => exact List.forall_mem_nil _
  | cons c text ih =>
    obtain ⟨-, rest⟩ := List.cons.inj same
    have others := ih rest
    refine List.forall_mem_cons.mpr ⟨?_, others⟩
    cases text with
    | nil => exact (List.cons.inj rest).1.symm
    | cons d text =>
      obtain ⟨rfl, -⟩ := List.cons.inj rest
      exact others d List.mem_cons_self

/-- **A name in front of ` 0`** is not found behind any of its own blanks, unless it is a run of
spaces. -/
theorem after?_eq_none_of_mem_afterBlanks {start word text : Text} (word' : ∀ c ∈ word, isWord c)
    (spelled : start = [] → word ≠ []) (noSpaces : start = [] ∨ ∃ c ∈ start, c ≠ ' ')
    (member : text ∈ afterBlanks (start ++ (word ++ [' ', '0']))) :
    after? start text = none := by
  by_contra found
  obtain ⟨more, after⟩ := Option.ne_none_iff_exists'.mp found
  obtain rfl := after?_eq_some_iff.mp after
  obtain ⟨spaces, filled, blank, same⟩ := mem_afterBlanks_iff.mp member
  -- Both sides begin with equally many blanks, and the right side has some more in front.
  have lengths := congrArg (fun text => (text.takeWhile isBlank).length) same
  simp only [List.takeWhile_append_of_pos blank, List.length_append] at lengths
  have more := List.length_pos_iff.mpr filled
  by_cases blanks : ∀ c ∈ start, isBlank c
  · simp only [List.takeWhile_append_of_pos blanks, List.length_append] at lengths
    cases word with
    | cons c word =>
      have solid : isBlank c = false := by
        by_contra blank
        rw [Bool.not_eq_false] at blank
        cases (isWord_of_isBlank blank).symm.trans (word' c List.mem_cons_self)
      simp [solid] at lengths
      omega
    | nil =>
      have one : [' ', '0'].takeWhile isBlank = [' '] := by decide
      rw [List.nil_append, one, List.length_singleton] at lengths
      obtain ⟨first, rfl⟩ := List.length_eq_one_iff.mp (show spaces.length = 1 by omega)
      have shifted : start ++ [' '] = first :: start := by
        have cut := congrArg (List.take (start.length + 1)) same
        simpa [List.take_append, List.take_of_length_le] using cut
      rcases noSpaces with empty | ⟨c, member, other⟩
      · exact spelled empty rfl
      · exact other (eq_of_append_singleton shifted c member)
  · have within : ∀ more, (start ++ more).takeWhile isBlank = start.takeWhile isBlank := by
      intro more
      rw [List.takeWhile_append]
      refine if_neg fun whole => blanks ?_
      exact List.takeWhile_eq_self_iff.mp ((List.takeWhile_prefix isBlank).eq_of_length whole)
    rw [within, within] at lengths
    omega

/-! ## The new line -/

section SwitchOff

variable {vocabulary : Vocabulary} {line name : Text}

theorem value?_isSome_iff {text : Text} :
    (value? text).isSome ↔ ∃ c rest, text = c :: rest ∧ isBlank c ∧ '\n' ∉ Text.trim rest := by
  cases text with
  | nil => simp [value?]
  | cons c rest =>
    simp only [value?]
    split <;> simp_all

/-- A line feed that is inside a trimmed text is there whatever stands behind it. -/
theorem newline_not_mem_trim_append {front behind : Text}
    (oneLine : '\n' ∉ Text.trim (front ++ [' ', '0'])) (oneLine' : '\n' ∉ behind) :
    '\n' ∉ Text.trim (front ++ behind) := by
  intro member
  have member : '\n' ∈ Text.trimStart (front ++ behind) := Text.mem_of_mem_trimEnd member
  by_cases blank : Text.trimStart front = []
  · rw [Text.trimStart, List.dropWhile_append_of_pos (List.dropWhile_eq_nil_iff.mp blank)] at member
    exact oneLine' ((List.dropWhile_suffix isBlank).subset member)
  · rw [Text.trimStart_append blank, List.mem_append] at member
    have inFront := member.resolve_right oneLine'
    refine oneLine ?_
    have whole : Text.trim (front ++ [' ', '0']) = Text.trimStart front ++ [' ', '0'] := by
      have trimmed := Text.trim_append_of_not_isBlank (c := '0') (by decide) (front ++ [' '])
      rw [Text.trimStart_append blank, List.append_assoc, List.append_assoc] at trimmed
      exact trimmed
    rw [whole]
    exact List.mem_append_left _ inFront

/-- What stands behind the name of a macro that is defined as 1 begins with a blank. -/
theorem exists_blank_of_trim {text : Text} (one : Text.trim text = ['1'])
    (apart : text.head?.any isWord = false) : ∃ c rest, text = c :: rest ∧ isBlank c := by
  cases text with
  | nil => cases one
  | cons c rest =>
    refine ⟨c, rest, rfl, ?_⟩
    by_contra solid
    have start : Text.trimStart (c :: rest) = c :: rest := List.dropWhile_cons_of_neg solid
    rw [Text.trim, start, Text.trimEnd_cons_of_not_isBlank (by simpa using solid)] at one
    obtain ⟨rfl, -⟩ := List.cons.inj one
    have digit : isWord '1' = true := by decide
    cases digit.symm.trans apart

theorem afterKeyword_switchOff (name : Text) :
    afterKeyword "define".toList (Text.switchOff name) = some (' ' :: (name ++ [' ', '0'])) := rfl

/-- **The new line defines the selector only if the old one did.** -/
theorem bind?_of_switchOff {word rest : Text}
    (names : Names line "define".toList vocabulary.featurePrefix (word ++ rest))
    (one : Text.trim rest = ['1']) (apart : rest.head?.any isWord = false) (oneLine : '\n' ∉ rest)
    (bound : (bind? vocabulary (Text.switchOff (vocabulary.featurePrefix ++ word))).isSome) :
    (bind? vocabulary line).isSome := by
  obtain ⟨directive, bound⟩ := Option.isSome_iff_exists.mp bound
  obtain ⟨behind, value, ⟨spaces, filled, blank, found⟩, read, -⟩ := bind?_eq_some bound
  obtain ⟨c, behind, rfl, blankHere, inner⟩ := value?_isSome_iff.mp (by rw [read]; rfl)
  rw [afterKeyword_switchOff] at found
  obtain ⟨first, spaces, rfl⟩ := List.exists_cons_of_ne_nil filled
  obtain ⟨-, ends⟩ := List.cons.inj (Option.some.inj found)
  -- The blank behind the selector is not the last character, so the selector ends inside the name.
  obtain ⟨more, inName, tail⟩ : ∃ more,
      vocabulary.featurePrefix ++ word = spaces ++ vocabulary.selector ++ more ∧
        c :: behind = more ++ [' ', '0'] := by
    have whole : vocabulary.featurePrefix ++ word ++ [' ', '0'] =
        spaces ++ vocabulary.selector ++ c :: behind := by
      rw [List.append_assoc spaces]
      exact ends
    rcases List.append_eq_append_iff.mp whole with ⟨beyond, reaches, last⟩ | inside
    · match beyond, last with
      | [], last => exact ⟨[], by rw [reaches, List.append_nil, List.append_nil], last.symm⟩
      | [_], last =>
        obtain ⟨-, rest⟩ := List.cons.inj last
        obtain ⟨rfl, -⟩ := List.cons.inj rest
        cases blankHere
      | _ :: _ :: _, last => simp at last
    · exact inside
  obtain ⟨spaces', filled', blank', place⟩ := names
  have namesSelector : Names line "define".toList vocabulary.selector (more ++ rest) := by
    refine ⟨spaces' ++ spaces, ?_, ?_, ?_⟩
    · simp [filled']
    · exact fun c member => (List.mem_append.mp member).elim (blank' c)
        fun member => blank c (List.mem_cons_of_mem _ member)
    · rw [place, ← List.append_assoc vocabulary.featurePrefix, inName]
      simp only [List.append_assoc]
  refine bind?_isSome namesSelector ?_
  cases more with
  | nil =>
    obtain ⟨d, rest, rfl, blankThere⟩ := exists_blank_of_trim one apart
    exact value?_isSome_iff.mpr ⟨d, rest, rfl, blankThere,
      fun member => oneLine (List.mem_cons_of_mem _ (Text.mem_of_mem_trim member))⟩
  | cons d more =>
    obtain ⟨rfl, rfl⟩ := List.cons.inj tail
    exact value?_isSome_iff.mpr ⟨c, more ++ rest, rfl, blankHere,
      newline_not_mem_trim_append inner oneLine⟩

/-- The new line is read as a definition of the macro that it was made for. -/
theorem toggle?_switchOff {word : Text} (word' : ∀ c ∈ word, isWord c)
    (visible : vocabulary.featurePrefix = [] → word ≠ [])
    (noSpaces : vocabulary.featurePrefix = [] ∨ ∃ c ∈ vocabulary.featurePrefix, c ≠ ' ') :
    toggle? vocabulary (Text.switchOff (vocabulary.featurePrefix ++ word)) =
      some (.toggle (vocabulary.featurePrefix ++ word) ['0']) := by
  have noWord : isWord ' ' = false := by decide
  have takes : (word ++ [' ', '0']).takeWhile isWord = word := by
    rw [List.takeWhile_append_of_pos word', List.takeWhile_cons_of_neg (by simp [noWord]),
      List.append_nil]
  have drops : (word ++ [' ', '0']).dropWhile isWord = [' ', '0'] := by
    rw [List.dropWhile_append_of_pos word', List.dropWhile_cons_of_neg (by simp [noWord])]
  have nowhere : ∀ text ∈ afterBlanks (vocabulary.featurePrefix ++ (word ++ [' ', '0'])),
      after? vocabulary.featurePrefix text = none :=
    fun _ => after?_eq_none_of_mem_afterBlanks word' visible noSpaces
  rw [toggle?, afterKeyword_switchOff, List.append_assoc, Option.bind_eq_bind, Option.bind_some,
    afterBlanks, if_pos (by decide), List.findSome?_append,
    List.findSome?_eq_none_iff.mpr fun text member => by rw [nowhere text member]; rfl,
    Option.none_or, List.findSome?_singleton, after?_append]
  show (if '\n' ∈ (word ++ [' ', '0']).dropWhile isWord then none else some _) = _
  rw [drops, takes]
  rfl

/-- An empty prefix is looked for behind the last blank; the value 1 is not taken for the name. -/
theorem takeWhile_ne_nil_of_trim {behind : Text}
    (one : Text.trim (behind.dropWhile isWord) = ['1'])
    (apart : (behind.dropWhile isWord).head?.any isWord = false)
    (oneLine : '\n' ∉ behind.dropWhile isWord)
    (last : ∀ more ∈ afterBlanks behind, '\n' ∈ more.dropWhile isWord) :
    behind.takeWhile isWord ≠ [] := by
  intro nameless
  obtain ⟨c, rest, start, blank⟩ := exists_blank_of_trim one apart
  have whole : behind = c :: rest := by
    rw [← List.takeWhile_append_dropWhile (p := isWord) (l := behind), nameless, start]
    rfl
  have place : rest ∈ afterBlanks behind :=
    mem_afterBlanks_iff.mpr ⟨[c], List.cons_ne_nil _ _, by simpa using blank, whole⟩
  refine oneLine (start ▸ List.mem_cons_of_mem c ?_)
  exact (List.dropWhile_suffix isWord).subset (last rest place)

/-- **The new line defines the same macro as 0**, whatever the old line looked like. -/
theorem classify_switchOff
    (noSpaces : vocabulary.featurePrefix = [] ∨ ∃ c ∈ vocabulary.featurePrefix, c ≠ ' ')
    (toggles : classify vocabulary line = .toggle name ['1']) :
    classify vocabulary (Text.switchOff name) = .toggle name ['0'] := by
  obtain ⟨noBind, read⟩ := toggle?_of_classify toggles
  obtain ⟨behind, names, oneLine, same, last⟩ := toggle?_eq_some read
  obtain ⟨rfl, spelled⟩ := Directive.toggle.inj same
  have one : Text.trim (behind.dropWhile isWord) = ['1'] := spelled.symm
  have word : ∀ c ∈ behind.takeWhile isWord, isWord c := fun c => List.mem_takeWhile_imp
  have apart : (behind.dropWhile isWord).head?.any isWord = false := by
    have first := List.head?_dropWhile_not isWord behind
    cases start : (behind.dropWhile isWord).head? with
    | none => rfl
    | some c => simpa [start] using first
  have visible : vocabulary.featurePrefix = [] → behind.takeWhile isWord ≠ [] := by
    intro empty
    simp only [empty, List.nil_append] at last
    exact takeWhile_ne_nil_of_trim one apart oneLine last
  have bind : bind? vocabulary
      (Text.switchOff (vocabulary.featurePrefix ++ behind.takeWhile isWord)) = none := by
    by_contra bound
    rw [← List.takeWhile_append_dropWhile (p := isWord) (l := behind)] at names
    have also := bind?_of_switchOff names one apart oneLine (Option.isSome_iff_ne_none.mpr bound)
    rw [noBind] at also
    cases also
  rw [classify_of_define vocabulary (by rw [afterKeyword_switchOff]; rfl), bind,
    toggle?_switchOff word visible noSpaces]
  rfl

end SwitchOff

end Directive

/-! ## The definitions that are left -/

namespace Filter

/-- **What the definitions state that a filter leaves.** In the toggle file each of them has the
value 1 if the feature is on and the value 0 if it is off; in any other file each is a line of the
file as it stands. -/
theorem definitions_written {filter : Filter} {file : Text} {lines written : List Text}
    (noSpaces : filter.vocabulary.featurePrefix = [] ∨
      ∃ c ∈ filter.vocabulary.featurePrefix, c ≠ ' ')
    (done : filter.filterLines file lines = .ok written) {line name value : Text}
    (member : line ∈ written)
    (toggles : Directive.classify filter.vocabulary line = .toggle name value) :
    (filter.isToggleFile file →
        value = if filter.enabled.contains name then ['1'] else ['0']) ∧
      (filter.isToggleFile file = false → line ∈ lines) := by
  cases writes_run done member with
  | origin number =>
    rw [Directive.classify_of_afterSign_eq_none filter.vocabulary rfl] at toggles
    cases toggles
  | kept member plain =>
    refine ⟨fun inToggleFile => ?_, fun _ => member⟩
    rw [plain name value toggles] at inToggleFile
    cases inToggleFile
  | @switched line old member inToggleFile toggles' =>
    refine ⟨fun _ => ?_, fun elsewhere => ?_⟩
    · split at toggles
      · next on =>
        obtain ⟨rfl, rfl⟩ := Directive.toggle.inj (toggles'.symm.trans toggles)
        rw [if_pos on]
      · next off =>
        have new := Directive.classify_switchOff noSpaces toggles'
        obtain ⟨rfl, rfl⟩ := Directive.toggle.inj (new.symm.trans toggles)
        rw [if_neg off]
    · rw [elsewhere] at inToggleFile
      cases inToggleFile

/-- The filter with the first of two features on. -/
def firstFeature : Filter := twoFeatures.select (.ofNames ["FEATURE_A".toList])

/-- A feature that is on and one that is off, and the line of the second was laid out with tabs. -/
theorem definitions_written_firstFeature :
    ∃ written, firstFeature.filterLines "t.h".toList
        [" # define FEATURE_A  1".toList, "#define\t\tFEATURE_B\t1\t".toList] = .ok written ∧
      "#define FEATURE_B 0".toList ∈ written ∧
      Directive.classify firstFeature.vocabulary "#define FEATURE_B 0".toList =
        .toggle "FEATURE_B".toList ['0'] ∧
      ['0'] = if firstFeature.enabled.contains "FEATURE_B".toList then ['1'] else ['0'] := by
  have done : firstFeature.filterLines "t.h".toList
      [" # define FEATURE_A  1".toList, "#define\t\tFEATURE_B\t1\t".toList] =
        .ok [" # define FEATURE_A  1".toList, "#define FEATURE_B 0".toList] := by decide +kernel
  have member : "#define FEATURE_B 0".toList ∈
      [" # define FEATURE_A  1".toList, "#define FEATURE_B 0".toList] := by decide
  have toggles : Directive.classify firstFeature.vocabulary "#define FEATURE_B 0".toList =
      .toggle "FEATURE_B".toList ['0'] := by decide +kernel
  exact ⟨_, done, member, toggles,
    (definitions_written (.inr ⟨'F', by decide, by decide⟩) done member toggles).1 (by decide)⟩

/-- The filter whose feature prefix is a space. -/
def spacePrefix : Filter := { twoFeatures with vocabulary := ⟨[' '], "SELECTOR".toList⟩ }

/-- **Definitions that do not state the selection.** A file that is not the toggle file keeps the
definition of a feature that is off. And if the feature prefix is a space, a line that is left of
the toggle file is read as the definition of a macro without a value. -/
theorem definitions_not_stating_selection :
    (firstFeature.filterLines ['x'] ["#define FEATURE_B 1".toList] =
          .ok ["// x:1".toList, "#define FEATURE_B 1".toList] ∧
        Directive.classify firstFeature.vocabulary "#define FEATURE_B 1".toList =
          .toggle "FEATURE_B".toList ['1'] ∧
        firstFeature.enabled.contains "FEATURE_B".toList = false) ∧
      spacePrefix.isToggleFile "t.h".toList ∧
      spacePrefix.filterLines "t.h".toList ["#define  \t1".toList] = .ok ["#define   0".toList] ∧
      Directive.classify spacePrefix.vocabulary "#define   0".toList =
        .toggle " 0".toList [] ∧
      spacePrefix.enabled.contains " 0".toList = false := by
  decide +kernel

end Filter

end Amalgamation

import Amalgamation.Pattern.Engine
import Amalgamation.Proofs.Pattern.Grouping
import Amalgamation.Proofs.Pattern.Matching

/-!
# What is known of an engine

What is proved of patterns holds for every engine that keeps to three sentences of its documentation
(`PatternEngine.Documented`): a search tells whether there is a match anywhere in a text, a caret
matches at the beginning of a text, and what is written one after another is matched one after
another. They are said with a relation that tells which stretches of a text a compiled pattern
matches.

The engine at hand is one of these (`Pattern.engine_documented`). A character that can be read alone
becomes one item, whatever stands behind it (`Pattern.exists_item`), and a text in a group behind it
is read as it is read alone (`Pattern.eq_of_reads_behind`).
-/

set_option autoImplicit false

namespace Amalgamation

/-- **What the documentation of an engine says.** The relation holds if a compiled pattern matches
the stretch of a text from one position to another. -/
structure PatternEngine.Documented (engine : PatternEngine)
    (Matches : engine.Regex → Text → Nat → Nat → Prop) : Prop where
  /-- A search tells whether there is a match anywhere in the text. -/
  isMatch_iff : ∀ {spelled : Text} {regex : engine.Regex}, engine.compile spelled = some regex →
    ∀ text, engine.isMatch regex text ↔ ∃ i j, Matches regex text i j
  /-- A caret matches the empty stretch at the beginning of a text. -/
  caret : ∃ regex, engine.compile ['^'] = some regex ∧
    ∀ text i j, Matches regex text i j ↔ i = 0 ∧ j = 0
  /-- One character other than a bar, if it is a pattern, and behind it another pattern in a group
  without a number: a match of the one, and behind it a match of the other. -/
  concatenation : ∀ {c : Char} {spelled : Text} {first second whole : engine.Regex}, c ≠ '|' →
    engine.compile [c] = some first → engine.compile spelled = some second →
    engine.compile (c :: "(?:".toList ++ spelled ++ [')']) = some whole →
    ∀ text i k, Matches whole text i k ↔ ∃ j, Matches first text i j ∧ Matches second text j k

namespace Pattern

variable {c : Char} {text spelled : Text} {item : Part} {token : Token}
  {first second whole : Pattern}

/-! ## One character -/

/-- **A character that can be read alone** is one item, whatever stands behind it, unless it is a
bar. -/
theorem exists_item {part : Part} (alone : readFrom .start .start [c] = some part)
    (single : c ≠ '|') :
    ∃ token item, (∀ next, Reader.start.step c next = some (.start, [token])) ∧
      ∀ read : Draft, read.step token = some (read.push item) := by
  obtain ⟨after, tokens, read, stepped, followed, ended⟩ := readFrom_cons_eq_some alone
  obtain ⟨complete, top, -⟩ := readFrom_nil_eq_some_iff.mp ended
  have plain (next : Text) : Reader.start.step c next = Reader.start.stepPlain c next := rfl
  rw [plain] at stepped
  simp only [plain]
  unfold Reader.stepPlain at stepped
  split at stepped
  case h_5 => exact absurd rfl single
  case h_10 => exact ⟨_, _, fun _ => rfl, fun _ => rfl⟩
  case h_11 | h_12 => exact ⟨_, _, fun _ => rfl, fun _ => rfl⟩
  case h_13 =>
    refine ⟨.one (Flags.standard.fold (.single c)) 0, _, fun next => ?_, fun _ => rfl⟩
    unfold Reader.stepPlain
    split <;> first | rfl | contradiction
  -- No other character is a pattern. Some begin what goes on behind them,
  case h_1 | h_2 | h_9 =>
    cases stepped
    cases complete
  case h_3 =>
    cases stepped
    cases followed
    cases top
  -- and what the others close or repeat is not there.
  all_goals
    cases stepped
    cases followed

/-! ## A group behind a character -/

/-- What is read before the text in a group behind a character: its item, and a group that is
opened. -/
theorem readFrom_behind
    (reads : ∀ next, Reader.start.step c next = some (.start, [token]))
    (pushes : ∀ read : Draft, read.step token = some (read.push item)) (text : Text) :
    readFrom .start .start (c :: "(?:".toList ++ text ++ [')']) =
      readFrom (Reader.start.inside [.standard])
        (Draft.start.inside [(OpenGroup.start none).push item]) (text ++ [')']) := by
  have parenthesis : Reader.start.step '(' ('?' :: ':' :: (text ++ [')'])) =
      some ({ Reader.start with mode := .groupMark }, []) := rfl
  have mark : Reader.step { Reader.start with mode := .groupMark } '?' (':' :: (text ++ [')'])) =
      some ({ Reader.start with mode := .groupKind }, []) := rfl
  have colon : Reader.step { Reader.start with mode := .groupKind } ':' (text ++ [')']) =
      some (Reader.start.inside [.standard], [.opening .plain]) := rfl
  have spliced : c :: "(?:".toList ++ text ++ [')'] =
      c :: '(' :: '?' :: ':' :: (text ++ [')']) := rfl
  rw [spliced, readFrom_cons (reads _), Draft.foldlM_singleton, pushes]
  show readFrom .start (Draft.start.push item) _ = _
  rw [readFrom_cons parenthesis]
  show readFrom _ (Draft.start.push item) _ = _
  rw [readFrom_cons mark]
  show readFrom _ (Draft.start.push item) _ = _
  rw [readFrom_cons colon, Draft.foldlM_singleton]
  rfl

/-- **A text in a group behind a character** spells the pattern of the text behind the pattern of
the character. -/
theorem eq_of_reads_behind (single : c ≠ '|') (front : Reads [c] first)
    (inner : Reads spelled second)
    (reads : Reads (c :: "(?:".toList ++ spelled ++ [')']) whole) :
    whole = .sequence first second := by
  obtain ⟨_, front, rfl⟩ := front
  obtain ⟨_, inner, rfl⟩ := inner
  obtain ⟨_, reads, rfl⟩ := reads
  obtain ⟨token, item, stepped, pushes⟩ := exists_item front single
  rw [readFrom_behind stepped pushes] at reads
  obtain ⟨number, rfl⟩ := readFrom_inside rfl inner reads
  rw [readFrom_cons (stepped []), Draft.foldlM_singleton, pushes] at front
  cases Option.some.inj front
  cases number <;> rfl

/-! ## The engine at hand -/

/-- A pattern matches a stretch that begins in the text. -/
def Matches (pattern : Pattern) (text : Text) (i j : Nat) : Prop :=
  i ≤ text.length ∧ Spans text pattern i j

/-- Nothing stands in front of the beginning of a text only. -/
theorem matches_textStart_iff {i j : Nat} :
    Matches (.here .textStart) text i j ↔ i = 0 ∧ j = 0 := by
  constructor
  · rintro ⟨inside, rfl, starts⟩
    have first : (text.take i).getLast? = none := Option.isNone_iff_eq_none.mp starts
    rcases List.take_eq_nil_iff.mp (List.getLast?_eq_none_iff.mp first) with rfl | rfl
    · exact ⟨rfl, rfl⟩
    · exact ⟨Nat.le_zero.mp inside, Nat.le_zero.mp inside⟩
  · rintro ⟨rfl, rfl⟩
    exact ⟨Nat.zero_le _, rfl, rfl⟩

theorem matches_sequence_iff {i k : Nat} :
    Matches (.sequence first second) text i k ↔
      ∃ j, Matches first text i j ∧ Matches second text j k := by
  constructor
  · rintro ⟨inside, j, before, behind⟩
    exact ⟨j, ⟨inside, before⟩, before.le_length inside, behind⟩
  · rintro ⟨j, ⟨inside, before⟩, -, behind⟩
    exact ⟨inside, j, before, behind⟩

theorem parse_caret : parse ['^'] = some (.here .textStart) := by decide +kernel

/-- **The engine at hand keeps to the documentation.** -/
theorem engine_documented : engine.Documented Matches where
  isMatch_iff compiled _ := occursIn_iff (reads_of_parse compiled).ordered
  caret := ⟨.here .textStart, parse_caret, fun _ _ _ => matches_textStart_iff⟩
  concatenation single first second whole _ _ _ := by
    rw [eq_of_reads_behind single (reads_of_parse first) (reads_of_parse second)
      (reads_of_parse whole)]
    exact matches_sequence_iff

end Pattern

end Amalgamation

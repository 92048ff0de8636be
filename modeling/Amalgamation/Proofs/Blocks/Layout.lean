import Amalgamation.Proofs.Blocks.Boundary
import Amalgamation.Proofs.Directive.Continuations
import Amalgamation.Proofs.Feature.Beginnings
import Amalgamation.Proofs.Feature.Unfinished

/-!
# The layout of a condition

A condition may be laid out over several lines, between any two of its tokens. On an `#if` a
backslash at the end of a line continues it on the next; behind an `#endif` it goes on in further
comment lines. The parts of the condition are what stands on the single lines.

Joining the lines of an `#if` joins the tokens of the parts, and it takes every line but the first
(`exists_joinContinued`). Joining comment lines does, too, though nothing marks a line that is
continued (`exists_joinComment`): wherever a condition is cut, what stands in front of the cut is
unfinished, or what stands behind it starts with a connective (`goesOn_of_run`). So in a usable
configuration the layout of a condition does not matter (`Checker.layout_irrelevant`).
-/

set_option autoImplicit false

namespace Amalgamation

/-! ## Lines that a backslash continues -/

/-- The line of a part of a condition: a backslash continues it if more parts follow. -/
def Text.continuedLine (part : Text) (later : List Text) : Text :=
  if later = [] then part else part ++ ['\\']

/-- The lines of parts, each of them continued on the next one. -/
def Text.continuedLines : List Text → List Text
  | [] => []
  | part :: later => Text.continuedLine part later :: Text.continuedLines later

section Continued

variable {start part : Text} {later : List Text}

theorem Text.continuedLine_of_ne_nil (more : later ≠ []) (part : Text) :
    Text.continuedLine part later = part ++ ['\\'] :=
  if_neg more

theorem slash_not_mem_continuedLine (noSlash : '/' ∉ part) (later : List Text) :
    '/' ∉ Text.continuedLine part later := by
  unfold Text.continuedLine
  split
  · exact noSlash
  · simpa using noSlash

/-- A backslash takes the next line and is itself left out. -/
theorem joinContinued_backslash (condition next : Text) (following : List Text) :
    joinContinued (condition ++ ['\\']) (next :: following) =
      (joinContinued (Text.trimEnd condition ++ ' ' :: withoutComment next) following).map id
        (· + 1) := by
  rw [joinContinued, if_pos List.getLast?_concat, List.dropLast_concat]
  rfl

/-- **Joining continued lines joins the tokens of the parts**, and takes a line for each part. The
text `start` in front of them has to end where a token does. -/
theorem exists_joinContinued
    (closed : ∀ text, Token.scan (start ++ text) = Token.scan start ++ Token.scan text)
    (noBackslash : '\\' ∉ start) (clean : ∀ piece ∈ part :: later, '/' ∉ piece ∧ '\\' ∉ piece)
    (behind : List Text) :
    ∃ text, joinContinued (start ++ Text.trim (Text.continuedLine part later))
        (Text.continuedLines later ++ behind) = (text, later.length) ∧
      Token.scan text = Token.scan start ++ (part :: later).flatMap Token.scan := by
  induction later generalizing start part with
  | nil =>
    have absent : '\\' ∉ start ++ Text.trim part := by
      rw [List.mem_append, not_or]
      refine ⟨noBackslash, fun member => ?_⟩
      exact (clean part List.mem_cons_self).2 (Text.mem_of_mem_trim member)
    refine ⟨_, joinContinued_of_not_mem absent _, ?_⟩
    rw [Token.scan_trim, closed, Token.scan_trim, List.flatMap_cons, List.flatMap_nil,
      List.append_nil]
  | cons next later ih =>
    have solid : isBlank '\\' = false := by decide
    obtain ⟨here, others⟩ := List.forall_mem_cons.mp clean
    have line : start ++ Text.trim (Text.continuedLine part (next :: later)) =
        (start ++ Text.trimStart part) ++ ['\\'] := by
      rw [Text.continuedLine_of_ne_nil (List.cons_ne_nil _ _),
        Text.trim_append_of_not_isBlank solid, List.append_assoc]
    have bare : withoutComment (Text.continuedLine next later) =
        Text.trim (Text.continuedLine next later) := by
      have noSlash := slash_not_mem_continuedLine (others next List.mem_cons_self).1 later
      rw [withoutComment, beforeComment_eq_self noSlash]
    let front := Text.trimEnd (start ++ Text.trimStart part)
    have scanned : Token.scan front = Token.scan start ++ Token.scan part := by
      rw [Token.scan_trimEnd, closed, Token.scan_trimStart]
    have spaced : Token.scan (front ++ [' ']) = Token.scan front := by
      have nothing : Token.scan [] = [] := rfl
      rw [Token.scan_append_space, nothing, List.append_nil]
    have closed' : ∀ text,
        Token.scan (front ++ [' '] ++ text) = Token.scan (front ++ [' ']) ++ Token.scan text := by
      intro text
      rw [List.append_assoc, List.singleton_append, Token.scan_append_space, spaced]
    have noBackslash' : '\\' ∉ front ++ [' '] := by
      intro member
      rcases List.mem_append.mp member with inside | last
      · rcases List.mem_append.mp (Text.mem_of_mem_trimEnd inside) with before | behind
        · exact noBackslash before
        · exact here.2 ((List.dropWhile_suffix isBlank).subset behind)
      · cases List.mem_singleton.mp last
    obtain ⟨text, joined, whole⟩ := ih closed' noBackslash' others
    refine ⟨text, ?_, ?_⟩
    · rw [List.append_assoc, List.singleton_append] at joined
      rw [line, Text.continuedLines, List.cons_append, joinContinued_backslash, bare, joined]
      rfl
    · rw [whole, spaced, scanned, List.append_assoc]
      rfl

end Continued

/-! ## Comment lines -/

section Comments

variable {vocabulary : Vocabulary} {catalog : Catalog} {condition : FeatureExpr}
  {comment : Text} {parts lines behind : List Text} {state : ParseState}

theorem solid_of_commentLine {line part : Text} (found : commentLine line = some part) :
    ∀ c ∈ part.head?, isBlank c = false := by
  intro c first
  unfold commentLine at found
  split at found
  · obtain rfl := Option.some.inj found
    exact Text.solid_of_mem_head?_trim first
  · cases found

/-- The lines behind a comment do not go on with it: the first of them is no comment line that
speaks of a feature and starts with a sign. -/
def Vocabulary.EndsComment (vocabulary : Vocabulary) (behind : List Text) : Prop :=
  ∀ part ∈ behind.head?.bind commentLine, ¬(vocabulary.mentions part ∧ startsWithSign part)

instance (vocabulary : Vocabulary) (behind : List Text) :
    Decidable (vocabulary.EndsComment behind) :=
  inferInstanceAs (Decidable (∀ part ∈ behind.head?.bind commentLine, _))

/-- A comment line that speaks of a feature is taken where the comment goes on. -/
theorem joinComment_of_goesOn {line part : Text} (found : commentLine line = some part)
    (speaks : vocabulary.mentions part)
    (goesOn : isUnfinished comment || startsWithSign part) (following : List Text) :
    joinComment vocabulary comment (line :: following) =
      (joinComment vocabulary (comment ++ ' ' :: part) following).map id (· + 1) := by
  have taken : (vocabulary.mentions part && (isUnfinished comment || startsWithSign part)) := by
    rw [speaks, goesOn]
    rfl
  rw [joinComment, found]
  exact if_pos taken

/-- A comment in which a condition has ended takes no line that does not go on with it. -/
theorem joinComment_of_finished (finished : isUnfinished comment = false)
    (stops : vocabulary.EndsComment behind) :
    joinComment vocabulary comment behind = (comment, 0) := by
  cases behind with
  | nil => rfl
  | cons next behind =>
    rw [joinComment]
    split
    · rfl
    · next part found =>
      refine if_neg fun goesOn => stops part found ?_
      simpa [finished] using goesOn

/-- **Where a condition is cut**, the text in front is unfinished or the text behind starts with a
sign. -/
theorem goesOn_of_run {part : Text} {rest : List Token} (filled : Token.scan comment ≠ [])
    (identifiers : ∀ word, .word word ∈ Token.scan comment → isIdentifier word)
    (reached : ParseState.after catalog .start (Token.scan comment) = .ok state)
    (said : Token.scan part ≠ []) (solid : ∀ c ∈ part.head?, isBlank c = false)
    (read : state.run catalog (Token.scan part ++ rest) = .ok condition) :
    isUnfinished comment || startsWithSign part := by
  rw [Bool.or_eq_true]
  cases done : state.finish with
  | error e => exact .inl ((isUnfinished_iff filled identifiers reached).mpr ⟨e, done⟩)
  | ok whole =>
    obtain ⟨token, tokens, scanned⟩ := List.exists_cons_of_ne_nil said
    rw [scanned, List.cons_append, ParseState.run] at read
    split at read
    · cases read
    · next stepped =>
      obtain ⟨connective, rfl, -⟩ := ParseState.sign_of_step done stepped
      exact .inr (startsWithSign_of_scan solid scanned)

/-- **Joining comment lines joins the tokens of the parts**, and takes a line for each part, if the
line behind them does not go on with the comment. -/
theorem exists_joinComment (leads : vocabulary.Leads catalog)
    (filled : Token.scan comment ≠ [])
    (declared : ∀ word, .word word ∈ Token.scan comment ++ parts.flatMap Token.scan →
      isIdentifier word ∧ catalog.declares word)
    (reached : ParseState.after catalog .start (Token.scan comment) = .ok state)
    (read : state.run catalog (parts.flatMap Token.scan) = .ok condition)
    (named : ∀ part ∈ parts, ∃ word, .word word ∈ Token.scan part)
    (aligned : List.Forall₂ (fun line part => commentLine line = some (Text.trim part)) lines parts)
    (stops : vocabulary.EndsComment behind) :
    ∃ text, joinComment vocabulary comment (lines ++ behind) = (text, parts.length) ∧
      Token.scan text = Token.scan comment ++ parts.flatMap Token.scan := by
  induction aligned generalizing comment state with
  | nil =>
    rw [List.flatMap_nil, List.append_nil] at declared
    have finished : isUnfinished comment = false := by
      rw [Bool.eq_false_iff, Ne,
        isUnfinished_iff filled (fun word member => (declared word member).1) reached]
      rintro ⟨e, failed⟩
      cases failed.symm.trans read
    exact ⟨comment, joinComment_of_finished finished stops, by simp⟩
  | @cons line part lines parts found _ ih =>
    obtain ⟨here, later⟩ := List.forall_mem_cons.mp named
    rw [List.flatMap_cons] at declared read
    have before : ∀ word, .word word ∈ Token.scan comment → isIdentifier word :=
      fun word member => (declared word (List.mem_append_left _ member)).1
    have inside : ∀ word, .word word ∈ Token.scan (Text.trim part) →
        isIdentifier word ∧ catalog.declares word := by
      intro word member
      rw [Token.scan_trim] at member
      exact declared word (List.mem_append_right _ (List.mem_append_left _ member))
    obtain ⟨word, member⟩ := here
    rw [← Token.scan_trim] at member
    have speaks := leads.mentions_of_words inside ⟨word, member⟩
    have goesOn := goesOn_of_run filled before reached (List.ne_nil_of_mem member)
      (solid_of_commentLine found) (by rwa [Token.scan_trim])
    have joined : Token.scan (comment ++ ' ' :: Text.trim part) =
        Token.scan comment ++ Token.scan part := by
      rw [Token.scan_append_space, Token.scan_trim]
    obtain ⟨next, reached', read'⟩ := bind_eq_ok.mp (ParseState.run_append.symm.trans read)
    have filled' : Token.scan (comment ++ ' ' :: Text.trim part) ≠ [] := by
      rw [joined]
      exact List.append_ne_nil_of_left_ne_nil filled _
    obtain ⟨text, rest, whole⟩ := ih filled' (by rwa [joined, List.append_assoc])
      (by rw [joined, ParseState.after_append, reached]; exact reached') read' later
    refine ⟨text, ?_, ?_⟩
    · rw [List.cons_append, joinComment_of_goesOn found speaks goesOn, rest]
      rfl
    · rw [whole, joined, List.append_assoc]
      rfl

end Comments

/-! ## Any layout -/

section Layout

variable {vocabulary : Vocabulary} {catalog : Catalog} {condition : FeatureExpr}
  {first line : Text} {later lines behind : List Text}

/-- The words of a laid out condition are declared names. -/
theorem declared_of_layout
    (read : FeatureExpr.ofTokens catalog ((first :: later).flatMap Token.scan) = .ok condition)
    {part word : Text} (member : part ∈ first :: later) (listed : .word word ∈ Token.scan part) :
    isIdentifier word ∧ catalog.declares word := by
  obtain ⟨connective, derived⟩ := FeatureExpr.derives_of_ofTokens read
  exact derived.declared_of_mem (List.mem_flatMap.mpr ⟨part, member, listed⟩)

/-- No part of a laid out condition holds a slash or a backslash. -/
theorem clean_of_layout
    (read : FeatureExpr.ofTokens catalog ((first :: later).flatMap Token.scan) = .ok condition) :
    ∀ part ∈ first :: later, '/' ∉ part ∧ '\\' ∉ part := by
  intro part member
  have identifiers : ∀ word, .word word ∈ Token.scan part → isIdentifier word :=
    fun word listed => (declared_of_layout read member listed).1
  exact ⟨fun inside => absurd (Token.char_of_identifiers identifiers inside) (by decide),
    fun inside => absurd (Token.char_of_identifiers identifiers inside) (by decide)⟩

/-- **The condition of an `#if`** can be laid out on lines that backslashes continue. -/
theorem featureCondition_of_layout (leads : vocabulary.Leads catalog)
    (read : FeatureExpr.ofTokens catalog ((first :: later).flatMap Token.scan) = .ok condition)
    (opens : Directive.afterWholeKeyword Opener.ifTrue.keyword line =
      some (Text.continuedLine first later)) :
    ∃ text, (Directive.classify vocabulary line).featureCondition vocabulary
        (Text.continuedLines later ++ behind) = some (text, later.length) ∧
      FeatureExpr.parse catalog text = .ok condition := by
  have clean := clean_of_layout read
  have noSlash := slash_not_mem_continuedLine (clean first List.mem_cons_self).1 later
  have empty : ∀ text, Token.scan ([] ++ text) = Token.scan [] ++ Token.scan text := fun _ => rfl
  obtain ⟨text, joined, scanned⟩ := exists_joinContinued empty List.not_mem_nil clean behind
  rw [List.nil_append] at joined
  have spelled : FeatureExpr.parse catalog text = .ok condition := by
    rw [FeatureExpr.parse, scanned]
    exact read
  refine ⟨text, ?_, spelled⟩
  rw [Directive.classify_of_conditional vocabulary (Directive.conditional?_of_if opens),
    Directive.featureCondition, withoutComment, beforeComment_eq_self noSlash, wholeCondition,
    Text.trim_trim, joined]
  exact if_pos (FeatureExpr.mentions_of_parse leads spelled)

/-- **The condition behind an `#endif`** can be laid out on comment lines, if each of them holds a
name. -/
theorem wholeComment_of_layout (leads : vocabulary.Leads catalog)
    (read : FeatureExpr.ofTokens catalog ((first :: later).flatMap Token.scan) = .ok condition)
    (filled : Token.scan first ≠ [])
    (named : ∀ part ∈ later, ∃ name, .word name ∈ Token.scan part)
    (aligned : List.Forall₂ (fun line part => commentLine line = some (Text.trim part)) lines later)
    (stops : vocabulary.EndsComment behind) :
    ∃ text, wholeComment vocabulary (some first) (lines ++ behind) = (some text, later.length) ∧
      FeatureExpr.parse catalog text = .ok condition := by
  have declared : ∀ word, .word word ∈ Token.scan (Text.trim first) ++ later.flatMap Token.scan →
      isIdentifier word ∧ catalog.declares word := by
    intro word member
    rw [Token.scan_trim, ← List.flatMap_cons] at member
    obtain ⟨part, inside, listed⟩ := List.mem_flatMap.mp member
    exact declared_of_layout read inside listed
  have run : ParseState.start.run catalog (Token.scan (Text.trim first) ++
      later.flatMap Token.scan) = .ok condition := by
    rw [Token.scan_trim, ← List.flatMap_cons]
    exact FeatureExpr.ofTokens_eq_ok_iff.mp read
  obtain ⟨state, reached, rest⟩ := bind_eq_ok.mp (ParseState.run_append.symm.trans run)
  obtain ⟨text, joined, scanned⟩ := exists_joinComment leads (by rwa [Token.scan_trim]) declared
    reached rest named aligned stops
  have said : Text.trim first ≠ [] := by
    intro empty
    rw [← Token.scan_trim, empty] at filled
    exact filled rfl
  refine ⟨text, ?_, ?_⟩
  · rw [wholeComment, Option.map_some, Option.filter_some_pos (by simpa using said)]
    simp only [joined]
  · rw [FeatureExpr.parse, scanned, Token.scan_trim]
    exact read

/-- **The layout of a condition does not matter.** In a usable configuration, let the tokens of some
parts together spell a condition. If the parts stand on an `#if` and on lines that backslashes
continue it on, the whole condition takes exactly these lines and is read as the one that was
spelled. The same is true of a closing comment and of comment lines behind it, if the first part is
not empty, each later part holds a name, and the line behind them is no comment line that speaks of
a feature and starts with a connective. -/
theorem Checker.layout_irrelevant {config : Config} {checker : Checker}
    (usable : ofConfig config = .ok checker)
    (read : FeatureExpr.ofTokens checker.catalog ((first :: later).flatMap Token.scan) =
      .ok condition) :
    (∀ line behind,
        Directive.afterWholeKeyword Opener.ifTrue.keyword line =
          some (Text.continuedLine first later) →
        ∃ text, (Directive.classify checker.vocabulary line).featureCondition checker.vocabulary
            (Text.continuedLines later ++ behind) = some (text, later.length) ∧
          FeatureExpr.parse checker.catalog text = .ok condition) ∧
      (Token.scan first ≠ [] → (∀ part ∈ later, ∃ name, .word name ∈ Token.scan part) →
        ∀ lines behind,
          List.Forall₂ (fun line part => commentLine line = some (Text.trim part)) lines later →
          checker.vocabulary.EndsComment behind →
          ∃ text, wholeComment checker.vocabulary (some first) (lines ++ behind) =
              (some text, later.length) ∧
            FeatureExpr.parse checker.catalog text = .ok condition ∧
            ∀ line, Directive.classify checker.vocabulary line = .closing (some first) →
              (Directive.classify checker.vocabulary line).featureComment checker.vocabulary
                (lines ++ behind) = some (text, later.length)) := by
  obtain ⟨-, leads⟩ := ofConfig_eq_ok usable
  refine ⟨fun line behind opens => featureCondition_of_layout leads read opens, ?_⟩
  intro filled named lines behind aligned stops
  obtain ⟨text, whole, spelled⟩ :=
    wholeComment_of_layout leads read filled named aligned stops
  refine ⟨text, whole, spelled, fun line closes => ?_⟩
  rw [Directive.featureComment_eq_some]
  exact ⟨some first, closes, FeatureExpr.mentions_of_parse leads spelled, whole⟩

/-- A condition that is cut behind a connective and in front of one. -/
theorem Checker.layout_irrelevant_threeLines :
    let first := " (FEATURE_A &&".toList
    let later := ["FEATURE_B) ".toList, "|| FEATURE_A".toList]
    let condition := FeatureExpr.combine .or
      (.combine .and (.feature "FEATURE_A".toList) (.feature "FEATURE_B".toList))
      (.feature "FEATURE_A".toList)
    FeatureExpr.ofTokens twoFeatures.catalog ((first :: later).flatMap Token.scan) =
        .ok condition ∧
      (∃ text, (Directive.classify twoFeatures.vocabulary
            "#if (FEATURE_A &&\\".toList).featureCondition twoFeatures.vocabulary
            ["FEATURE_B) \\".toList, "|| FEATURE_A".toList, "int a;".toList] = some (text, 2) ∧
          FeatureExpr.parse twoFeatures.catalog text = .ok condition) ∧
      ∃ text, wholeComment twoFeatures.vocabulary (some first)
            ["// FEATURE_B)".toList, "  // || FEATURE_A".toList, "// FEATURE_B".toList] =
              (some text, 2) ∧
          FeatureExpr.parse twoFeatures.catalog text = .ok condition := by
  intro first later condition
  have read : FeatureExpr.ofTokens twoFeatures.catalog ((first :: later).flatMap Token.scan) =
      .ok condition := by decide +kernel
  obtain ⟨continued, commented⟩ := layout_irrelevant ofConfig_twoFeatures read
  refine ⟨read, continued _ ["int a;".toList] (by decide +kernel), ?_⟩
  have named : ∀ part ∈ later, ∃ name, .word name ∈ Token.scan part := by
    refine List.forall_mem_cons.mpr ⟨⟨"FEATURE_B".toList, by decide⟩, ?_⟩
    exact List.forall_mem_singleton.mpr ⟨"FEATURE_A".toList, by decide⟩
  have aligned : List.Forall₂ (fun line part => commentLine line = some (Text.trim part))
      ["// FEATURE_B)".toList, "  // || FEATURE_A".toList] later :=
    .cons (by decide) (.cons (by decide) .nil)
  have stops : twoFeatures.vocabulary.EndsComment ["// FEATURE_B".toList] := by decide +kernel
  obtain ⟨text, whole, spelled, -⟩ := commented (by decide) named _ _ aligned stops
  exact ⟨text, whole, spelled⟩

end Layout

end Amalgamation

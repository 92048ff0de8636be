import Amalgamation.Error
import Amalgamation.Proofs.Feature.Grammar
import Amalgamation.Proofs.Results

/-!
# How far a condition can be read

Tokens with which a condition can begin are viable (`Viable`): some more tokens make a condition of
them. The reader gets through exactly the viable tokens (`ParseState.viable_iff_exists_after`), if
there is a name at all that a condition may hold: where an operand is wanted, such a name is one,
and behind an operand the open parentheses can be closed one after the other
(`ParseState.run_closings`). So the reader stops at the first token that makes the tokens read so
far a beginning of nothing, or at the end if no token does.

The error names what it stopped at (`ParseError.Explains`): the token, or at the end the parenthesis
that is not closed. A name is called unknown exactly if it stands where a known one could
(`FeatureExpr.parse_error_explains`).
-/

set_option autoImplicit false

namespace Amalgamation

variable {catalog : Catalog}

/-! ## Reading up to some place -/

namespace ParseState

/-- The state in which some tokens are followed by whatever comes next. -/
def after (catalog : Catalog) (state : ParseState) (tokens : List Token) :
    Except ParseError ParseState :=
  tokens.foldlM (step catalog) state

variable {state next : ParseState} {token : Token} {tokens tokens' : List Token}
  {condition : FeatureExpr} {e : ParseError}

theorem after_cons :
    after catalog state (token :: tokens) =
      state.step catalog token >>= fun next => after catalog next tokens :=
  List.foldlM_cons

theorem after_append :
    after catalog state (tokens ++ tokens') =
      after catalog state tokens >>= fun next => after catalog next tokens' :=
  List.foldlM_append

theorem after_concat :
    after catalog state (tokens ++ [token]) =
      after catalog state tokens >>= fun next => next.step catalog token := by
  rw [after_append]
  refine congrArg _ (funext fun next => ?_)
  rw [after_cons]
  cases next.step catalog token <;> rfl

/-- Reading to the end is reading all tokens and finishing there. -/
theorem run_eq_bind (state : ParseState) (tokens : List Token) :
    state.run catalog tokens = after catalog state tokens >>= finish := by
  induction tokens generalizing state with
  | nil => rfl
  | cons token tokens ih =>
    rw [run, after_cons]
    cases state.step catalog token with
    | error e => rfl
    | ok next => exact ih next

theorem run_append :
    state.run catalog (tokens ++ tokens') =
      after catalog state tokens >>= fun next => next.run catalog tokens' := by
  rw [run_eq_bind, after_append]
  cases after catalog state tokens with
  | error e => rfl
  | ok next => exact (run_eq_bind next tokens').symm

/-- Reading fails at a token. -/
theorem exists_step_eq_error (failed : after catalog state tokens = .error e) :
    ∃ before token behind next, tokens = before ++ token :: behind ∧
      after catalog state before = .ok next ∧ next.step catalog token = .error e := by
  induction tokens generalizing state with
  | nil => cases failed
  | cons token tokens ih =>
    rw [after_cons, bind_eq_error] at failed
    rcases failed with here | ⟨next, read, later⟩
    · exact ⟨[], token, tokens, state, rfl, rfl, here⟩
    · obtain ⟨before, stop, behind, last, split, reached, stopped⟩ := ih later
      refine ⟨token :: before, stop, behind, last, by rw [split]; rfl, ?_, stopped⟩
      rw [after_cons, read]
      exact reached

end ParseState

/-! ## Tokens with which a condition can begin -/

/-- The tokens are those of a condition. -/
def Accepted (catalog : Catalog) (tokens : List Token) : Prop :=
  ∃ connective condition, Derives catalog (.chain connective) tokens condition

/-- Some more tokens make a condition of the tokens. -/
def Viable (catalog : Catalog) (tokens : List Token) : Prop :=
  ∃ more, Accepted catalog (tokens ++ more)

variable {tokens : List Token}

/-- The reader accepts what the grammar does. -/
theorem accepted_iff :
    Accepted catalog tokens ↔ ∃ condition, ParseState.start.run catalog tokens = .ok condition := by
  constructor
  · rintro ⟨connective, condition, derived⟩
    exact ⟨condition, FeatureExpr.ofTokens_eq_ok_iff.mp derived.ofTokens⟩
  · rintro ⟨condition, read⟩
    obtain ⟨connective, derived⟩ :=
      FeatureExpr.derives_of_ofTokens (FeatureExpr.ofTokens_eq_ok_iff.mpr read)
    exact ⟨connective, condition, derived⟩

namespace ParseState

/-- **Behind an operand** the open parentheses can be closed one after the other. -/
theorem run_closings (catalog : Catalog) (outer : List OpenChain) (used : Option Connective)
    (read : FeatureExpr) :
    ∃ condition, (ParseState.having outer used read).run catalog
      (List.replicate outer.length .closing) = .ok condition := by
  induction outer generalizing used read with
  | nil => exact ⟨read, rfl⟩
  | cons chain outer ih =>
    cases chain with
    | none => exact ih none read
    | some waiting => exact ih (some waiting.1) (.combine waiting.1 waiting.2 read)

/-- Behind an operand that was supplied, an operand has just been read. -/
theorem exists_supply_eq (outer : List OpenChain) (chain : OpenChain) (operand : FeatureExpr) :
    ∃ used read, supply outer chain operand = .having outer used read := by
  cases chain with
  | none => exact ⟨_, _, rfl⟩
  | some waiting => exact ⟨_, _, rfl⟩

/-- **Every state can be completed**, if there is a name that a condition may hold. -/
theorem exists_run (named : ∃ name, isIdentifier name ∧ catalog.declares name)
    (state : ParseState) : ∃ more condition, state.run catalog more = .ok condition := by
  cases state with
  | having outer used read => exact ⟨_, run_closings catalog outer used read⟩
  | wanting outer chain =>
    obtain ⟨name, identifier, declared⟩ := named
    obtain ⟨used, read, same⟩ := exists_supply_eq outer chain (.feature name)
    obtain ⟨condition, closed⟩ := run_closings catalog outer used read
    refine ⟨.word name :: List.replicate outer.length .closing, condition, ?_⟩
    simp [run, step, identifier, declared, same, closed]

/-- **The reader gets through the viable tokens** and no others. -/
theorem viable_iff_exists_after (named : ∃ name, isIdentifier name ∧ catalog.declares name) :
    Viable catalog tokens ↔ ∃ state, after catalog start tokens = .ok state := by
  constructor
  · rintro ⟨more, accepted⟩
    obtain ⟨condition, read⟩ := accepted_iff.mp accepted
    rw [run_append, bind_eq_ok] at read
    obtain ⟨state, reached, -⟩ := read
    exact ⟨state, reached⟩
  · rintro ⟨state, reached⟩
    obtain ⟨more, condition, read⟩ := exists_run named state
    refine ⟨more, accepted_iff.mpr ⟨condition, ?_⟩⟩
    rw [run_append, reached]
    exact read

end ParseState

/-! ## What an error names -/

namespace ParseError

/-- The text that the error names: that of a token, or of the parenthesis that is not closed. -/
def token : ParseError → Text
  | .empty => []
  | .endsEarly => []
  | .unclosed => ['(']
  | .surplus token => token.text
  | .mixed token => token.text
  | .notAName word => word
  | .closingExpected token => token.text
  | .operandExpected token => token.text
  | .unknownFeature name => name

/-- Whether the error is that a name is not known. The others are errors of the grammar. -/
def isUnknownFeature : ParseError → Bool
  | .unknownFeature _ => true
  | _ => false

/-- The wording of an error holds the text that it names, and tells the two kinds apart. -/
theorem message_eq (e : ParseError) :
    if e.isUnknownFeature then e.message = "未知特性名称 '".toList ++ e.token ++ "'".toList
    else ∃ reason, e.message = message.grammar e.token reason := by
  cases e with
  | unknownFeature name => rfl
  | _ => exact ⟨_, rfl⟩

/-- The error says what is wrong behind the tokens `before`, where the tokens `rest` follow. If a
token follows, the condition cannot go on with it, and the error names it; it is an unknown name
exactly if it is an identifier that is not declared and a declared name could stand in its place.
If none follows, the condition cannot end here; the error names a parenthesis if closing
parentheses are all that is missing, and nothing if more is. -/
def Explains (catalog : Catalog) (e : ParseError) (before : List Token) : List Token → Prop
  | token :: _ =>
    ¬Viable catalog (before ++ [token]) ∧ e.token = token.text ∧
      (e.isUnknownFeature ↔ ∃ name, token = .word name ∧ isIdentifier name ∧
        ¬catalog.declares name ∧
        ∃ known, catalog.declares known ∧ Viable catalog (before ++ [.word known]))
  | [] =>
    ¬Accepted catalog before ∧ ¬e.isUnknownFeature ∧
      ((∃ missing, Accepted catalog (before ++ List.replicate missing .closing)) ∧
          e.token = Token.opening.text ∨
        (¬∃ missing, Accepted catalog (before ++ List.replicate missing .closing)) ∧ e.token = [])

end ParseError

namespace ParseState

variable {state : ParseState} {token : Token} {e : ParseError}

/-- Behind an operand every token that does not fit is an error of the grammar. -/
theorem step_having_eq_error {outer : List OpenChain} {used : Option Connective}
    {read : FeatureExpr} (stopped : (having outer used read).step catalog token = .error e) :
    e.token = token.text ∧ ¬e.isUnknownFeature := by
  cases token with
  | sign connective =>
    by_cases allowed : used = none ∨ used = some connective
    · simp [step, allowed] at stopped
    · obtain rfl : .mixed (.sign connective) = e := by simpa [step, allowed] using stopped
      exact ⟨rfl, Bool.false_ne_true⟩
  | closing =>
    cases outer with
    | cons chain outer => cases stopped
    | nil =>
      obtain rfl := Except.error.inj stopped
      exact ⟨rfl, Bool.false_ne_true⟩
  | word _ | opening =>
    cases outer <;>
    · obtain rfl := Except.error.inj stopped
      exact ⟨rfl, Bool.false_ne_true⟩

/-- **A token that does not fit** is named by the error. Its name is unknown if it is an identifier
that is not declared, where an operand is wanted. -/
theorem step_eq_error (stopped : state.step catalog token = .error e) :
    e.token = token.text ∧
      (e.isUnknownFeature ↔ ∃ name, token = .word name ∧ isIdentifier name ∧
        ¬catalog.declares name ∧ ∃ outer chain, state = .wanting outer chain) := by
  cases state with
  | having outer used read =>
    obtain ⟨named, grammar⟩ := step_having_eq_error stopped
    refine ⟨named, fun unknown => (grammar unknown).elim, ?_⟩
    rintro ⟨_, -, -, -, _, _, absurd⟩
    cases absurd
  | wanting outer chain =>
    cases token with
    | word name =>
      by_cases identifier : isIdentifier name
      · by_cases declared : catalog.declares name
        · simp [step, identifier, declared] at stopped
        · obtain rfl : .unknownFeature name = e := by
            simpa [step, identifier, declared] using stopped
          exact ⟨rfl, fun _ => ⟨name, rfl, identifier, declared, outer, chain, rfl⟩, fun _ => rfl⟩
      · obtain rfl : .notAName name = e := by simpa [step, identifier] using stopped
        refine ⟨rfl, fun unknown => absurd unknown Bool.false_ne_true, ?_⟩
        rintro ⟨_, same, absurd, -⟩
        obtain rfl := Token.word.inj same
        exact (identifier absurd).elim
    | opening => cases stopped
    | closing | sign _ =>
      obtain rfl := Except.error.inj stopped
      refine ⟨rfl, fun unknown => absurd unknown Bool.false_ne_true, ?_⟩
      rintro ⟨_, absurd, -⟩
      cases absurd

/-- A declared name fits exactly where an operand is wanted. -/
theorem exists_step_word_iff (named : ∃ name, isIdentifier name ∧ catalog.declares name) :
    (∃ known next, catalog.declares known ∧ state.step catalog (.word known) = .ok next) ↔
      ∃ outer chain, state = .wanting outer chain := by
  constructor
  · rintro ⟨known, next, -, fits⟩
    rcases step_eq_ok fits with ⟨outer, chain, _, same, -⟩ | ⟨_, _, -, absurd, -⟩ |
      ⟨_, _, _, _, -, absurd, -⟩ | ⟨_, _, _, _, -, absurd, -⟩
    · exact ⟨outer, chain, same⟩
    · cases absurd
    · cases absurd
    · cases absurd
  · rintro ⟨outer, chain, rfl⟩
    obtain ⟨name, identifier, declared⟩ := named
    exact ⟨name, supply outer chain (.feature name), declared, by simp [step, identifier, declared]⟩

end ParseState

/-! ## Where a condition is rejected -/

section Rejected

variable {before behind : List Token} {state : ParseState} {token : Token} {e : ParseError}
  (named : ∃ name, isIdentifier name ∧ catalog.declares name)

include named

/-- Behind tokens that were read, those tokens are viable that the reader can read there. -/
theorem viable_append_iff (reached : ParseState.after catalog .start before = .ok state) :
    Viable catalog (before ++ [token]) ↔ ∃ next, state.step catalog token = .ok next := by
  rw [ParseState.viable_iff_exists_after named, ParseState.after_concat, reached]
  rfl

/-- An error at a token explains it. -/
theorem ParseError.explains_of_step (reached : ParseState.after catalog .start before = .ok state)
    (stopped : state.step catalog token = .error e) :
    e.Explains catalog before (token :: behind) := by
  obtain ⟨names, unknown⟩ := ParseState.step_eq_error stopped
  refine ⟨?_, names, ?_⟩
  · rw [viable_append_iff named reached, stopped]
    rintro ⟨_, absurd⟩
    cases absurd
  · have place : (∃ known, catalog.declares known ∧ Viable catalog (before ++ [.word known])) ↔
        ∃ outer chain, state = .wanting outer chain := by
      rw [← ParseState.exists_step_word_iff named]
      refine exists_congr fun known => ?_
      rw [viable_append_iff named reached, exists_and_left]
    simp only [place]
    exact unknown

omit named in
/-- Closing parentheses alone complete a condition exactly behind an operand. -/
theorem accepted_closings_iff (reached : ParseState.after catalog .start before = .ok state) :
    (∃ missing, Accepted catalog (before ++ List.replicate missing .closing)) ↔
      ∃ outer used read, state = .having outer used read := by
  have further : ∀ missing, Accepted catalog (before ++ List.replicate missing .closing) ↔
      ∃ condition, state.run catalog (List.replicate missing .closing) = .ok condition := by
    intro missing
    rw [accepted_iff, ParseState.run_append, reached]
    rfl
  simp only [further]
  cases state with
  | having outer used read =>
    refine ⟨fun _ => ⟨outer, used, read, rfl⟩, fun _ => ?_⟩
    exact ⟨_, ParseState.run_closings catalog outer used read⟩
  | wanting outer chain =>
    constructor
    · rintro ⟨missing, condition, read⟩
      cases missing <;> cases read
    · rintro ⟨_, _, _, absurd⟩
      cases absurd

omit named in
/-- An error at the end explains it. -/
theorem ParseError.explains_of_finish
    (reached : ParseState.after catalog .start before = .ok state)
    (stopped : state.finish = .error e) : e.Explains catalog before [] := by
  have rejected : ¬Accepted catalog before := by
    rw [accepted_iff, ParseState.run_eq_bind, reached]
    rintro ⟨condition, finished⟩
    cases stopped.symm.trans finished
  cases state with
  | wanting outer chain =>
    obtain rfl := Except.error.inj stopped
    refine ⟨rejected, Bool.false_ne_true, .inr ⟨?_, rfl⟩⟩
    rw [accepted_closings_iff reached]
    rintro ⟨_, _, _, absurd⟩
    cases absurd
  | having outer used read =>
    cases outer with
    | nil => cases stopped
    | cons chain outer =>
      obtain rfl := Except.error.inj stopped
      refine ⟨rejected, Bool.false_ne_true, .inl ⟨?_, rfl⟩⟩
      exact (accepted_closings_iff reached).mpr ⟨_, _, _, rfl⟩

/-- **An error points at the first token that a condition cannot go on with**, or at the end. If a
text is rejected, its tokens fall into some with which a condition can begin, and the rest; the
error explains why it cannot go on with the rest. -/
theorem FeatureExpr.parse_error_explains {text : Text}
    (rejected : FeatureExpr.parse catalog text = .error e) :
    ∃ before behind, Token.scan text = before ++ behind ∧ Viable catalog before ∧
      e.Explains catalog before behind := by
  rw [parse, ofTokens] at rejected
  cases reached : ParseState.after catalog .start (Token.scan text) with
  | error stopped =>
    obtain ⟨before, token, behind, state, split, passed, here⟩ :=
      ParseState.exists_step_eq_error reached
    have some : Token.scan text ≠ [] := by rw [split]; simp
    rw [if_neg some, ParseState.run_eq_bind, reached] at rejected
    obtain rfl := Except.error.inj rejected
    refine ⟨before, token :: behind, split, ?_, ParseError.explains_of_step named passed here⟩
    exact (ParseState.viable_iff_exists_after named).mpr ⟨state, passed⟩
  | ok state =>
    refine ⟨Token.scan text, [], (List.append_nil _).symm, ?_, ?_⟩
    · exact (ParseState.viable_iff_exists_after named).mpr ⟨state, reached⟩
    · by_cases none : Token.scan text = []
      · -- The empty text has an error of its own, which names as little as an early end.
        rw [if_pos none] at rejected
        obtain rfl := Except.error.inj rejected
        rw [none] at reached ⊢
        exact ParseError.explains_of_finish (e := .endsEarly) reached (by cases reached; rfl)
      · rw [if_neg none, ParseState.run_eq_bind, reached] at rejected
        exact ParseError.explains_of_finish reached rejected

end Rejected

/-- The catalog of one feature. -/
def Catalog.oneFeature : Catalog := ⟨[⟨"FEATURE_A".toList, none⟩], by decide⟩

/-- A name that is not known is pointed at, though the text is wrong behind it, too. -/
theorem FeatureExpr.parse_error_explains_unknownName :
    let catalog := Catalog.oneFeature
    let text := "(FEATURE_A && FEATURE_Z || )".toList
    let e := ParseError.unknownFeature "FEATURE_Z".toList
    (∃ name, isIdentifier name ∧ catalog.declares name) ∧
      FeatureExpr.parse catalog text = .error e ∧
      ∃ before behind, Token.scan text = before ++ behind ∧ Viable catalog before ∧
        e.Explains catalog before behind := by
  intro catalog text e
  have named : ∃ name, isIdentifier name ∧ catalog.declares name :=
    ⟨"FEATURE_A".toList, by decide⟩
  have rejected : FeatureExpr.parse catalog text = .error e := by rfl
  exact ⟨named, rejected, FeatureExpr.parse_error_explains named rejected⟩

end Amalgamation

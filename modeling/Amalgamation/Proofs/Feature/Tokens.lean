import Amalgamation.Feature.Token
import Amalgamation.Proofs.Text.Trimming

/-!
# Taking a text apart into tokens

Tokens are taken from a text one after the other. In each round the blanks in front are passed over,
and the first token is cut off; a word ends where a blank, a parenthesis or a sign begins
(`Token.first?`). Every round leaves a shorter text (`Token.length_of_first?`), so the rounds come
to an end whatever the text is, and what they take are the tokens of the text (`Token.takes_iff`).

Blanks are all that is lost on the way (`Token.flatMap_text_scan`). A word is not empty, and no
blank, parenthesis or sign is in it (`Token.isProper_of_mem_scan`): a run such as `&&&` is a sign
and a word of one character.

A blank between two texts keeps their tokens apart (`Token.scan_append`), and blanks at either end
of a text add no token (`Token.scan_trim`). Each token is read back from its own text, and a list of
tokens from their texts with spaces between them (`Token.scan_joinWith`).
-/

set_option autoImplicit false

namespace Amalgamation

namespace Token

variable {c : Char} {text behind word spaces : Text} {token : Token} {tokens : List Token}

/-! ## One character -/

theorem scan_space (text : Text) : scan (' ' :: text) = scan text := rfl

theorem scan_opening (text : Text) : scan ('(' :: text) = .opening :: scan text := rfl

theorem scan_closing (text : Text) : scan (')' :: text) = .closing :: scan text := rfl

theorem scan_sign (connective : Connective) (text : Text) :
    scan (connective.sign ++ text) = .sign connective :: scan text := by
  cases connective <;> rfl

theorem scan_of_isBlank (blank : isBlank c) (text : Text) : scan (c :: text) = scan text := by
  rw [scan.eq_def]
  split
  · next absurd => cases absurd
  · next same => cases (List.cons.inj same).1; cases blank
  · next same => cases (List.cons.inj same).1; cases blank
  · next same =>
    obtain ⟨rfl, rfl⟩ := List.cons.inj same
    exact if_pos blank

/-- A character that begins no other token begins a word, which may go on behind it. -/
theorem scan_of_solid (noAnd : ∀ tail, c = '&' → text = '&' :: tail → False)
    (noOr : ∀ tail, c = '|' → text = '|' :: tail → False) (solid : ¬isBlank c) (left : ¬c = '(')
    (right : ¬c = ')') :
    scan (c :: text) =
      if wordGoesOn text then
        match scan text with
        | .word rest :: tokens => .word (c :: rest) :: tokens
        | tokens => .word [c] :: tokens
      else .word [c] :: scan text := by
  rw [scan.eq_def]
  split
  · next absurd => cases absurd
  · next same =>
    obtain ⟨rfl, rfl⟩ := List.cons.inj same
    exact (noAnd _ rfl rfl).elim
  · next same =>
    obtain ⟨rfl, rfl⟩ := List.cons.inj same
    exact (noOr _ rfl rfl).elim
  · next same =>
    obtain ⟨rfl, rfl⟩ := List.cons.inj same
    exact (if_neg solid).trans ((if_neg left).trans (if_neg right))

theorem wordGoesOn_of_no_sign (noAnd : ∀ tail, c = '&' → text = '&' :: tail → False)
    (noOr : ∀ tail, c = '|' → text = '|' :: tail → False) :
    wordGoesOn (c :: text) = !(isBlank c || c = '(' || c = ')') := by
  unfold wordGoesOn
  split
  · next absurd => cases absurd
  · next same =>
    obtain ⟨rfl, rfl⟩ := List.cons.inj same
    exact (noAnd _ rfl rfl).elim
  · next same =>
    obtain ⟨rfl, rfl⟩ := List.cons.inj same
    exact (noOr _ rfl rfl).elim
  · next same =>
    obtain ⟨rfl, rfl⟩ := List.cons.inj same
    rfl

theorem wordGoesOn_sign (connective : Connective) (text : Text) :
    wordGoesOn (connective.sign ++ text) = false := by
  cases connective <;> rfl

/-- Where no sign begins, the characters of none stand. -/
theorem no_sign_of_not_begins
    (noSign : ∀ connective : Connective, ¬connective.sign <+: c :: text) :
    (∀ tail, c = '&' → text = '&' :: tail → False) ∧
      ∀ tail, c = '|' → text = '|' :: tail → False := by
  constructor
  · rintro tail rfl rfl
    exact noSign .and ⟨tail, rfl⟩
  · rintro tail rfl rfl
    exact noSign .or ⟨tail, rfl⟩

/-- A word goes on with any character but a blank or a parenthesis, unless a sign begins there. -/
theorem wordGoesOn_cons_iff :
    wordGoesOn (c :: text) ↔ isBlank c = false ∧ c ≠ '(' ∧ c ≠ ')' ∧
      ∀ connective : Connective, ¬connective.sign <+: c :: text := by
  by_cases signed : ∃ connective : Connective, connective.sign <+: c :: text
  · obtain ⟨connective, begins⟩ := signed
    have stops : wordGoesOn (c :: text) = false := by
      obtain ⟨behind, same⟩ := begins
      rw [← same, wordGoesOn_sign]
    rw [stops]
    exact ⟨nofun, fun ⟨_, _, _, noSign⟩ => (noSign connective begins).elim⟩
  · have noSign := not_exists.mp signed
    obtain ⟨noAnd, noOr⟩ := no_sign_of_not_begins noSign
    simp [wordGoesOn_of_no_sign noAnd noOr, noSign, and_assoc]

/-- Where a word goes on in a text, it does so in any beginning of the text. -/
theorem wordGoesOn_of_isPrefix (goesOn : wordGoesOn (c :: text)) (begins : word <+: text) :
    wordGoesOn (c :: word) := by
  obtain ⟨solid, left, right, noSign⟩ := wordGoesOn_cons_iff.mp goesOn
  refine wordGoesOn_cons_iff.mpr ⟨solid, left, right, fun connective sign => ?_⟩
  exact noSign connective (sign.trans (List.prefix_cons_inj c |>.mpr begins))

/-! ## Blanks in front -/

theorem scan_trimStart (text : Text) : scan (Text.trimStart text) = scan text := by
  induction text with
  | nil => rfl
  | cons c text ih =>
    by_cases blank : isBlank c
    · rw [scan_of_isBlank blank, ← ih, Text.trimStart, List.dropWhile_cons_of_pos blank]
      rfl
    · rw [Text.trimStart, List.dropWhile_cons_of_neg blank]

theorem scan_blanks (blank : ∀ c ∈ spaces, isBlank c) : scan spaces = [] := by
  induction spaces with
  | nil => rfl
  | cons c spaces ih =>
    obtain ⟨here, rest⟩ := List.forall_mem_cons.mp blank
    rw [scan_of_isBlank here, ih rest]

/-! ## Words -/

/-- What a word is made of. -/
structure IsWord (word : Text) : Prop where
  nonempty : word ≠ []
  solid : ∀ c ∈ word, isBlank c = false
  noBracket : '(' ∉ word ∧ ')' ∉ word
  noSign : ∀ connective : Connective, ¬connective.sign <:+: word

/-- A text is a word if a word goes on from each of its characters. -/
theorem isWord_cons :
    IsWord (c :: word) ↔ wordGoesOn (c :: word) ∧ (word = [] ∨ IsWord word) := by
  constructor
  · intro whole
    have first : c ∈ c :: word := List.mem_cons_self
    have left : c ≠ '(' := by
      rintro rfl
      exact whole.noBracket.1 first
    have right : c ≠ ')' := by
      rintro rfl
      exact whole.noBracket.2 first
    refine ⟨wordGoesOn_cons_iff.mpr ⟨whole.solid c first, left, right, ?_⟩, ?_⟩
    · exact fun connective begins => whole.noSign connective begins.isInfix
    · refine or_iff_not_imp_left.mpr fun some => ⟨some, ?_, ?_, ?_⟩
      · exact fun d member => whole.solid d (List.mem_cons_of_mem c member)
      · exact whole.noBracket.imp (mt (List.mem_cons_of_mem c)) (mt (List.mem_cons_of_mem c))
      · exact fun connective inside => whole.noSign connective (List.infix_cons inside)
  · rintro ⟨goesOn, rest⟩
    obtain ⟨solid, left, right, noSign⟩ := wordGoesOn_cons_iff.mp goesOn
    rcases rest with rfl | rest
    · refine ⟨List.cons_ne_nil _ _, by simpa using solid, by simp [left.symm, right.symm], ?_⟩
      intro connective inside
      rcases List.infix_cons_iff.mp inside with begins | inside
      · exact noSign connective begins
      · cases connective <;> cases List.infix_nil.mp inside
    · refine ⟨List.cons_ne_nil _ _, List.forall_mem_cons.mpr ⟨solid, rest.solid⟩, ?_, ?_⟩
      · simp [left.symm, right.symm, rest.noBracket]
      · intro connective inside
        rcases List.infix_cons_iff.mp inside with begins | inside
        · exact noSign connective begins
        · exact rest.noSign connective inside

/-! ## The word at the beginning of a text -/

/-- The characters with which a word goes on from the beginning of a text, and what stands behind
them. -/
def splitWord : Text → Text × Text
  | [] => ([], [])
  | c :: text =>
    if wordGoesOn (c :: text) then (c :: (splitWord text).1, (splitWord text).2)
    else ([], c :: text)

theorem splitWord_of_not_goesOn (stops : ¬wordGoesOn text) : splitWord text = ([], text) := by
  cases text with
  | nil => rfl
  | cons c text => rw [splitWord, if_neg stops]

theorem splitWord_append (text : Text) : (splitWord text).1 ++ (splitWord text).2 = text := by
  induction text with
  | nil => rfl
  | cons c text ih =>
    by_cases goesOn : wordGoesOn (c :: text)
    · rw [splitWord, if_pos goesOn, List.cons_append, ih]
    · rw [splitWord_of_not_goesOn goesOn, List.nil_append]

/-- The characters with which a word goes on are a word. -/
theorem isWord_splitWord (goesOn : wordGoesOn text) : IsWord (splitWord text).1 := by
  induction text with
  | nil => cases goesOn
  | cons c text ih =>
    rw [splitWord, if_pos goesOn, isWord_cons]
    refine ⟨wordGoesOn_of_isPrefix goesOn ⟨_, splitWord_append text⟩, ?_⟩
    by_cases further : wordGoesOn text
    · exact .inr (ih further)
    · exact .inl (by rw [splitWord_of_not_goesOn further])

/-- A whole word goes on to its end. -/
theorem splitWord_of_isWord (whole : IsWord word) : splitWord word = (word, []) := by
  induction word with
  | nil => rfl
  | cons c word ih =>
    obtain ⟨goesOn, rest⟩ := isWord_cons.mp whole
    rw [splitWord, if_pos goesOn]
    rcases rest with rfl | rest
    · rfl
    · rw [ih rest]

/-- **A word that goes on is the first token**, up to where it stops. -/
theorem scan_of_wordGoesOn (goesOn : wordGoesOn text) :
    scan text = .word (splitWord text).1 :: scan (splitWord text).2 := by
  induction text with
  | nil => cases goesOn
  | cons c text ih =>
    obtain ⟨solid, left, right, noSign⟩ := wordGoesOn_cons_iff.mp goesOn
    obtain ⟨noAnd, noOr⟩ := no_sign_of_not_begins noSign
    rw [scan_of_solid noAnd noOr (by simp [solid]) left right, splitWord, if_pos goesOn]
    by_cases further : wordGoesOn text
    · rw [if_pos further, ih further]
    · rw [if_neg further, splitWord_of_not_goesOn further]

/-! ## One round -/

/-- The first token of a text and what stands behind it, unless the text is blank. -/
def first? (text : Text) : Option (Token × Text) :=
  match Text.trimStart text with
  | [] => none
  | '(' :: behind => some (.opening, behind)
  | ')' :: behind => some (.closing, behind)
  | '&' :: '&' :: behind => some (.sign .and, behind)
  | '|' :: '|' :: behind => some (.sign .or, behind)
  | c :: text => some (.word (splitWord (c :: text)).1, (splitWord (c :: text)).2)

/-- A token that can stand in a text. -/
def IsProper : Token → Prop
  | .word word => IsWord word
  | .opening | .closing | .sign _ => True

theorem IsProper.text_ne_nil (proper : token.IsProper) : token.text ≠ [] := by
  cases token with
  | word word => exact IsWord.nonempty proper
  | opening | closing => exact List.cons_ne_nil _ _
  | sign connective => cases connective <;> exact List.cons_ne_nil _ _

theorem IsProper.solid (proper : token.IsProper) : ∀ c ∈ token.text, isBlank c = false := by
  cases token with
  | word word => exact IsWord.solid proper
  | opening | closing => exact List.forall_mem_singleton.mpr rfl
  | sign connective =>
    cases connective <;> exact List.forall_mem_cons.mpr ⟨rfl, List.forall_mem_singleton.mpr rfl⟩

/-- A text from which no token can be taken is blank. -/
theorem blank_of_first? (nothing : first? text = none) : ∀ c ∈ text, isBlank c := by
  refine List.dropWhile_eq_nil_iff.mp ?_
  revert nothing
  fun_cases first? text with
  | case1 start => exact fun _ => start
  | case2 | case3 | case4 | case5 | case6 => rintro ⟨⟩

/-- Behind the blanks a proper token is the first. -/
theorem trimStart_of_first? (taken : first? text = some (token, behind)) :
    token.IsProper ∧ Text.trimStart text = token.text ++ behind ∧
      scan (Text.trimStart text) = token :: scan behind := by
  have solid : ∀ c ∈ (Text.trimStart text).head?, isBlank c = false := fun c first => by
    have starts := List.head?_dropWhile_not isBlank text
    rwa [← Text.trimStart, first] at starts
  revert taken
  fun_cases first? text with
  | case1 => rintro ⟨⟩
  | case2 rest start | case3 rest start | case4 rest start | case5 rest start =>
    rintro ⟨⟩
    rw [start]
    exact ⟨trivial, rfl, rfl⟩
  | case6 c rest left right noAnd noOr start =>
    rintro ⟨⟩
    rw [start] at solid ⊢
    have goesOn : wordGoesOn (c :: rest) := by
      simpa [wordGoesOn_of_no_sign noAnd noOr, solid c rfl] using ⟨left, right⟩
    exact ⟨isWord_splitWord goesOn, (splitWord_append _).symm, scan_of_wordGoesOn goesOn⟩

/-- **What one round does**: it passes over blanks and takes a proper token, and the tokens that
are left are those of the text that is left. -/
theorem first?_eq_some (taken : first? text = some (token, behind)) :
    token.IsProper ∧ scan text = token :: scan behind ∧
      ∃ spaces, (∀ c ∈ spaces, isBlank c) ∧ text = spaces ++ (token.text ++ behind) := by
  obtain ⟨proper, start, scanned⟩ := trimStart_of_first? taken
  refine ⟨proper, by rw [← scanned, scan_trimStart], text.takeWhile isBlank, ?_, ?_⟩
  · exact fun c => List.mem_takeWhile_imp
  · rw [← start, Text.trimStart, List.takeWhile_append_dropWhile]

/-- **Every round leaves a shorter text.** -/
theorem length_of_first? (taken : first? text = some (token, behind)) :
    behind.length < text.length := by
  obtain ⟨proper, -, spaces, -, rfl⟩ := first?_eq_some taken
  have some := List.length_pos_iff.mpr proper.text_ne_nil
  simp only [List.length_append]
  omega

/-! ## All rounds -/

/-- The tokens that are taken from a text until it is blank. -/
inductive Takes : Text → List Token → Prop
  | done {text : Text} (nothing : first? text = none) : Takes text []
  | round {text behind : Text} {token : Token} {tokens : List Token}
      (taken : first? text = some (token, behind)) (rest : Takes behind tokens) :
      Takes text (token :: tokens)

theorem takes_scan (text : Text) : Takes text (scan text) := by
  induction size : text.length using Nat.strong_induction_on generalizing text with
  | h size ih =>
    subst size
    cases taken : first? text with
    | none =>
      rw [scan_blanks (blank_of_first? taken)]
      exact .done taken
    | some next =>
      obtain ⟨token, behind⟩ := next
      obtain ⟨-, scanned, -⟩ := first?_eq_some taken
      rw [scanned]
      exact .round taken (ih _ (length_of_first? taken) behind rfl)

/-- **The rounds come to an end for every text**, and they take its tokens. -/
theorem takes_iff : Takes text tokens ↔ tokens = scan text := by
  constructor
  · intro takes
    induction takes with
    | done nothing => exact (scan_blanks (blank_of_first? nothing)).symm
    | round taken _ ih =>
      obtain ⟨-, scanned, -⟩ := first?_eq_some taken
      rw [scanned, ih]
  · rintro rfl
    exact takes_scan text

/-- What is taken from a text are proper tokens. -/
theorem Takes.isProper (takes : Takes text tokens) : ∀ token ∈ tokens, token.IsProper := by
  induction takes with
  | done _ => exact List.forall_mem_nil _
  | round taken _ ih => exact List.forall_mem_cons.mpr ⟨(first?_eq_some taken).1, ih⟩

/-- What is taken from a text are its characters that are not blank, in their order. -/
theorem Takes.flatMap_text (takes : Takes text tokens) :
    tokens.flatMap Token.text = text.filter (!isBlank ·) := by
  induction takes with
  | done nothing =>
    refine (List.filter_eq_nil_iff.mpr fun c member => ?_).symm
    simp [blank_of_first? nothing c member]
  | @round _ behind token tokens taken _ ih =>
    obtain ⟨proper, -, spaces, blank, rfl⟩ := first?_eq_some taken
    have none : spaces.filter (!isBlank ·) = [] :=
      List.filter_eq_nil_iff.mpr fun c member => by simp [blank c member]
    have all : token.text.filter (!isBlank ·) = token.text :=
      List.filter_eq_self.mpr fun c member => by simp [proper.solid c member]
    calc (token :: tokens).flatMap Token.text
        = token.text ++ behind.filter (!isBlank ·) := by rw [List.flatMap_cons, ih]
      _ = (spaces ++ (token.text ++ behind)).filter (!isBlank ·) := by
          rw [List.filter_append, List.filter_append, none, all, List.nil_append]

/-- **Blanks are all that a text has and its tokens have not.** -/
theorem flatMap_text_scan (text : Text) :
    (scan text).flatMap Token.text = text.filter (!isBlank ·) :=
  (takes_scan text).flatMap_text

/-- **The tokens of a text are proper**: no blank, parenthesis or sign is in a word. -/
theorem isProper_of_mem_scan (member : token ∈ scan text) : token.IsProper :=
  (takes_scan text).isProper token member

/-! ## The first token -/

/-- **The first token of a text** stands behind the blanks at its beginning, and the other tokens
are those of what stands behind it. -/
theorem exists_of_scan (scanned : scan text = token :: tokens) :
    ∃ spaces behind, text = spaces ++ (token.text ++ behind) ∧ (∀ c ∈ spaces, isBlank c) ∧
      scan behind = tokens := by
  have takes := takes_scan text
  rw [scanned] at takes
  cases takes with
  | round taken rest =>
    obtain ⟨-, -, spaces, blank, split⟩ := first?_eq_some taken
    exact ⟨spaces, _, split, blank, (takes_iff.mp rest).symm⟩

/-- Where no blank is the beginning, the first token is. -/
theorem exists_of_scan_solid (solid : ∀ c ∈ text.head?, isBlank c = false)
    (scanned : scan text = token :: tokens) :
    ∃ behind, text = token.text ++ behind ∧ scan behind = tokens := by
  obtain ⟨spaces, behind, split, blanks, rest⟩ := exists_of_scan scanned
  cases spaces with
  | nil => exact ⟨behind, split, rest⟩
  | cons c spaces =>
    have unblank := solid c (by rw [split]; rfl)
    rw [blanks c List.mem_cons_self] at unblank
    cases unblank

theorem blank_of_scan (nothing : scan text = []) : ∀ c ∈ text, isBlank c := by
  have lost := flatMap_text_scan text
  rw [nothing, List.flatMap_nil, eq_comm, List.filter_eq_nil_iff] at lost
  simpa using lost

/-! ## Blanks between texts -/

section Append

variable (apart : ∀ c ∈ behind.head?, isBlank c)

include apart

/-- A blank behind a text completes no connective. -/
theorem no_sign_append {sign : Char} (solid : isBlank sign = false)
    (no : ∀ tail, c = sign → text = sign :: tail → False) :
    ∀ tail, c = sign → text ++ behind = sign :: tail → False := by
  intro tail same begins
  cases text with
  | nil =>
    obtain rfl : behind = sign :: tail := begins
    rw [apart sign rfl] at solid
    cases solid
  | cons d text =>
    obtain ⟨rfl, -⟩ := List.cons.inj begins
    exact no text same rfl

theorem wordGoesOn_append : wordGoesOn (text ++ behind) = wordGoesOn text := by
  fun_cases wordGoesOn text with
  | case1 =>
    cases behind with
    | nil => rfl
    | cons c behind =>
      rw [List.nil_append, Bool.eq_false_iff]
      intro goesOn
      obtain ⟨solid, -⟩ := wordGoesOn_cons_iff.mp goesOn
      rw [apart c rfl] at solid
      cases solid
  | case2 text => exact wordGoesOn_sign .and _
  | case3 text => exact wordGoesOn_sign .or _
  | case4 c text noAnd noOr =>
    exact wordGoesOn_of_no_sign (no_sign_append apart rfl noAnd) (no_sign_append apart rfl noOr)

/-- **A blank keeps the tokens of two texts apart.** -/
theorem scan_append : scan (text ++ behind) = scan text ++ scan behind := by
  fun_induction scan text with
  | case1 => rfl
  | case2 text ih => exact (scan_sign .and _).trans (congrArg _ ih)
  | case3 text ih => exact (scan_sign .or _).trans (congrArg _ ih)
  | case5 text _ _ _ ih => rw [List.cons_append, scan_opening, ih]; rfl
  | case6 text _ _ _ _ ih => rw [List.cons_append, scan_closing, ih]; rfl
  | case4 c text _ _ here ih => rw [List.cons_append, scan_of_isBlank here, ih]
  | case7 c text noAnd noOr solid left right goesOn rest tokens scanned ih =>
    rw [List.cons_append, scan_of_solid (no_sign_append apart rfl noAnd)
      (no_sign_append apart rfl noOr) solid left right, wordGoesOn_append apart, ih, if_pos goesOn,
      scanned]
    rfl
  | case8 c text _ _ _ _ _ goesOn noWord _ =>
    exact (noWord _ _ (scan_of_wordGoesOn goesOn)).elim
  | case9 c text noAnd noOr solid left right stops ih =>
    rw [List.cons_append, scan_of_solid (no_sign_append apart rfl noAnd)
      (no_sign_append apart rfl noOr) solid left right, wordGoesOn_append apart, ih, if_neg stops]
    rfl

end Append

/-- A space between two texts keeps their tokens apart and adds none. -/
theorem scan_append_space (text behind : Text) :
    scan (text ++ ' ' :: behind) = scan text ++ scan behind := by
  have apart : ∀ c ∈ (' ' :: behind).head?, isBlank c := by
    rintro c ⟨⟩
    rfl
  rw [scan_append apart, scan_space]

theorem scan_trimEnd (text : Text) : scan (Text.trimEnd text) = scan text := by
  obtain ⟨spaces, split, blank⟩ := Text.exists_append_blanks text
  have apart : ∀ c ∈ spaces.head?, isBlank c := fun c first => blank c (List.mem_of_mem_head? first)
  calc scan (Text.trimEnd text)
      = scan (Text.trimEnd text) ++ scan spaces := by rw [scan_blanks blank, List.append_nil]
    _ = scan (Text.trimEnd text ++ spaces) := (scan_append apart).symm
    _ = scan text := by rw [← split]

/-- **Trimming keeps the tokens.** -/
theorem scan_trim (text : Text) : scan (Text.trim text) = scan text := by
  rw [Text.trim, scan_trimEnd, scan_trimStart]

/-! ## Tokens with spaces between them -/

/-- A proper token is read back from its own text. -/
theorem scan_text (proper : token.IsProper) : scan token.text = [token] := by
  cases token with
  | word word =>
    have whole : IsWord word := proper
    have goesOn : wordGoesOn word := by
      obtain ⟨c, rest, rfl⟩ := List.exists_cons_of_ne_nil whole.nonempty
      exact (isWord_cons.mp whole).1
    rw [text, scan_of_wordGoesOn goesOn, splitWord_of_isWord whole]
    rfl
  | opening | closing => rfl
  | sign connective => cases connective <;> rfl

/-- **Proper tokens are read back from their texts with spaces between them.** -/
theorem scan_joinWith (proper : ∀ token ∈ tokens, token.IsProper) :
    scan (Text.joinWith [' '] (tokens.map Token.text)) = tokens := by
  induction tokens with
  | nil => rfl
  | cons token tokens ih =>
    obtain ⟨here, later⟩ := List.forall_mem_cons.mp proper
    cases tokens with
    | nil => exact scan_text here
    | cons next tokens =>
      let behind := Text.joinWith [' '] ((next :: tokens).map Token.text)
      calc scan (Text.joinWith [' '] ((token :: next :: tokens).map Token.text))
          = scan (token.text ++ ' ' :: behind) := by
            simp only [List.map_cons, Text.joinWith, List.append_assoc, List.singleton_append,
              behind]
        _ = scan token.text ++ scan behind := scan_append_space _ _
        _ = token :: next :: tokens := by rw [scan_text here, ih later, List.singleton_append]

/-! ## What taking a text apart keeps -/

/-- **Nothing but blanks is lost when a text is taken apart into tokens.** The rounds come to an end
and take the tokens of the text. In their order these have all characters of the text that are not
blank. No word is empty or has a blank, a parenthesis or a sign in it. With spaces between them the
tokens spell a text with the same tokens. -/
theorem scan_lossless (text : Text) :
    (∀ tokens, Takes text tokens ↔ tokens = scan text) ∧
      (scan text).flatMap Token.text = text.filter (!isBlank ·) ∧
      (∀ word, .word word ∈ scan text → IsWord word) ∧
      scan (Text.joinWith [' '] ((scan text).map Token.text)) = scan text :=
  ⟨fun _ => takes_iff, flatMap_text_scan text, fun _ => isProper_of_mem_scan,
    scan_joinWith fun _ => isProper_of_mem_scan⟩

/-- In a run of three, the third character is a word with what follows it. -/
theorem scan_lossless_runOfThree :
    .word "&é".toList ∈ scan "(A &&&é)||B|".toList ∧ IsWord "&é".toList := by
  have member : .word "&é".toList ∈ scan "(A &&&é)||B|".toList := by decide +kernel
  exact ⟨member, (scan_lossless _).2.2.1 _ member⟩

end Token

end Amalgamation

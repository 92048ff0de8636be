import Amalgamation.Directive.Condition
import Amalgamation.Proofs.Feature.Canonical
import Amalgamation.Proofs.Feature.Names
import Amalgamation.Proofs.Feature.Progress
import Amalgamation.Proofs.Feature.Tokens

/-!
# Unfinished conditions

A text with which a condition begins is told to be unfinished by its end and by the number of its
parentheses, without reading it. Both can be seen in the tokens: since blanks alone are lost and no
word has a parenthesis in it, the parentheses of a text are those among its tokens
(`Token.count_bracket`), and the text ends with the last token (`Token.suffix_of_scan`). While a
condition is read, the parentheses that are open are those that were opened and not closed
(`ParseState.count_of_after`).

So the text is unfinished exactly if the condition cannot end with it (`isUnfinished_iff`). If it
can end there and goes on all the same, then with a connective (`ParseState.sign_of_step`), behind
which another name must come (`FeatureExpr.eq_nil_of_ofTokens_append`).
-/

set_option autoImplicit false

namespace Amalgamation

variable {catalog : Catalog}

/-! ## The characters of a text and of its tokens -/

namespace Token

variable {c : Char} {text : Text} {token : Token} {tokens : List Token}

/-- **No character but a blank stands between the tokens of a text.** -/
theorem count_scan (solid : isBlank c = false) (text : Text) :
    text.count c = ((scan text).flatMap Token.text).count c := by
  rw [flatMap_text_scan, List.count_filter (by simp [solid])]

/-- **A text ends with its last token**, blanks apart. -/
theorem suffix_of_scan (scanned : scan text = tokens ++ [token]) :
    token.text <:+ Text.trimEnd text := by
  induction tokens generalizing text with
  | nil =>
    have member : token ∈ scan text := by
      rw [scanned]
      exact List.mem_cons_self
    have solid := (isProper_of_mem_scan member).solid
    obtain ⟨spaces, behind, rfl, -, rest⟩ := exists_of_scan scanned
    have whole : Text.trimEnd token.text = token.text :=
      List.rdropWhile_eq_self_iff.mpr fun some => by simp [solid _ (List.getLast_mem some)]
    have last := Text.trimEnd_suffix_append spaces token.text
    rwa [whole, ← Text.trimEnd_append_blanks (blank_of_scan rest), List.append_assoc] at last
  | cons first tokens ih =>
    obtain ⟨spaces, behind, rfl, -, rest⟩ := exists_of_scan scanned
    have here := Text.trimEnd_suffix_append (spaces ++ first.text) behind
    rw [List.append_assoc] at here
    exact (ih rest).trans here

/-- What a token of a condition is made of, if it is no connective. -/
theorem char_of_not_sign (identifier : ∀ word, token = .word word → isIdentifier word)
    (noSign : ∀ connective, token ≠ .sign connective) (member : c ∈ token.text) :
    c = '(' ∨ c = ')' ∨ c.isAlphanum ∨ c = '_' := by
  cases token with
  | word word => exact .inr (.inr (isAlphanum_of_isIdentifier (identifier word rfl) member))
  | opening => exact .inl (List.mem_singleton.mp member)
  | closing => exact .inr (.inl (List.mem_singleton.mp member))
  | sign connective => exact (noSign connective rfl).elim

/-- **A parenthesis stands in a text as often as among its tokens.** -/
theorem count_bracket {bracket : Token}
    (kind : bracket = .opening ∧ c = '(' ∨ bracket = .closing ∧ c = ')') (text : Text) :
    text.count c = (scan text).count bracket := by
  have solid : isBlank c = false := by rcases kind with ⟨-, rfl⟩ | ⟨-, rfl⟩ <;> rfl
  have single : ∀ token : Token, token.IsProper → token.text.count c = [token].count bracket := by
    intro token proper
    cases token with
    | word word =>
      have whole : IsWord word := proper
      have absent : c ∉ word := by
        rcases kind with ⟨-, rfl⟩ | ⟨-, rfl⟩
        · exact whole.noBracket.1
        · exact whole.noBracket.2
      have other : Token.word word ≠ bracket := by
        rcases kind with ⟨rfl, -⟩ | ⟨rfl, -⟩ <;> exact nofun
      rw [Token.text, List.count_eq_zero.mpr absent, List.count_singleton, beq_false_of_ne other]
      rfl
    | opening | closing => rcases kind with ⟨rfl, rfl⟩ | ⟨rfl, rfl⟩ <;> rfl
    | sign connective =>
      rcases kind with ⟨rfl, rfl⟩ | ⟨rfl, rfl⟩ <;> cases connective <;> rfl
  have proper : ∀ token ∈ scan text, token.IsProper := fun _ => isProper_of_mem_scan
  rw [count_scan solid]
  generalize scan text = tokens at proper
  induction tokens with
  | nil => rfl
  | cons token tokens ih =>
    obtain ⟨here, later⟩ := List.forall_mem_cons.mp proper
    rw [List.flatMap_cons, List.count_append, single token here, ih later, ← List.count_append,
      List.singleton_append]

end Token

/-! ## Open parentheses -/

namespace ParseState

variable {state next : ParseState} {token : Token} {tokens : List Token} {e : ParseError}

/-- The number of parentheses that are open. -/
def depth : ParseState → Nat
  | .wanting outer _ => outer.length
  | .having outer _ _ => outer.length

theorem depth_supply (outer : List OpenChain) (chain : OpenChain) (operand : FeatureExpr) :
    (supply outer chain operand).depth = outer.length := by
  obtain ⟨_, _, same⟩ := exists_supply_eq outer chain operand
  rw [same]
  rfl

/-- One token opens a parenthesis, closes one or leaves them as they are. -/
theorem count_of_step (read : state.step catalog token = .ok next) :
    state.depth + [token].count .opening = next.depth + [token].count .closing := by
  rcases step_eq_ok read with ⟨_, _, _, rfl, rfl, -, -, rfl⟩ | ⟨_, _, rfl, rfl, rfl⟩ |
    ⟨_, _, _, _, rfl, rfl, -, rfl⟩ | ⟨_, _, _, _, rfl, rfl, rfl⟩
  · rw [depth_supply]
    rfl
  · rfl
  · rfl
  · rw [depth_supply]
    rfl

/-- **The parentheses that are open are those that were opened and not closed.** -/
theorem count_of_after (reached : after catalog state tokens = .ok next) :
    state.depth + tokens.count .opening = next.depth + tokens.count .closing := by
  induction tokens generalizing state with
  | nil =>
    obtain rfl := Except.ok.inj reached
    rfl
  | cons token tokens ih =>
    obtain ⟨middle, read, later⟩ := bind_eq_ok.mp (after_cons.symm.trans reached)
    have here := count_of_step read
    have rest := ih later
    rw [← List.singleton_append, List.count_append, List.count_append]
    omega

/-- A condition cannot end behind a connective or within parentheses, and can end behind everything
else. -/
theorem finish_of_step (read : state.step catalog token = .ok next) :
    (∃ e, next.finish = .error e) ↔ (∃ connective, token = .sign connective) ∨ 0 < next.depth := by
  have supplied : ∀ outer chain operand,
      (∃ e, (supply outer chain operand).finish = .error e) ↔
        0 < (supply outer chain operand).depth := by
    intro outer chain operand
    obtain ⟨used, whole, same⟩ := exists_supply_eq outer chain operand
    rw [same]
    cases outer with
    | nil => exact ⟨nofun, nofun⟩
    | cons _ _ => exact ⟨fun _ => Nat.succ_pos _, fun _ => ⟨_, rfl⟩⟩
  rcases step_eq_ok read with ⟨outer, chain, name, rfl, rfl, -, -, rfl⟩ |
    ⟨outer, chain, rfl, rfl, rfl⟩ | ⟨outer, used, operand, connective, rfl, rfl, -, rfl⟩ |
    ⟨chain, outer, used, operand, rfl, rfl, rfl⟩
  · rw [supplied]
    simp
  · exact ⟨fun _ => .inr (Nat.succ_pos _), fun _ => ⟨_, rfl⟩⟩
  · exact ⟨fun _ => .inl ⟨connective, rfl⟩, fun _ => ⟨_, rfl⟩⟩
  · rw [supplied]
    simp

/-- **Where a condition can end**, it goes on with a connective, and then an operand is wanted. -/
theorem sign_of_step {condition : FeatureExpr} (done : state.finish = .ok condition)
    (read : state.step catalog token = .ok next) :
    ∃ connective, token = .sign connective ∧ next = .wanting [] (some (connective, condition)) := by
  rcases step_eq_ok read with ⟨_, _, _, rfl, -⟩ | ⟨_, _, rfl, -⟩ |
    ⟨outer, _, _, connective, rfl, rfl, -, rfl⟩ | ⟨_, _, _, _, rfl, -⟩
  · cases done
  · cases done
  · cases outer with
    | nil =>
      obtain rfl := Except.ok.inj done
      exact ⟨connective, rfl, rfl⟩
    | cons _ _ => cases done
  · cases done

end ParseState

/-- **No tokens can be added to a condition** without changing it: behind a connective another name
must come. -/
theorem FeatureExpr.eq_nil_of_ofTokens_append {before more : List Token} {condition : FeatureExpr}
    (read : ofTokens catalog before = .ok condition)
    (longer : ofTokens catalog (before ++ more) = .ok condition) : more = [] := by
  obtain ⟨_, derived⟩ := derives_of_ofTokens read
  obtain ⟨_, derived'⟩ := derives_of_ofTokens longer
  have wordless : more.filterMap Token.word? = [] := by
    have same := derived'.words.trans derived.words.symm
    rwa [List.filterMap_append, List.append_right_eq_self] at same
  rw [ofTokens_eq_ok_iff, ParseState.run_eq_bind] at read
  rw [ofTokens_eq_ok_iff, ParseState.run_append] at longer
  obtain ⟨state, reached, done⟩ := bind_eq_ok.mp read
  obtain ⟨_, reached', rest⟩ := bind_eq_ok.mp longer
  obtain rfl := Except.ok.inj (reached.symm.trans reached')
  cases more with
  | nil => rfl
  | cons token more =>
    rw [ParseState.run] at rest
    split at rest
    · cases rest
    · next stepped =>
      obtain ⟨connective, rfl, rfl⟩ := ParseState.sign_of_step done stepped
      obtain ⟨name, member, -⟩ := ParseState.exists_name_of_run rest
      have word : name ∈ (Token.sign connective :: more).filterMap Token.word? :=
        List.mem_filterMap.mpr ⟨.word name, List.mem_cons_of_mem _ member, rfl⟩
      rw [wordless] at word
      cases word

/-! ## Signs at the ends of a text -/

section Signs

variable {text : Text} {token : Token} {tokens : List Token} {connective : Connective}

/-- A text that begins with no blank starts with a sign if its first token is one. -/
theorem startsWithSign_of_scan (solid : ∀ c ∈ text.head?, isBlank c = false)
    (scanned : Token.scan text = .sign connective :: tokens) : startsWithSign text := by
  obtain ⟨behind, rfl, -⟩ := Token.exists_of_scan_solid solid scanned
  cases connective <;> rfl

theorem endsWithSign_iff_suffix :
    endsWithSign text ↔ ∃ connective : Connective, connective.sign <:+ text := by
  simp only [endsWithSign, Text.endsWith, Bool.or_eq_true, List.isSuffixOf_iff_suffix]
  constructor
  · rintro (ends | ends)
    · exact ⟨.and, ends⟩
    · exact ⟨.or, ends⟩
  · rintro ⟨_ | _, ends⟩
    · exact .inl ends
    · exact .inr ends

/-- **A text ends with a sign exactly if its last token is one**, if the words are identifiers. -/
theorem endsWithSign_iff (scanned : Token.scan text = tokens ++ [token])
    (identifiers : ∀ word, .word word ∈ Token.scan text → isIdentifier word) :
    endsWithSign (Text.trimEnd text) ↔ ∃ connective, token = .sign connective := by
  have member : token ∈ Token.scan text := by
    rw [scanned]
    exact List.mem_append_right _ List.mem_cons_self
  have identifier : ∀ word, token = .word word → isIdentifier word := by
    rintro word rfl
    exact identifiers word member
  have last := Token.suffix_of_scan scanned
  rw [endsWithSign_iff_suffix]
  constructor
  · rintro ⟨connective, ends⟩
    by_contra noSign
    -- One of the two is the end of the other, so they have a character in common.
    obtain ⟨c, ofSign, ofToken⟩ : ∃ c ∈ connective.sign, c ∈ token.text := by
      rcases List.suffix_or_suffix_of_suffix ends last with inside | inside
      · cases connective <;> exact ⟨_, List.mem_cons_self, inside.subset List.mem_cons_self⟩
      · obtain ⟨c, rest, same⟩ := List.exists_cons_of_ne_nil
          (Token.isProper_of_mem_scan member).text_ne_nil
        have first : c ∈ token.text := by rw [same]; exact List.mem_cons_self
        exact ⟨c, inside.subset first, first⟩
    have part := Token.char_of_not_sign identifier (not_exists.mp noSign) ofToken
    cases connective <;>
    · obtain rfl : c = _ := by simpa [Connective.sign] using ofSign
      exact absurd part (by decide)
  · rintro ⟨connective, rfl⟩
    exact ⟨connective, last⟩

end Signs

/-- **A text is unfinished exactly if the condition that begins with it cannot end there.** -/
theorem isUnfinished_iff {text : Text} {state : ParseState} (filled : Token.scan text ≠ [])
    (identifiers : ∀ word, .word word ∈ Token.scan text → isIdentifier word)
    (reached : ParseState.after catalog .start (Token.scan text) = .ok state) :
    isUnfinished text ↔ ∃ e, state.finish = .error e := by
  obtain ⟨tokens, token, scanned⟩ := (List.eq_nil_or_concat' _).resolve_left filled
  have opened := Token.count_bracket (.inl ⟨rfl, rfl⟩) text
  have closed := Token.count_bracket (.inr ⟨rfl, rfl⟩) text
  have balance := ParseState.count_of_after reached
  rw [show ParseState.start.depth = 0 from rfl, Nat.zero_add] at balance
  obtain ⟨before, last⟩ : ∃ before : ParseState, before.step catalog token = .ok state := by
    rw [scanned, ParseState.after_concat] at reached
    obtain ⟨before, -, last⟩ := bind_eq_ok.mp reached
    exact ⟨before, last⟩
  rw [ParseState.finish_of_step last, ← endsWithSign_iff scanned identifiers, isUnfinished,
    Bool.or_eq_true, decide_eq_true_eq, opened, closed, balance]
  exact or_congr_right (by omega)

end Amalgamation

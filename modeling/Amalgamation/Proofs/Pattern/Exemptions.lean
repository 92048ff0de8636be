import Amalgamation.Exemptions
import Amalgamation.Proofs.Pattern.Engine
import Amalgamation.Proofs.Results
import Mathlib.Data.List.Forall2

/-!
# What an exemption covers

A pattern text that an engine compiles alone matches behind the anchor what it matches alone, so its
exemption covers the targets that begin with one of its matches (`Exemptions.covers_iff`). This
holds for every engine that keeps to its documentation.

A pattern text that the engine refuses may be accepted all the same, namely if it closes the group
that it stands in and opens another one. What is in front of its last alternative is anchored then,
and the rest is not, so that it covers targets by what stands in the middle of them
(`Exemptions.unanchored`).
-/

set_option autoImplicit false

namespace Amalgamation

/-- Some computations one after the other succeed if each of them does. -/
theorem mapM_eq_ok {ε α β : Type} {f : α → Except ε β} {as : List α} {results : List β} :
    as.mapM f = .ok results ↔ List.Forall₂ (fun a result => f a = .ok result) as results := by
  induction as generalizing results with
  | nil => rw [List.mapM_nil, pure_eq_ok, List.forall₂_nil_left_iff, eq_comm]
  | cons a as ih =>
    simp only [List.mapM_cons, bind_eq_ok, pure_eq_ok, ih]
    constructor
    · rintro ⟨result, here, others, later, rfl⟩
      exact .cons here later
    · rintro (_ | ⟨here, later⟩)
      exact ⟨_, here, _, later, rfl⟩

namespace Exemptions

section Engine

variable [engine : PatternEngine] {Matches : engine.Regex → Text → Nat → Nat → Prop}
  {texts : List Text} {text target : Text} {regex whole : engine.Regex} {exemptions : Exemptions}

theorem patternOf_eq_ok_iff :
    patternOf text = .ok regex ↔ engine.compile (anchored text) = some regex := by
  unfold patternOf
  cases engine.compile (anchored text) <;> simp

/-- The patterns of accepted texts are compiled one by one. -/
theorem ofTexts_eq_ok_iff :
    ofTexts texts = .ok exemptions ↔ ∃ regexes,
      List.Forall₂ (fun text regex => engine.compile (anchored text) = some regex) texts regexes ∧
        exemptions = ⟨regexes.map engine.isMatch⟩ := by
  unfold ofTexts
  simp only [map_eq_ok, mapM_eq_ok, patternOf_eq_ok_iff]
  constructor
  · rintro ⟨regexes, aligned, rfl⟩
    exact ⟨regexes, aligned, rfl⟩
  · rintro ⟨regexes, aligned, rfl⟩
    exact ⟨regexes, aligned, rfl⟩

/-- Every accepted text is compiled behind the anchor. -/
theorem exists_compile_anchored (accepted : ofTexts texts = .ok exemptions)
    (listed : text ∈ texts) : ∃ whole, engine.compile (anchored text) = some whole := by
  obtain ⟨regexes, aligned, -⟩ := ofTexts_eq_ok_iff.mp accepted
  clear accepted
  induction aligned with
  | nil => cases listed
  | cons compiled _ ih =>
    rcases List.mem_cons.mp listed with rfl | later
    · exact ⟨_, compiled⟩
    · exact ih later

/-- An exemption covers the targets in which one of its anchored texts has a match. -/
theorem covers_iff_exists (accepted : ofTexts texts = .ok exemptions) :
    exemptions.covers target ↔ ∃ text ∈ texts, ∃ whole,
      engine.compile (anchored text) = some whole ∧ engine.isMatch whole target := by
  obtain ⟨regexes, aligned, rfl⟩ := ofTexts_eq_ok_iff.mp accepted
  unfold covers
  clear accepted
  induction aligned with
  | nil => simp
  | cons compiled _ ih => simpa [compiled] using or_congr_right ih

/-- **A text that is compiled alone** is searched for at the start of the target. -/
theorem isMatch_anchored_iff (documented : engine.Documented Matches)
    (alone : engine.compile text = some regex)
    (compiled : engine.compile (anchored text) = some whole) :
    engine.isMatch whole target ↔ ∃ j, Matches regex target 0 j := by
  obtain ⟨caret, front, atStart⟩ := documented.caret
  have concatenated := documented.concatenation (by decide) front alone compiled target
  rw [documented.isMatch_iff compiled]
  constructor
  · rintro ⟨i, k, matched⟩
    obtain ⟨j, before, behind⟩ := (concatenated i k).mp matched
    obtain ⟨-, rfl⟩ := (atStart target i j).mp before
    exact ⟨k, behind⟩
  · rintro ⟨j, matched⟩
    exact ⟨0, j, (concatenated 0 j).mpr ⟨0, (atStart target 0 0).mpr ⟨rfl, rfl⟩, matched⟩⟩

/-- **What is covered.** A text that is compiled alone covers the targets that begin with one of its
matches. A text that is not covers the targets in which there is a match, anywhere, of what is
compiled with the anchor and the group around the text. -/
theorem covers_iff (documented : engine.Documented Matches)
    (accepted : ofTexts texts = .ok exemptions) (target : Text) :
    exemptions.covers target ↔
      ∃ text ∈ texts,
        (∃ regex, engine.compile text = some regex ∧ ∃ j, Matches regex target 0 j) ∨
        engine.compile text = none ∧
          ∃ whole i j, engine.compile (anchored text) = some whole ∧ Matches whole target i j := by
  rw [covers_iff_exists accepted]
  constructor
  · rintro ⟨text, listed, whole, compiled, found⟩
    refine ⟨text, listed, ?_⟩
    cases alone : engine.compile text with
    | some regex =>
      exact .inl ⟨regex, rfl, (isMatch_anchored_iff documented alone compiled).mp found⟩
    | none =>
      obtain ⟨i, j, matched⟩ := (documented.isMatch_iff compiled target).mp found
      exact .inr ⟨rfl, whole, i, j, compiled, matched⟩
  · rintro ⟨text, listed, ⟨regex, alone, matched⟩ | ⟨-, whole, i, j, compiled, matched⟩⟩
    · obtain ⟨whole, compiled⟩ := exists_compile_anchored accepted listed
      exact ⟨text, listed, whole, compiled,
        (isMatch_anchored_iff documented alone compiled).mpr matched⟩
    · exact ⟨text, listed, whole, compiled,
        (documented.isMatch_iff compiled target).mpr ⟨i, j, matched⟩⟩

theorem ofTexts_singleton (compiled : engine.compile (anchored text) = some whole) :
    ofTexts [text] = .ok ⟨[engine.isMatch whole]⟩ :=
  ofTexts_eq_ok_iff.mpr ⟨[whole], .cons compiled .nil, rfl⟩

end Engine

/-- The second of two alternatives covers a target that begins with it. -/
theorem covers_secondAlternative :
    Pattern.engine.Documented Pattern.Matches ∧
      ∃ exemptions, ofTexts ["b|c".toList] = .ok exemptions ∧
        exemptions.covers "cd".toList ∧ ¬exemptions.covers "ac".toList := by
  have alone : Pattern.parse "b|c".toList =
      some (.choice (.one (.single 'b')) (.one (.single 'c'))) := by
    decide +kernel
  have parsed : Pattern.parse (anchored "b|c".toList) =
      some (.sequence (.here .textStart) (.choice (.one (.single 'b')) (.one (.single 'c')))) := by
    decide +kernel
  have compiled : Pattern.engine.compile (anchored "b|c".toList) = some _ := parsed
  have accepted := ofTexts_singleton compiled
  refine ⟨Pattern.engine_documented, _, accepted, ?_, by decide +kernel⟩
  refine (covers_iff Pattern.engine_documented accepted _).mpr ?_
  exact ⟨_, List.mem_singleton_self _,
    .inl ⟨_, alone, 1, by decide, .inr ⟨rfl, 'c', rfl, by decide⟩⟩⟩

/-- **A text that is not anchored.** It is accepted, though it is refused alone, and it covers a
target by what stands behind the beginning. -/
theorem unanchored :
    ∃ exemptions, ofTexts ["a)|(?:b".toList] = .ok exemptions ∧
      Pattern.engine.compile "a)|(?:b".toList = none ∧ exemptions.covers "xb".toList := by
  have parsed : Pattern.parse (anchored "a)|(?:b".toList) =
      some (.choice (.sequence (.here .textStart) (.one (.single 'a'))) (.one (.single 'b'))) := by
    decide +kernel
  have refused : Pattern.parse "a)|(?:b".toList = none := by decide +kernel
  have compiled : Pattern.engine.compile (anchored "a)|(?:b".toList) = some _ := parsed
  exact ⟨_, ofTexts_singleton compiled, refused, by decide +kernel⟩

end Exemptions

end Amalgamation

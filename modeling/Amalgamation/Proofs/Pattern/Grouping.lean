import Amalgamation.Proofs.Pattern.Lookahead
import Amalgamation.Proofs.Pattern.Reading

/-!
# A pattern text in a group

The reader and the draft keep the groups that are open around the one they are in, and look at them
only when they close a group. So they take the same steps with other groups around these
(`Pattern.Reader.step_inside`, `Pattern.Draft.step_inside`), as long as they close no group that
they have not opened. A text that can be read alone closes no such group. Hence a parenthesis behind
it closes the group that it stands in, and the group holds what the text spells alone
(`Pattern.readFrom_inside`).
-/

set_option autoImplicit false

namespace Amalgamation.Pattern

/-! ## The reader inside of groups -/

namespace Reader

variable {reader : Reader} {c : Char} {next : Text} {outer : List Flags}

/-- The reader with some groups around those that it has opened. -/
def inside (reader : Reader) (outer : List Flags) : Reader :=
  { reader with outer := reader.outer ++ outer }

theorem inside_flags : (reader.inside outer).flags = reader.flags := rfl

theorem inside_mode : (reader.inside outer).mode = reader.mode := rfl

/-- What the reader inside of some groups becomes instead of what it becomes alone. -/
def alsoInside (outer : List Flags) (read : Reader × List Token) : Reader × List Token :=
  (read.1.inside outer, read.2)

theorem stepCount_inside {least : Option Nat} {number : NumberRead} :
    (reader.inside outer).stepCount least number c next =
      (reader.stepCount least number c next).map (alsoInside outer) := by
  unfold stepCount
  split
  · cases readDigit _ number <;> rfl
  · split
    · rfl
    · split
      · cases number.value? <;> rfl
      · split
        · cases bounds? least number <;> rfl
        · rfl

theorem stepName_inside {name : Text} :
    (reader.inside outer).stepName name c = (reader.stepName name c).map (alsoInside outer) := by
  unfold stepName
  split
  · split <;> rfl
  · split <;> rfl

theorem stepFlags_inside {flags : FlagsRead} :
    (reader.inside outer).stepFlags flags c =
      (reader.stepFlags flags c).map (alsoInside outer) := by
  unfold stepFlags
  split
  · split <;> rfl
  · split <;> rfl
  · split <;> rfl
  · split
    · rfl
    · cases Flag.ofLetter? _ <;> rfl

theorem stepKind_inside :
    (reader.inside outer).stepKind c next = (reader.stepKind c next).map (alsoInside outer) := by
  unfold stepKind
  split
  · split <;> rfl
  · rfl
  · exact stepFlags_inside

theorem stepEscape_inside :
    (reader.inside outer).stepEscape c next =
      (reader.stepEscape c next).map (alsoInside outer) := by
  unfold stepEscape
  dsimp only [inside]
  split <;> rfl

theorem stepPlain_inside
    (opened : reader.stepPlain c next = some reader.closeGroup → reader.outer ≠ []) :
    (reader.inside outer).stepPlain c next = (reader.stepPlain c next).map (alsoInside outer) := by
  unfold stepPlain
  dsimp only [inside]
  split
  case h_3 => split <;> rfl
  case h_4 =>
    -- The group that is closed is one that the reader has opened.
    obtain ⟨flags, others, deep⟩ := List.exists_cons_of_ne_nil (opened rfl)
    simp [closeGroup, alsoInside, inside, deep]
  case h_10 => cases reader.flags.dot? <;> rfl
  all_goals rfl

theorem stepMode_inside
    (opened : reader.stepMode c next = some reader.closeGroup → reader.outer ≠ []) :
    (reader.inside outer).stepMode c next = (reader.stepMode c next).map (alsoInside outer) := by
  unfold stepMode at opened ⊢
  rw [inside_mode]
  split
  case h_1 plain =>
    rw [plain] at opened
    exact stepPlain_inside opened
  case h_3 => exact stepEscape_inside
  case h_5 => exact stepKind_inside
  case h_7 => exact stepName_inside
  case h_8 => exact stepFlags_inside
  case h_9 => exact stepCount_inside
  case h_10 =>
    rw [inside_flags]
    split <;> rfl
  case h_12 => split <;> rfl
  all_goals rfl

/-- **A step inside of some groups** is the step alone, unless it closes one of these. -/
theorem step_inside (opened : reader.step c next = some reader.closeGroup → reader.outer ≠ []) :
    (reader.inside outer).step c next = (reader.step c next).map (alsoInside outer) := by
  unfold step at opened ⊢
  rw [inside_flags, inside_mode]
  split
  · rfl
  · next counts =>
    rw [if_neg counts] at opened
    split
    · rfl
    · next counts' =>
      rw [if_neg counts'] at opened
      exact stepMode_inside opened

end Reader

/-! ## The draft inside of groups -/

namespace Draft

variable {read after : Draft} {token : Token} {outer : List OpenGroup}

/-- The draft with some groups around those that it has opened. -/
def inside (read : Draft) (outer : List OpenGroup) : Draft :=
  { read with outer := read.outer ++ outer }

/-- **What can be read alone** can be read inside of some groups, too. -/
theorem step_inside (stepped : read.step token = some after) :
    (read.inside outer).step token = some (after.inside outer) := by
  cases token with
  | opening kind =>
    cases kind with
    | plain =>
      cases stepped
      rfl
    | noted name =>
      dsimp only [step, openGroup, inside] at stepped ⊢
      split at stepped
      · cases stepped
      · next new =>
        cases stepped
        rw [if_neg new]
        rfl
  | closing =>
    dsimp only [step, closeGroup, inside] at stepped ⊢
    split at stepped
    · cases stepped
    · next deep =>
      cases stepped
      rw [deep]
      rfl
  | quantifier least most greedy =>
    obtain ⟨item, items, last, repeatable, rfl⟩ := quantify_eq_some_iff.mp stepped
    exact quantify_eq_some_iff.mpr ⟨item, items, last, repeatable, rfl⟩
  | _ =>
    cases stepped
    rfl

theorem foldlM_step_inside {tokens : List Token} (stepped : tokens.foldlM step read = some after) :
    tokens.foldlM step (read.inside outer) = some (after.inside outer) := by
  induction tokens generalizing read with
  | nil =>
    cases stepped
    rfl
  | cons token tokens ih =>
    rw [List.foldlM_cons] at stepped ⊢
    obtain ⟨next, first, rest⟩ := Option.bind_eq_some_iff.mp stepped
    rw [step_inside first]
    exact ih rest

end Draft

/-! ## Both together -/

theorem Mode.isComplete_iff {mode : Mode} :
    mode.isComplete ↔ mode = .plain ∨ mode = .comment .plain := by
  unfold isComplete
  split <;> simp_all

/-- A closing parenthesis closes a group. -/
theorem Reader.step_parenthesis {reader : Reader} {next : Text} (plain : reader.mode = .plain) :
    reader.step ')' next = some reader.closeGroup := by
  simp [step, plain, stepMode, stepPlain, show isBlank ')' = false by decide]

/-- A closing parenthesis in a comment belongs to the comment. -/
theorem Reader.step_parenthesis_of_comment {reader : Reader} {next : Text} {mode : Mode}
    (comment : reader.mode = .comment mode) : reader.step ')' next = some (reader, []) := by
  simp [step, comment, stepMode, Mode.allowsBlanks]

variable {reader next : Reader} {read after : Draft} {c : Char} {text : Text} {tokens : List Token}
  {part whole : Part}

/-- A group that is closed was opened. -/
theorem ne_nil_of_closeGroup (stepped : reader.step c text = some (next, tokens))
    (followed : tokens.foldlM Draft.step read = some after)
    (aligned : reader.outer.length = read.outer.length)
    (closes : reader.step c text = some reader.closeGroup) : reader.outer ≠ [] := by
  obtain ⟨-, rfl⟩ := Prod.mk.inj (Option.some.inj (stepped.symm.trans closes))
  rw [Draft.foldlM_singleton] at followed
  obtain ⟨group, deep⟩ := Draft.outer_of_closing followed
  rw [deep] at aligned
  exact List.ne_nil_of_length_eq_add_one aligned

/-- **A text in a group.** A text that can be read alone is read in the same way inside of a group,
which is closed by the parenthesis behind the text. -/
theorem readFrom_inside {flags : Flags} {group : OpenGroup}
    (aligned : reader.outer.length = read.outer.length)
    (alone : readFrom reader read text = some part)
    (within : readFrom (reader.inside [flags]) (read.inside [group]) (text ++ [')']) = some whole) :
    ∃ number, whole = (group.push (part.grouped number)).content := by
  induction text generalizing reader read with
  | nil =>
    obtain ⟨complete, top, rfl⟩ := readFrom_nil_eq_some_iff.mp alone
    rw [List.nil_append] at within
    rcases Mode.isComplete_iff.mp complete with plain | comment
    · have closes : (reader.inside [flags]).step ')' [] =
          some (reader.inside [flags]).closeGroup := Reader.step_parenthesis plain
      rw [readFrom_cons closes, Draft.foldlM_singleton] at within
      obtain ⟨after, closed, ended⟩ := Option.bind_eq_some_iff.mp within
      dsimp only [Draft.step, Draft.closeGroup, Draft.inside] at closed
      rw [top] at closed
      cases closed
      obtain ⟨-, -, rfl⟩ := readFrom_nil_eq_some_iff.mp ended
      exact ⟨read.group.number, rfl⟩
    · -- The parenthesis belongs to the comment, so the group is still open at the end.
      have passes : (reader.inside [flags]).step ')' [] = some (reader.inside [flags], []) :=
        Reader.step_parenthesis_of_comment comment
      rw [readFrom_cons passes] at within
      obtain ⟨-, none, -⟩ := readFrom_nil_eq_some_iff.mp within
      exact absurd none (List.append_ne_nil_of_right_ne_nil read.outer (List.cons_ne_nil group []))
  | cons c text ih =>
    obtain ⟨next, tokens, after, stepped, followed, alone⟩ := readFrom_cons_eq_some alone
    have opened := ne_nil_of_closeGroup stepped followed aligned
    have stepped' : (reader.inside [flags]).step c (text ++ [')']) =
        some (next.inside [flags], tokens) := by
      rw [Reader.step_append, Reader.step_inside opened, stepped]
      rfl
    rw [List.cons_append, readFrom_cons stepped', Draft.foldlM_step_inside followed] at within
    exact ih (aligned_of_yields (Reader.yields_step stepped) followed aligned) alone within

end Amalgamation.Pattern

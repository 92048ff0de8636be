import Amalgamation.Pattern.Token

/-!
# A closing parenthesis behind the text

The reader of a pattern text looks ahead at several places: for a question mark, for the digits or
the name of an escape, for the end of a range or of a named set. Nothing that it looks for has a
closing parenthesis in it, so one that is put behind the text is not missed and makes no difference
to a step (`Pattern.Reader.step_append`).

Blanks and comments are the one exception: where they do not count, a comment at the end of the text
swallows the parenthesis (`Pattern.Flags.skip_append`). Then nothing is found with it or without it.
-/

set_option autoImplicit false

namespace Amalgamation.Pattern

variable {flags : Flags} {c : Char}

/-- What was found in a text that has a closing parenthesis behind it. -/
def withClosing {α : Type} (found : Option (α × Text)) : Option (α × Text) :=
  found.map fun (value, rest) => (value, rest ++ [')'])

@[simp] theorem withClosing_none {α : Type} : withClosing (none : Option (α × Text)) = none := rfl

@[simp] theorem withClosing_some {α : Type} (value : α) (rest : Text) :
    withClosing (some (value, rest)) = some (value, rest ++ [')']) := rfl

/-- Nothing but the parenthesis itself comes first because of it. -/
theorem head?_append (other : c ≠ ')') (text : Text) :
    (text ++ [')']).head? = some c ↔ text.head? = some c := by
  cases text <;> simp [other.symm]

namespace Flags

/-- What is left when blanks are passed over ends in the parenthesis, unless a comment reaches to
the end. -/
theorem skipFrom_append (inComment : Bool) (text : Text) :
    skip.skipFrom inComment (text ++ [')']) = skip.skipFrom inComment text ++ [')'] ∨
      skip.skipFrom inComment text = [] ∧ skip.skipFrom inComment (text ++ [')']) = [] := by
  induction text generalizing inComment with
  | nil =>
    cases inComment with
    | false => exact .inl (by decide)
    | true => exact .inr (by decide)
  | cons c text ih =>
    rw [List.cons_append, skip.skipFrom, skip.skipFrom]
    split
    · exact ih _
    · split
      · exact ih false
      · split
        · exact ih true
        · exact .inl rfl

theorem skip_append (flags : Flags) (text : Text) :
    flags.skip (text ++ [')']) = flags.skip text ++ [')'] ∨
      flags.skip text = [] ∧ flags.skip (text ++ [')']) = [] := by
  unfold skip
  split
  · exact skipFrom_append false text
  · exact .inl rfl

theorem head?_skip_append (other : c ≠ ')') (text : Text) :
    (flags.skip (text ++ [')'])).head? = some c ↔ (flags.skip text).head? = some c := by
  rcases skip_append flags text with longer | ⟨nothing, nothing'⟩
  · rw [longer, head?_append other]
  · rw [nothing, nothing']

theorem dropWhile_isBlank_append (text : Text) :
    (text ++ [')']).dropWhile isBlank = text.dropWhile isBlank ++ [')'] := by
  induction text with
  | nil => rfl
  | cons c text ih =>
    by_cases blank : isBlank c
    · simpa [blank] using ih
    · simp [blank]

theorem glance_append (other : c ≠ ')') (text : Text) :
    flags.glance (text ++ [')']) = some c ↔ flags.glance text = some c := by
  unfold glance
  split
  · rw [dropWhile_isBlank_append]
    cases text.dropWhile isBlank with
    | nil => simpa using head?_append other []
    | cons d rest =>
      by_cases sign : d = '#'
      · subst sign
        simp only [List.cons_append, dropWhile_isBlank_append, head?_append other]
      · simp [sign]
  · exact head?_append other text

theorem braced?_append (inComment : Bool) (read text : Text) :
    flags.braced? inComment read (text ++ [')']) =
      withClosing (flags.braced? inComment read text) := by
  induction text generalizing inComment read with
  | nil => cases inComment <;> simp [braced?, show isBlank ')' = false by decide]
  | cons c text ih =>
    rw [List.cons_append, braced?, braced?]
    split
    · exact ih _ read
    · split
      · exact ih false read
      · split
        · exact ih true read
        · split
          · rfl
          · exact ih false (c :: read)

end Flags

/-! ## Escapes -/

theorem fixedHex?_append (value digits : Nat) (text : Text) :
    fixedHex? flags value digits (text ++ [')']) =
      withClosing (fixedHex? flags value digits text) := by
  induction digits generalizing value text with
  | zero => rfl
  | succ digits ih =>
    unfold fixedHex?
    rcases flags.skip_append text with longer | ⟨nothing, nothing'⟩
    · rw [longer]
      cases flags.skip text with
      | nil => rfl
      | cons c rest =>
        dsimp only [List.cons_append]
        cases hexDigit? c with
        | none => rfl
        | some digit => exact ih _ rest
    · rw [nothing, nothing']
      rfl

theorem hex?_append {digits : Nat} (asked : digits ≠ 0) (text : Text) :
    hex? flags digits (text ++ [')']) = withClosing (hex? flags digits text) := by
  have spelled : ∀ text, ((fixedHex? flags 0 digits (text ++ [')'])).filter fun found =>
        flags.has .wide || found.1 < 128 || digits ≠ 2) =
      withClosing ((fixedHex? flags 0 digits text).filter fun found =>
        flags.has .wide || found.1 < 128 || digits ≠ 2) := by
    intro text
    rw [fixedHex?_append]
    cases fixedHex? flags 0 digits text with
    | none => rfl
    | some found =>
      simp only [withClosing, Option.map_some, Option.filter_some]
      split <;> rfl
  unfold hex?
  rcases flags.skip_append text with longer | ⟨nothing, nothing'⟩
  · rw [longer]
    cases flags.skip text with
    | nil => exact spelled []
    | cons c rest =>
      by_cases brace : c = '\x7b'
      · subst brace
        simp only [List.cons_append, Flags.braced?_append]
        cases flags.braced? false [] rest with
        | none => rfl
        | some found =>
          obtain ⟨digits, rest⟩ := found
          cases digits with
          | nil => rfl
          | cons digit digits =>
            simp only [withClosing_some]
            cases hexValue? 0 (digit :: digits) <;> rfl
      · simpa [brace] using spelled (c :: rest)
  · rw [nothing, nothing']
    obtain ⟨digits, rfl⟩ := Nat.exists_eq_succ_of_ne_zero asked
    have none : fixedHex? flags 0 (digits + 1) [] = none := by
      unfold fixedHex?
      cases blanks : flags.skip [] with
      | nil => rfl
      | cons c rest => simp [Flags.skip, Flags.skip.skipFrom] at blanks
    simp [none]

theorem escapedChar?_append (c : Char) (text : Text) :
    escapedChar? flags c (text ++ [')']) = withClosing (escapedChar? flags c text) := by
  unfold escapedChar?
  cases length : hexLength? c with
  | none => cases plainEscape? c <;> rfl
  | some digits =>
    have asked : digits ≠ 0 := by
      unfold hexLength? at length
      split at length <;> simp_all <;> omega
    dsimp only
    rw [hex?_append asked]
    cases hex? flags digits text with
    | none => rfl
    | some found =>
      obtain ⟨code, rest⟩ := found
      simp only [withClosing_some, Option.bind_some]
      cases charOf? code <;> rfl

theorem boundary?_append (text : Text) :
    boundary? flags (text ++ [')']) = withClosing (boundary? flags text) := by
  cases text with
  | nil => rfl
  | cons c rest =>
    by_cases brace : c = '\x7b'
    · subst brace
      have named : (flags.skip (rest ++ [')'])).head?.any isEdgeChar =
          (flags.skip rest).head?.any isEdgeChar := by
        rcases flags.skip_append rest with longer | ⟨nothing, nothing'⟩
        · rw [longer]
          cases flags.skip rest <;> rfl
        · rw [nothing, nothing']
      simp only [boundary?, List.cons_append, named, Flags.braced?_append]
      split
      · cases flags.braced? false [] rest with
        | none => rfl
        | some found =>
          obtain ⟨name, rest⟩ := found
          simp only [withClosing_some, Option.bind_some]
          cases edgeNames.lookup name <;> rfl
      · rfl
    · simp [boundary?, brace]

theorem escapedAnchor?_append (c : Char) (text : Text) :
    escapedAnchor? flags c (text ++ [')']) = withClosing (escapedAnchor? flags c text) := by
  unfold escapedAnchor?
  split
  case h_3 =>
    rw [boundary?_append]
    cases boundary? flags text <;> rfl
  all_goals rfl

/-! ## Classes -/

theorem rangeFollows_append (text : Text) :
    rangeFollows flags (text ++ [')']) = rangeFollows flags text := by
  have same : ∀ {c : Char}, c ≠ ')' → ∀ rest : Text,
      (flags.glance (rest ++ [')']) != some c) = (flags.glance rest != some c) := by
    intro c other rest
    rw [Bool.eq_iff_iff, bne_iff_ne, bne_iff_ne, Ne, Ne, Flags.glance_append other]
  unfold rangeFollows
  rcases flags.skip_append text with longer | ⟨nothing, nothing'⟩
  · rw [longer]
    cases flags.skip text with
    | nil => rfl
    | cons c rest =>
      by_cases hyphen : c = '-'
      · subst hyphen
        simp only [List.cons_append, same (show ']' ≠ ')' by decide),
          same (show '-' ≠ ')' by decide)]
      · simp [hyphen]
  · rw [nothing, nothing']

theorem startsWith_append {mark : Text} (absent : ')' ∉ mark) (text : Text) :
    Text.startsWith mark (text ++ [')']) = Text.startsWith mark text := by
  unfold Text.startsWith
  induction mark generalizing text with
  | nil => simp
  | cons m mark ih =>
    obtain ⟨other, absent⟩ := not_or.mp (mt List.mem_cons.mpr absent)
    cases text with
    | nil => simp [List.isPrefixOf, Ne.symm other]
    | cons c text => simp [List.isPrefixOf, ih absent]

theorem namedSet?_append (text : Text) : namedSet? (text ++ [')']) = namedSet? text := by
  have absent : ∀ named ∈ namedSets, ')' ∉ named.1 := by decide
  unfold namedSet?
  generalize namedSets = sets at absent ⊢
  induction sets with
  | nil => rfl
  | cons named sets ih =>
    obtain ⟨here, others⟩ := List.forall_mem_cons.mp absent
    obtain ⟨name, set⟩ := named
    have plain : ')' ∉ ':' :: name ++ [':', ']'] := by simpa using here
    have negated : ')' ∉ ':' :: '^' :: name ++ [':', ']'] := by simpa using here
    rw [List.findSome?_cons, List.findSome?_cons, ih others]
    dsimp only
    rw [startsWith_append plain, startsWith_append negated]

/-- As many characters are passed over with the parenthesis as without it. -/
theorem passed_append (next rest : Text) :
    (next ++ [')']).length - (rest ++ [')']).length = next.length - rest.length := by
  simp

namespace ClassRead

variable {read : ClassRead}

theorem pushChar_append (c : Char) (passed : Nat) (rest : Text) :
    read.pushChar flags c passed (rest ++ [')']) = read.pushChar flags c passed rest := by
  rw [pushChar, pushChar, rangeFollows_append]

theorem stepItem_append (c : Char) (next : Text) :
    read.stepItem flags c (next ++ [')']) = read.stepItem flags c next := by
  unfold stepItem
  split
  · rw [openInner, openInner, namedSet?_append]
  · rfl
  · rfl
  · split
    · next operator sign =>
      have other : c ≠ ')' := by
        rintro rfl
        exact nomatch sign
      simp only [head?_append other, pushChar_append]
    · exact pushChar_append c 0 next

theorem stepFront_append (c : Char) (next : Text) :
    read.stepFront flags c (next ++ [')']) = read.stepFront flags c next := by
  rw [stepFront, stepFront, stepItem_append]

theorem stepEscape_append (c : Char) (next : Text) :
    read.stepEscape flags c (next ++ [')']) = read.stepEscape flags c next := by
  unfold stepEscape
  rw [escapedChar?_append, rangeFollows_append]
  cases flags.classLetter? c with
  | some set => rfl
  | none =>
    cases escapedChar? flags c next with
    | none => rfl
    | some found =>
      obtain ⟨c, rest⟩ := found
      simp only [withClosing_some, passed_append, pushChar_append]

theorem step_append (c : Char) (next : Text) :
    read.step flags c (next ++ [')']) = read.step flags c next := by
  have stage : read.stepStage flags c (next ++ [')']) = read.stepStage flags c next := by
    unfold stepStage
    split
    · rw [stepFront_append]
    · exact stepFront_append c next
    · exact stepItem_append c next
    · exact stepEscape_append c next
    · rfl
    · rfl
    · rw [escapedChar?_append]
      cases escapedChar? flags c next with
      | none => rfl
      | some found =>
        obtain ⟨high, rest⟩ := found
        simp only [withClosing_some, Option.bind_some, passed_append]
    · rfl
    · rfl
  rw [step, step, stage]

end ClassRead

/-! ## Reading -/

namespace Reader

variable {reader : Reader}

theorem quantify_append (least : Nat) (most : Option Nat) (next : Text) :
    reader.quantify least most (next ++ [')']) = reader.quantify least most next := by
  have mark := head?_append (show '?' ≠ ')' by decide) next
  simp only [quantify, mark]

theorem stepCount_append (least : Option Nat) (number : NumberRead) (c : Char) (next : Text) :
    reader.stepCount least number c (next ++ [')']) = reader.stepCount least number c next := by
  have mark : (reader.flags.skip (next ++ [')'])).head? = some '?' ↔
      (reader.flags.skip next).head? = some '?' := Flags.head?_skip_append (by decide) next
  simp only [stepCount, quantify, mark]

theorem stepEscape_append (c : Char) (next : Text) :
    reader.stepEscape c (next ++ [')']) = reader.stepEscape c next := by
  unfold stepEscape
  simp only [escapedAnchor?_append, escapedChar?_append]
  cases reader.flags.classLetter? c with
  | some set => rfl
  | none =>
    cases escapedAnchor? reader.flags c next with
    | some found =>
      obtain ⟨anchor, rest⟩ := found
      simp only [withClosing_some, passed_append]
    | none =>
      cases escapedChar? reader.flags c next with
      | none => rfl
      | some found =>
        obtain ⟨c, rest⟩ := found
        simp only [withClosing_none, withClosing_some, passed_append]

theorem stepKind_append (c : Char) (next : Text) :
    reader.stepKind c (next ++ [')']) = reader.stepKind c next := by
  have mark := head?_append (show '<' ≠ ')' by decide) next
  simp only [stepKind, mark]

theorem stepPlain_append (c : Char) (next : Text) :
    reader.stepPlain c (next ++ [')']) = reader.stepPlain c next := by
  have mark : (reader.flags.skip (next ++ [')'])).head? = some '?' ↔
      (reader.flags.skip next).head? = some '?' := Flags.head?_skip_append (by decide) next
  simp only [stepPlain, mark, quantify_append]

/-- **A step does not depend on a closing parenthesis behind the text.** -/
theorem step_append (c : Char) (next : Text) :
    reader.step c (next ++ [')']) = reader.step c next := by
  have mode : reader.stepMode c (next ++ [')']) = reader.stepMode c next := by
    simp only [stepMode, stepPlain_append, stepEscape_append, stepKind_append, stepCount_append,
      ClassRead.step_append]
  rw [step, step, mode]

end Reader

end Amalgamation.Pattern

import Amalgamation.Text.Lines
import Amalgamation.Text.Word
import Mathlib.Data.List.DropRight

/-!
# Trimming

What trimming does to a text, character by character from the front: the last blanks of `c :: text`
are those of `text`, and `c` itself is one of them only if nothing is left behind it
(`trimEnd_cons`). From this one equation it follows that the two ends of a text can be trimmed in
either order, that trimming twice is trimming once, and that trimming an end does not touch what
stands in front of a character that is not blank.

A blank is never a word character (`isWord_of_isBlank`), so taking blanks away at the end of a line
moves no word boundary inside it. The lines of a text hold no line feed, trimmed or not.
-/

set_option autoImplicit false

namespace Amalgamation

/-- The blanks one by one. -/
def blanks : List Char :=
  [' ', '\t', '\n', '\u000b', '\u000c', '\r', '\u0085', '\u00a0', '\u1680', '\u2000', '\u2001',
    '\u2002', '\u2003', '\u2004', '\u2005', '\u2006', '\u2007', '\u2008', '\u2009', '\u200a',
    '\u2028', '\u2029', '\u202f', '\u205f', '\u3000']

theorem mem_blanks_of_isBlank {c : Char} (blank : isBlank c) : c ∈ blanks := by
  have codes : c.toNat ∈ blanks.map Char.toNat := by
    simp only [isBlank, Bool.or_eq_true, Bool.and_eq_true, decide_eq_true_eq, ← Char.toNat_inj,
      Char.le_def, UInt32.le_iff_toNat_le, Char.toNat_val] at blank
    simp only [blanks, List.map_cons, List.map_nil, List.mem_cons, List.not_mem_nil, or_false]
    simp only [Char.reduceToNat] at blank ⊢
    omega
  obtain ⟨d, member, same⟩ := List.mem_map.mp codes
  rwa [Char.toNat_inj.mp same] at member

/-- **A blank is no word character.** -/
theorem isWord_of_isBlank {c : Char} (blank : isBlank c) : isWord c = false := by
  have none : blanks.any isWord = false := by decide +kernel
  simpa using List.any_eq_false.mp none c (mem_blanks_of_isBlank blank)

namespace Text

/-! ## The end of a text, from the front -/

theorem trimEnd_cons (c : Char) (text : Text) :
    trimEnd (c :: text) = if trimEnd text = [] ∧ isBlank c then [] else c :: trimEnd text := by
  unfold trimEnd
  simp only [List.reverse_cons, List.dropWhile_append, List.isEmpty_iff, List.reverse_eq_nil_iff]
  by_cases rest : text.reverse.dropWhile isBlank = []
  · by_cases blank : isBlank c <;> simp [rest, blank]
  · simp [rest]

theorem trimEnd_cons_of_not_isBlank {c : Char} (solid : isBlank c = false) (text : Text) :
    trimEnd (c :: text) = c :: trimEnd text := by
  simp [trimEnd_cons, solid]

/-- Texts with the same trimmed end keep it behind any character. -/
theorem trimEnd_cons_congr (c : Char) {left right : Text} (same : trimEnd left = trimEnd right) :
    trimEnd (c :: left) = trimEnd (c :: right) := by
  simp only [trimEnd_cons, same]

@[simp] theorem trimEnd_trimEnd (text : Text) : trimEnd (trimEnd text) = trimEnd text :=
  List.rdropWhile_idempotent isBlank text

theorem mem_of_mem_trimEnd {c : Char} {text : Text} (member : c ∈ trimEnd text) : c ∈ text :=
  (List.rdropWhile_prefix isBlank text).subset member

theorem mem_of_mem_trim {c : Char} {text : Text} (member : c ∈ trim text) : c ∈ text :=
  (List.dropWhile_suffix isBlank).subset (mem_of_mem_trimEnd member)

theorem trimEnd_eq_nil_iff (text : Text) : trimEnd text = [] ↔ ∀ c ∈ text, isBlank c :=
  List.rdropWhile_eq_nil_iff

/-- A text is its trimmed form with some blanks behind it. -/
theorem exists_append_blanks (text : Text) :
    ∃ spaces, text = trimEnd text ++ spaces ∧ ∀ c ∈ spaces, isBlank c := by
  induction text with
  | nil => exact ⟨[], rfl, by simp⟩
  | cons c text ih =>
    obtain ⟨spaces, split, blank⟩ := ih
    rw [trimEnd_cons]
    by_cases gone : trimEnd text = [] ∧ isBlank c
    · refine ⟨c :: text, by simp [gone], ?_⟩
      simpa [gone.2] using (trimEnd_eq_nil_iff text).mp gone.1
    · refine ⟨spaces, ?_, blank⟩
      rw [if_neg gone, List.cons_append, ← split]

theorem trimEnd_append_blanks {text spaces : Text} (blank : ∀ c ∈ spaces, isBlank c) :
    trimEnd (text ++ spaces) = trimEnd text := by
  rw [trimEnd, trimEnd, List.reverse_append,
    List.dropWhile_append_of_pos fun c member => blank c (List.mem_reverse.mp member)]

theorem trimEnd_append_of_not_isBlank {c : Char} (solid : isBlank c = false) (text : Text) :
    trimEnd (text ++ [c]) = text ++ [c] := by
  rw [trimEnd, List.reverse_append, List.reverse_singleton, List.singleton_append,
    List.dropWhile_cons_of_neg (by simpa using solid), List.reverse_cons, List.reverse_reverse]

/-- Nothing is trimmed off the end of a text for what stands in front of it. -/
theorem trimEnd_suffix_append (front text : Text) : trimEnd text <:+ trimEnd (front ++ text) := by
  induction front with
  | nil => exact List.suffix_rfl
  | cons c front ih =>
    rw [List.cons_append, trimEnd_cons]
    split
    · next gone =>
      rwa [gone.1] at ih
    · exact ih.trans (List.suffix_cons c _)

/-- The two ends of a text can be trimmed in either order. -/
theorem trimStart_trimEnd (text : Text) : trimStart (trimEnd text) = trimEnd (trimStart text) := by
  induction text with
  | nil => rfl
  | cons c text ih =>
    by_cases blank : isBlank c
    · have start : trimStart (c :: text) = trimStart text := by simp [trimStart, blank]
      rw [start, trimEnd_cons]
      split
      · next gone => rw [← ih, gone.1]
      · simpa [trimStart, blank] using ih
    · have solid : isBlank c = false := by simpa using blank
      rw [trimEnd_cons_of_not_isBlank solid]
      simp [trimStart, solid, trimEnd_cons_of_not_isBlank solid]

@[simp] theorem trim_trimEnd (text : Text) : trim (trimEnd text) = trim text := by
  rw [trim, trim, trimStart_trimEnd, trimEnd_trimEnd]

@[simp] theorem trimStart_trimStart (text : Text) : trimStart (trimStart text) = trimStart text :=
  List.dropWhile_idempotent isBlank text

@[simp] theorem trimStart_trim (text : Text) : trimStart (trim text) = trim text := by
  rw [trim, trimStart_trimEnd, trimStart_trimStart]

@[simp] theorem trim_trim (text : Text) : trim (trim text) = trim text := by
  rw [trim, trimStart_trim, trim, trimEnd_trimEnd]

/-- Blanks at the end of a text do not hide its first character. -/
theorem head?_trim (text : Text) : (trim text).head? = (trimStart text).head? := by
  have first := List.head?_dropWhile_not isBlank text
  rw [trim]
  rw [← trimStart] at first
  cases same : trimStart text with
  | nil => rfl
  | cons c rest =>
    rw [same] at first
    rw [trimEnd_cons_of_not_isBlank first]
    rfl

theorem trim_append_of_not_isBlank {c : Char} (solid : isBlank c = false) (text : Text) :
    trim (text ++ [c]) = trimStart text ++ [c] := by
  have start : trimStart (text ++ [c]) = trimStart text ++ [c] := by
    induction text with
    | nil => exact List.dropWhile_cons_of_neg (by simpa using solid)
    | cons d text ih =>
      by_cases blank : isBlank d
      · simpa only [trimStart, List.cons_append, List.dropWhile_cons_of_pos blank] using ih
      · simp only [trimStart, List.cons_append, List.dropWhile_cons_of_neg blank]
  rw [trim, start, trimEnd_append_of_not_isBlank solid]

/-- A trimmed text begins with no blank. -/
theorem solid_of_mem_head?_trim {c : Char} {text : Text} (first : c ∈ (trim text).head?) :
    isBlank c = false := by
  rw [head?_trim] at first
  have solid := List.head?_dropWhile_not isBlank text
  rw [← trimStart] at solid
  rwa [Option.mem_def.mp first] at solid

/-- Trimming both ends sees a text only up to the blanks at its end. -/
theorem trim_congr {left right : Text} (same : trimEnd left = trimEnd right) :
    trim left = trim right := by
  rw [← trim_trimEnd left, same, trim_trimEnd]

/-- A text that is not blank is trimmed at its start as if nothing stood behind it. -/
theorem trimStart_append {text : Text} (solid : trimStart text ≠ []) (more : Text) :
    trimStart (text ++ more) = trimStart text ++ more := by
  rw [trimStart, trimStart, List.dropWhile_append]
  exact if_neg fun gone => solid (List.isEmpty_iff.mp gone)

/-- A text with more behind it is trimmed like its trimmed form with some blanks in between. -/
theorem trim_append (text more : Text) :
    ∃ spaces, (∀ c ∈ spaces, isBlank c) ∧
      trim (text ++ more) = trim (trim text ++ spaces ++ more) := by
  by_cases blank : trimStart text = []
  · refine ⟨text, List.dropWhile_eq_nil_iff.mp blank, ?_⟩
    have gone : trim text = [] := by rw [trim, blank]; rfl
    rw [gone, List.nil_append]
  · obtain ⟨spaces, split, blanks⟩ := exists_append_blanks (trimStart text)
    refine ⟨spaces, blanks, ?_⟩
    have whole : trim text ++ spaces ++ more = trimStart (text ++ more) := by
      rw [trimStart_append blank, trim, ← split]
    rw [whole, trim, trim, trimStart_trimStart]

/-! ## What trimming keeps -/

section Solid

variable {c : Char} {text : Text}

theorem mem_trimStart_of_not_isBlank (solid : isBlank c = false) (member : c ∈ text) :
    c ∈ trimStart text := by
  rw [← List.takeWhile_append_dropWhile (p := isBlank) (l := text)] at member
  rcases List.mem_append.mp member with blank | kept
  · rw [List.mem_takeWhile_imp blank] at solid
    cases solid
  · exact kept

theorem mem_trimEnd_of_not_isBlank (solid : isBlank c = false) (member : c ∈ text) :
    c ∈ trimEnd text := by
  obtain ⟨spaces, split, blank⟩ := exists_append_blanks text
  rw [split] at member
  rcases List.mem_append.mp member with kept | gone
  · exact kept
  · rw [blank c gone] at solid
    cases solid

theorem mem_trim_of_not_isBlank (solid : isBlank c = false) (member : c ∈ text) : c ∈ trim text :=
  mem_trimEnd_of_not_isBlank solid (mem_trimStart_of_not_isBlank solid member)

/-- Trimming takes away no character that is not blank. -/
theorem count_trim (solid : isBlank c = false) (text : Text) :
    (trim text).count c = text.count c := by
  have absent : ∀ {spaces : Text}, (∀ d ∈ spaces, isBlank d) → spaces.count c = 0 := by
    intro spaces blank
    refine List.count_eq_zero.mpr fun member => ?_
    rw [blank c member] at solid
    cases solid
  obtain ⟨spaces, split, blank⟩ := exists_append_blanks (trimStart text)
  have front : (text.takeWhile isBlank).count c = 0 := absent fun d => List.mem_takeWhile_imp
  calc (trim text).count c
      = (trim text ++ spaces).count c := by rw [List.count_append, absent blank, Nat.add_zero]
    _ = (trimStart text).count c := by rw [trim, ← split]
    _ = (text.takeWhile isBlank ++ trimStart text).count c := by
      rw [List.count_append, front, Nat.zero_add]
    _ = text.count c := by rw [trimStart, List.takeWhile_append_dropWhile]

end Solid

/-! ## Lines -/

theorem newline_not_mem_of_mem_lines {text line : Text} (member : line ∈ lines text) :
    '\n' ∉ line := by
  fun_induction lines text generalizing line with
  | case1 => cases member
  | case2 text ih =>
    rcases List.mem_cons.mp member with rfl | later
    · exact List.not_mem_nil
    · exact ih later
  | case3 text ih =>
    rcases List.mem_cons.mp member with rfl | later
    · exact List.not_mem_nil
    · exact ih later
  | case4 c text other _ last _ =>
    obtain rfl := List.mem_singleton.mp member
    simpa using Ne.symm other
  | case5 c text other _ first rest split ih =>
    rcases List.mem_cons.mp member with rfl | later
    · have inFirst : '\n' ∉ first := ih (split ▸ List.mem_cons_self)
      simpa [Ne.symm other] using inFirst
    · exact ih (split ▸ List.mem_cons_of_mem _ later)

end Text

end Amalgamation

import Amalgamation.Proofs.Blocks.Faults
import Amalgamation.Proofs.Directive.Kinds
import Amalgamation.Source

/-!
# The lines that a filter supplies

A filter supplies lines of the file, and it adds two kinds of lines: comments that tell where a line
comes from, and definitions that switch a feature off (`Filter.Writes`). The file is in the tree
(`FileTree.mem_entries_of_read`).
-/

set_option autoImplicit false

namespace Amalgamation

/-- The line that defines a feature macro as off. -/
def Text.switchOff (name : Text) : Text := "#define ".toList ++ name ++ " 0".toList

/-! ## Lines that a filter writes -/

namespace Filter

/-- The lines that a filter writes for the lines of a file. -/
inductive Writes (filter : Filter) (file : Text) (lines : List Text) : Text → Prop
  /-- The place of a line. -/
  | origin (number : Nat) : Writes filter file lines (origin file number)
  /-- A line that is kept. It is no definition of a feature macro if the file is the toggle file. -/
  | kept {line : Text} (member : line ∈ lines)
      (plain : ∀ name value, Directive.classify filter.vocabulary line = .toggle name value →
        filter.isToggleFile file = false) : Writes filter file lines line
  /-- A definition in the toggle file. -/
  | switched {line name : Text} (member : line ∈ lines) (inToggleFile : filter.isToggleFile file)
      (toggles : Directive.classify filter.vocabulary line = .toggle name ['1']) :
      Writes filter file lines
        (if filter.enabled.contains name then line else Text.switchOff name)

variable {filter : Filter} {file : Text} {number : Nat} {line text : Text} {state : State}
  {lines following : List Text} {effect : Effect}

theorem Writes.mono {more : List Text} (sub : lines ⊆ more)
    (writes : filter.Writes file lines text) : filter.Writes file more text := by
  cases writes with
  | origin number => exact .origin number
  | kept member plain => exact .kept (sub member) plain
  | switched member inToggleFile toggles => exact .switched (sub member) inToggleFile toggles

theorem mem_keep (member : text ∈ (keep file number line state).1) :
    text = line ∨ text = origin file number := by
  unfold keep at member
  split at member
  · cases member
  · split at member
    · exact .inl (List.mem_singleton.mp member)
    · rcases List.mem_cons.mp member with rfl | member
      · exact .inr rfl
      · exact .inl (List.mem_singleton.mp member)

theorem toggled_eq_ok {name value : Text}
    (done : filter.toggled file number line name value = .ok text) :
    value = ['1'] ∧ text = if filter.enabled.contains name then line else Text.switchOff name := by
  unfold toggled at done
  split at done
  · cases done
  · next one =>
    refine ⟨not_not.mp one, ?_⟩
    split at done
    · next on =>
      rw [if_pos on]
      exact (Except.ok.inj done).symm
    · next off =>
      rw [if_neg off]
      exact (Except.ok.inj done).symm

theorem writes_stepPlain
    (done : filter.stepPlain file number (Directive.classify filter.vocabulary line) line state =
      .ok effect)
    (member : text ∈ effect.written) : filter.Writes file [line] text := by
  unfold stepPlain at done
  split at done
  · next name value toggles inToggleFile =>
    obtain ⟨written, wrote, same⟩ := bind_eq_ok.mp done
    obtain rfl := pure_eq_ok.mp same
    obtain rfl := List.mem_singleton.mp member
    obtain ⟨rfl, rfl⟩ := toggled_eq_ok wrote
    exact .switched List.mem_cons_self inToggleFile toggles
  · next plain =>
    split at done
    · obtain rfl := Except.ok.inj done
      rcases mem_keep member with rfl | rfl
      · refine .kept List.mem_cons_self fun name value toggles => ?_
        exact Bool.eq_false_iff.mpr (plain name value toggles)
      · exact .origin number
    · obtain rfl := Except.ok.inj done
      cases member

theorem writes_step (done : filter.step file number line following state = .ok effect)
    (member : text ∈ effect.written) : filter.Writes file [line] text := by
  unfold step at done
  dsimp only at done
  split at done
  · obtain ⟨next, -, same⟩ := bind_eq_ok.mp done
    obtain rfl := pure_eq_ok.mp same
    cases member
  · obtain ⟨next, -, same⟩ := bind_eq_ok.mp done
    obtain rfl := pure_eq_ok.mp same
    cases member
  · exact writes_stepPlain done member

/-- **A filter writes lines that it reads and lines that it adds.** -/
theorem writes_run {taken : Nat} {written : List Text}
    (done : filter.run file number taken state lines = .ok written) (member : text ∈ written) :
    filter.Writes file lines text := by
  induction lines generalizing number taken state written with
  | nil =>
    have nothing : written = [] := by
      cases block : state.block <;> cases taken <;> simp [run, block] at done <;> exact done
    subst nothing
    cases member
  | cons line following ih =>
    cases taken with
    | succ taken => exact (ih done member).mono (List.subset_cons_self _ _)
    | zero =>
      obtain ⟨effect, stepped, rest⟩ := bind_eq_ok.mp done
      obtain ⟨behind, filtered, same⟩ := bind_eq_ok.mp rest
      obtain rfl := pure_eq_ok.mp same
      rcases List.mem_append.mp member with here | later
      · exact (writes_step stepped here).mono (List.cons_subset_cons _ (List.nil_subset _))
      · exact (ih filtered later).mono (List.subset_cons_self _ _)

end Filter

/-! ## Files and their lines -/

/-- A file that can be read is listed in the tree. -/
theorem FileTree.mem_entries_of_read {tree : FileTree} {path : Path} {text : Text}
    (read : tree.read path = .ok text) :
    ∃ location, (location, FileNode.file (.text text)) ∈ tree.entries := by
  unfold FileTree.read at read
  cases located : tree.locate path with
  | error fault => simp [located] at read
  | ok location =>
    cases found : tree.nodeAt location with
    | none => simp [located, found] at read
    | some node =>
      cases node with
      | directory => simp [located, found] at read
      | file content =>
        cases content with
        | undecodable => simp [located, found] at read
        | text content =>
          obtain rfl : content = text := by simpa [located, found] using read
          cases location with
          | nil => cases found
          | cons name names =>
            obtain ⟨entry, listed, same⟩ := Option.map_eq_some_iff.mp found
            obtain ⟨location, node⟩ := entry
            obtain rfl : node = .file (.text content) := same
            exact ⟨location, List.mem_of_find?_eq_some listed⟩

end Amalgamation

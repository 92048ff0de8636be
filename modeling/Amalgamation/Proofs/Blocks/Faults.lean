import Amalgamation.Filter
import Amalgamation.Proofs.Results

/-!
# What stops a filter

A filter stops at a line for one of five reasons, and the error names the file and that line
(`Filter.Fault`). There is one more reason, which belongs to the end of the file: a feature block is
still open there (`Filter.run_eq_error`).
-/

set_option autoImplicit false

namespace Amalgamation

namespace Filter

/-- The errors at a line of a file. -/
inductive Fault (file : Text) (number : Nat) : Error → Prop
  | expression (cause : ParseError) : Fault file number (.expression file number cause)
  | nested (openedAt : Nat) : Fault file number (.nestedBlock file number openedAt)
  | orphan : Fault file number (.orphanEndif file number)
  | mismatch (openedAt : Nat) (expected found : Text) :
      Fault file number (.blockMismatch file number openedAt expected found)
  | toggle (line : Text) : Fault file number (.invalidToggle file number line)

variable {filter : Filter} {file : Text} {number : Nat} {state : State} {e : Error}

theorem fault_of_readCondition {text : Text}
    (failed : filter.readCondition file number text = .error e) : Fault file number e := by
  obtain ⟨cause, -, rfl⟩ := mapError_eq_error.mp failed
  exact .expression cause

theorem fault_of_openBlock {text : Text}
    (failed : filter.openBlock file number text state = .error e) : Fault file number e := by
  unfold openBlock at failed
  split at failed
  · obtain rfl := Except.error.inj failed
    exact .nested _
  · rcases bind_eq_error.mp failed with unread | ⟨_, _, absurd⟩
    · exact fault_of_readCondition unread
    · cases absurd

theorem fault_of_closeBlock {text : Text}
    (failed : filter.closeBlock file number text state = .error e) : Fault file number e := by
  unfold closeBlock at failed
  split at failed
  · obtain rfl := Except.error.inj failed
    exact .orphan
  · rcases bind_eq_error.mp failed with unread | ⟨found, _, differs⟩
    · exact fault_of_readCondition unread
    · split at differs
      · cases differs
      · obtain rfl := throw_eq_error.mp differs
        exact .mismatch _ _ _

theorem fault_of_stepPlain {directive : Directive} {line : Text}
    (failed : filter.stepPlain file number directive line state = .error e) :
    Fault file number e := by
  unfold stepPlain at failed
  split at failed
  · rcases bind_eq_error.mp failed with untoggled | ⟨_, _, absurd⟩
    · unfold toggled at untoggled
      split at untoggled
      · obtain rfl := Except.error.inj untoggled
        exact .toggle _
      · split at untoggled <;> cases untoggled
    · cases absurd
  · split at failed <;> cases failed

/-- A line that stops the filter is named by the error. -/
theorem fault_of_step {line : Text} {following : List Text}
    (failed : filter.step file number line following state = .error e) : Fault file number e := by
  unfold step at failed
  dsimp only at failed
  split at failed
  · rcases bind_eq_error.mp failed with unopened | ⟨_, _, absurd⟩
    · exact fault_of_openBlock unopened
    · cases absurd
  · rcases bind_eq_error.mp failed with unclosed | ⟨_, _, absurd⟩
    · exact fault_of_closeBlock unclosed
    · cases absurd
  · exact fault_of_stepPlain failed

/-- **What stops a filter**: a line, or the end of the file inside a feature block. -/
theorem run_eq_error {taken : Nat} {lines : List Text}
    (failed : filter.run file number taken state lines = .error e) :
    (∃ later, Fault file later e) ∨
      ∃ openedAt condition, e = .unclosedBlock file openedAt condition := by
  induction lines generalizing number taken state with
  | nil =>
    refine .inr ?_
    cases block : state.block with
    | none => cases taken <;> simp [run, block] at failed
    | some block' =>
      refine ⟨block'.openedAt, block'.condition.canonical, ?_⟩
      cases taken <;> simpa [run, block, eq_comm] using failed
  | cons line following ih =>
    cases taken with
    | succ taken => exact ih failed
    | zero =>
      rcases bind_eq_error.mp failed with stopped | ⟨effect, _, rest⟩
      · exact .inl ⟨number, fault_of_step stopped⟩
      · rcases bind_eq_error.mp rest with stopped | ⟨_, _, absurd⟩
        · exact ih stopped
        · cases absurd

end Filter

end Amalgamation

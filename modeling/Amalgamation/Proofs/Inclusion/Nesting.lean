import Amalgamation.Proofs.FileTree.Locations
import Amalgamation.Proofs.Inclusion.Agenda
import Mathlib.Data.List.Chain
import Mathlib.Data.List.Perm.Subperm
import Mathlib.Data.Nat.Digits.Lemmas

/-!
# How files are nested

While a run works on its agenda, the targets on the stack are those whose files are open, and the
agenda falls into one piece for each of them, the innermost first, each piece ending with the
closing of its file (`Inclusion.Suits`). An include on the agenda therefore stands on a line that
was supplied for the innermost open file, and each open file but the first was included by the one
around it (`Inclusion.Includes`). No target is on the stack twice, and those that are not exempt
have been seen (`Inclusion.Invariant`).

Whatever the source supplies, a target names a file only if the path to it can be followed, and a
path of too many bytes cannot. So the stack is a list of different short texts, and there are not as
many of these as the recursion may go deep (`Inclusion.Invariant.length_stack_lt`).
-/

set_option autoImplicit false

namespace Amalgamation

/-! ## Short texts -/

namespace Text

/-- A text as a number, of which its characters are the digits. -/
def number (text : Text) : Nat :=
  Nat.ofDigits (CharSet.lastCode + 2) (text.map fun c => c.toNat + 1)

theorem digit_lt (text : Text) :
    ∀ digit ∈ text.map fun c => c.toNat + 1, digit < CharSet.lastCode + 2 := by
  intro digit member
  obtain ⟨c, -, rfl⟩ := List.mem_map.mp member
  have bounded : c.toNat < CharSet.lastCode + 1 := by
    rcases c.valid with low | ⟨-, high⟩
    · exact Nat.lt_trans low (by decide)
    · exact high
  omega

/-- Different texts are different numbers, since no digit is zero. -/
theorem number_injective : Function.Injective number := by
  have digits (text : Text) :
      (CharSet.lastCode + 2).digits text.number = text.map fun c => c.toNat + 1 := by
    refine Nat.digits_ofDigits _ (by decide) _ text.digit_lt fun nonempty => ?_
    obtain ⟨c, -, last⟩ := List.mem_map.mp (List.getLast_mem nonempty)
    omega
  intro first second same
  have mapped := congrArg (CharSet.lastCode + 2).digits same
  rw [digits, digits] at mapped
  refine List.map_injective_iff.mpr (fun c d equal => ?_) mapped
  exact Char.toNat_inj.mp (Nat.succ.inj equal)

theorem number_lt (text : Text) : text.number < (CharSet.lastCode + 2) ^ text.length := by
  have bound := Nat.ofDigits_lt_base_pow_length (by decide) text.digit_lt
  rwa [List.length_map] at bound

/-- There are not very many short texts. -/
theorem length_lt_shortTextBound {texts : List Text} {limit : Nat} (distinct : texts.Nodup)
    (short : ∀ text ∈ texts, text.length < limit) :
    texts.length < Inclusion.shortTextBound limit := by
  rw [Inclusion.shortTextBound, Nat.pow_eq]
  cases limit with
  | zero =>
    have none : texts = [] :=
      List.eq_nil_iff_forall_not_mem.mpr fun text member => Nat.not_lt_zero _ (short text member)
    rw [none]
    exact Nat.zero_lt_one
  | succ limit =>
    have numbered : texts.map number ⊆ List.range ((CharSet.lastCode + 2) ^ limit) := by
      refine List.forall_mem_map.mpr fun text member => List.mem_range.mpr ?_
      refine Nat.lt_of_lt_of_le text.number_lt (Nat.pow_le_pow_right (by decide) ?_)
      exact Nat.le_of_lt_succ (short text member)
    have few := ((distinct.map number_injective).subperm numbered).length_le
    rw [List.length_map, List.length_range] at few
    exact Nat.lt_of_le_of_lt few (Nat.pow_lt_pow_right (by decide) (Nat.lt_succ_self limit))

end Text

namespace Inclusion

/-! ## Includes among files -/

/-- A line supplied for the file of one target includes the other target. -/
def Includes (inclusion : Inclusion) (outer inner : Text) : Prop :=
  ∃ path lines line target, inclusion.resolve outer = some path ∧
    inclusion.source.lines inclusion.tree path (inclusion.shownAs path) = .ok lines ∧
    line ∈ lines ∧ Directive.classify inclusion.vocabulary line = .inclusion target ∧
    normalize target = inner

variable {inclusion : Inclusion}

/-- A file that is found lies below a root, and it is read where its path leads. -/
theorem resolve_eq_some {target : Text} {path : Path}
    (resolved : inclusion.resolve target = some path) :
    (∃ root ∈ inclusion.roots, path = root.join ⟨target⟩) ∧
      inclusion.tree.locate path = .ok (inclusion.tree.lexicalLocation path) := by
  have file := List.find?_some resolved
  refine ⟨?_, ?_⟩
  · obtain ⟨root, listed, same⟩ := List.mem_map.mp (List.mem_of_find?_eq_some resolved)
    exact ⟨root, listed, same.symm⟩
  · unfold FileTree.isFile FileTree.node at file
    cases located : inclusion.tree.locate path with
    | error fault =>
      rw [located] at file
      cases file
    | ok location => rw [FileTree.lexicalLocation_eq located]

/-- A target that names a file is short. -/
theorem length_lt_of_resolve {target : Text} (resolved : (inclusion.resolve target).isSome) :
    target.length < FileTree.pathLimit := by
  obtain ⟨path, found⟩ := Option.isSome_iff_exists.mp resolved
  obtain ⟨⟨root, -, rfl⟩, located⟩ := resolve_eq_some found
  refine Nat.lt_of_le_of_lt ?_ (FileTree.length_lt_of_locate located)
  -- The target is the end of the path, or the path itself.
  unfold Path.join
  split
  · exact Nat.le_refl _
  · split
    · simp
    · simp only [List.length_append, List.length_cons]
      omega

/-! ## The agenda of nested files -/

/-- A task is that of a line that was supplied for the file of a target. -/
def Supplied (inclusion : Inclusion) (outer : Text) (task : Task) : Prop :=
  ∃ path lines line, inclusion.resolve outer = some path ∧
    inclusion.source.lines inclusion.tree path (inclusion.shownAs path) = .ok lines ∧
    line ∈ lines ∧ task = inclusion.taskOf (outer = inclusion.implementationEntry) line

namespace Supplied

variable {outer target line file : Text} {directive : Directive}

/-- An include stands on the line that it was read off. -/
theorem call {given : Option Text} (supplied : inclusion.Supplied outer (.call target given)) :
    (∃ line, given = some line ∧
        Directive.classify inclusion.vocabulary line = .inclusion target) ∧
      inclusion.Includes outer (normalize target) := by
  obtain ⟨path, lines, line, resolved, read, member, same⟩ := supplied
  rcases taskOf_cases inclusion (outer = inclusion.implementationEntry) line with
    ⟨other, classified, task⟩ | ⟨-, -, task⟩ | ⟨-, task⟩
  · rw [task] at same
    obtain ⟨rfl, rfl⟩ := Task.call.inj same
    exact ⟨⟨line, rfl, classified⟩, path, lines, line, target, resolved, read, member, classified,
      rfl⟩
  · rw [task] at same
    cases same
  · rw [task] at same
    cases same

/-- A line is kept only in the implementation entry. -/
theorem keep (supplied : inclusion.Supplied outer (.keep line)) :
    outer = inclusion.implementationEntry ∧
      Directive.classify inclusion.vocabulary line = .inclusion inclusion.headerEntry := by
  obtain ⟨path, lines, given, -, -, -, same⟩ := supplied
  rcases taskOf_cases inclusion (outer = inclusion.implementationEntry) given with
    ⟨other, -, task⟩ | ⟨keeps, classified, task⟩ | ⟨-, task⟩
  · rw [task] at same
    cases same
  · rw [task] at same
    obtain rfl := Task.keep.inj same
    exact ⟨of_decide_eq_true keeps, classified⟩
  · rw [task] at same
    cases same

/-- A line of code includes nothing. -/
theorem code (supplied : inclusion.Supplied outer (.code directive line)) :
    Directive.classify inclusion.vocabulary line = directive ∧
      ∀ target, directive ≠ .inclusion target := by
  obtain ⟨path, lines, given, -, -, -, same⟩ := supplied
  rcases taskOf_cases inclusion (outer = inclusion.implementationEntry) given with
    ⟨other, -, task⟩ | ⟨-, -, task⟩ | ⟨other, task⟩
  · rw [task] at same
    cases same
  · rw [task] at same
    cases same
  · rw [task] at same
    obtain ⟨rfl, rfl⟩ := Task.code.inj same
    exact ⟨rfl, other⟩

/-- No line closes a file. -/
theorem ne_close {task : Task} (supplied : inclusion.Supplied outer task) (file : Text) :
    task ≠ .close file := by
  obtain ⟨path, lines, given, -, -, -, rfl⟩ := supplied
  rcases taskOf_cases inclusion (outer = inclusion.implementationEntry) given with
    ⟨_, -, task⟩ | ⟨-, -, task⟩ | ⟨-, task⟩
  · rw [task]
    exact nofun
  · rw [task]
    exact nofun
  · rw [task]
    exact nofun

end Supplied

/-- An agenda suits a stack if it has a piece for each target on it, the innermost first, with the
tasks of lines supplied for the file of the target and at their end the closing of the file. Outside
of all files there are entries. -/
inductive Suits (inclusion : Inclusion) : List Task → List Text → Prop
  | base {agenda : List Task} (entries : ∀ task ∈ agenda, ∃ entry, task = .call entry none) :
      Suits inclusion agenda []
  | task {task : Task} {agenda : List Task} {target : Text} {stack : List Text}
      (supplied : inclusion.Supplied target task)
      (rest : Suits inclusion agenda (target :: stack)) :
      Suits inclusion (task :: agenda) (target :: stack)
  | close {path : Path} {agenda : List Task} {target : Text} {stack : List Text}
      (resolved : inclusion.resolve target = some path) (rest : Suits inclusion agenda stack) :
      Suits inclusion (.close (inclusion.shownAs path) :: agenda) (target :: stack)

namespace Suits

variable {agenda : List Task} {stack : List Text} {task : Task}

/-- What is left after a task that closes no file. -/
theorem tail (suits : inclusion.Suits (task :: agenda) stack) (stays : ∀ file, task ≠ .close file) :
    inclusion.Suits agenda stack := by
  cases suits with
  | base entries => exact .base fun other member => entries other (List.mem_cons_of_mem _ member)
  | task _ rest => exact rest
  | close _ _ => exact absurd rfl (stays _)

/-- What is left after the innermost file is closed. -/
theorem close_tail {file : Text} (suits : inclusion.Suits (.close file :: agenda) stack) :
    ∃ target path rest, stack = target :: rest ∧ inclusion.resolve target = some path ∧
      file = inclusion.shownAs path ∧ inclusion.Suits agenda rest := by
  cases suits with
  | base entries =>
    obtain ⟨_, absurd⟩ := entries _ List.mem_cons_self
    cases absurd
  | task supplied _ => exact absurd rfl (supplied.ne_close file)
  | close resolved rest => exact ⟨_, _, _, rfl, resolved, rfl, rest⟩

/-- An include stands on a line supplied for the innermost open file. -/
theorem includes {target : Text} {line : Option Text} {outer : Text}
    (suits : inclusion.Suits (.call target line :: agenda) (outer :: stack)) :
    inclusion.Includes outer (normalize target) := by
  cases suits with
  | task supplied _ => exact supplied.call.2

/-- The tasks of lines supplied for the innermost open file suit the stack. -/
theorem append_lines {path : Path} {target : Text} {lines part : List Text}
    (resolved : inclusion.resolve target = some path)
    (supplied : inclusion.source.lines inclusion.tree path (inclusion.shownAs path) = .ok lines)
    (within : ∀ line ∈ part, line ∈ lines) (suits : inclusion.Suits agenda (target :: stack)) :
    inclusion.Suits (part.map (inclusion.taskOf (target = inclusion.implementationEntry)) ++ agenda)
      (target :: stack) := by
  induction part with
  | nil => exact suits
  | cons line part ih =>
    obtain ⟨here, behind⟩ := List.forall_mem_cons.mp within
    exact .task ⟨path, lines, line, resolved, supplied, here, rfl⟩ (ih behind)

end Suits

/-! ## The invariant of a run -/

/-- What holds of the agenda and the pass at every point of a run. -/
structure Invariant (inclusion : Inclusion) (agenda : List Task) (pass : Pass) : Prop where
  resolved : ∀ target ∈ pass.stack, (inclusion.resolve target).isSome
  seen : ∀ target ∈ pass.stack, inclusion.exemptions.covers target = false → target ∈ pass.seen
  nodup : pass.stack.Nodup
  nested : pass.stack.IsChain fun inner outer => inclusion.Includes outer inner
  suits : inclusion.Suits agenda pass.stack

theorem mem_seen_note {target other : Text} {pass : Pass} :
    other ∈ (inclusion.note target pass).seen ↔
      other ∈ pass.seen ∨ (other = target ∧ inclusion.exemptions.covers target = false) := by
  unfold note Pass.see
  cases inclusion.exemptions.covers target with
  | true => simp
  | false =>
    by_cases seen : target ∈ pass.seen
    · simp only [seen, if_true, Bool.false_eq_true, if_false, and_true]
      refine ⟨.inl, ?_⟩
      rintro (here | rfl)
      · exact here
      · exact seen
    · simp [seen]

namespace Invariant

variable {agenda : List Task} {pass after : Pass} {task : Task} {effect : Effect}

theorem start (entry : Text) (published : List Text) :
    inclusion.Invariant [.call entry none] (.start published) where
  resolved := fun _ member => nomatch member
  seen := fun _ member => nomatch member
  nodup := List.nodup_nil
  nested := .nil
  suits := .base fun _ member => ⟨entry, List.mem_singleton.mp member⟩

/-- The stack with the target of an include that is next. -/
theorem nested_call {target : Text} {line : Option Text}
    (invariant : inclusion.Invariant (.call target line :: agenda) pass) :
    (normalize target :: pass.stack).IsChain fun inner outer => inclusion.Includes outer inner := by
  have suits := invariant.suits
  have nested := invariant.nested
  cases stack : pass.stack with
  | nil => exact .singleton _
  | cons outer stack' =>
    rw [stack] at suits nested
    exact .cons_cons suits.includes nested

/-- **Every step keeps the invariant.** -/
theorem step (invariant : inclusion.Invariant (task :: agenda) pass)
    (done : inclusion.perform task pass = (.ok effect, after)) :
    inclusion.Invariant (effect.tasks ++ agenda) after := by
  cases task with
  | call target line =>
    have rest := invariant.suits.tail nofun
    have nested := invariant.nested_call
    rcases call_eq_ok done with ⟨-, rfl, rfl⟩ | ⟨path, -, -, -, rfl, rfl⟩ |
      ⟨path, lines, resolved, -, fresh, supplied, rfl, rfl⟩
    · exact ⟨invariant.resolved, invariant.seen, invariant.nodup, invariant.nested, rest⟩
    · exact ⟨invariant.resolved, invariant.seen, invariant.nodup, invariant.nested, rest⟩
    · have stack : ((inclusion.note (normalize target) pass).enter (normalize target)
          (inclusion.shownAs path)).stack = normalize target :: pass.stack := by
        simp [Pass.enter]
      refine ⟨?_, ?_, ?_, ?_, ?_⟩
      · rw [stack]
        rintro other member
        rcases List.mem_cons.mp member with rfl | member
        · rw [resolved]
          rfl
        · exact invariant.resolved other member
      · rw [stack]
        intro other member plain
        show other ∈ (inclusion.note (normalize target) pass).seen
        rw [mem_seen_note]
        rcases List.mem_cons.mp member with rfl | member
        · exact .inr ⟨rfl, plain⟩
        · exact .inl (invariant.seen other member plain)
      · rw [stack]
        exact List.nodup_cons.mpr ⟨fresh, invariant.nodup⟩
      · rw [stack]
        exact nested
      · rw [stack]
        simp only [List.append_assoc, List.singleton_append]
        exact .append_lines resolved supplied (fun _ member => member) (.close resolved rest)
  | keep line =>
    cases done
    exact ⟨invariant.resolved, invariant.seen, invariant.nodup, invariant.nested,
      invariant.suits.tail nofun⟩
  | code directive line =>
    cases done
    exact ⟨invariant.resolved, invariant.seen, invariant.nodup, invariant.nested,
      invariant.suits.tail nofun⟩
  | close file =>
    cases done
    obtain ⟨target, path, stack, same, -, -, rest⟩ := invariant.suits.close_tail
    have left : (pass.leave file).stack = stack := by
      show pass.stack.tail = stack
      rw [same]
      rfl
    have inner : ∀ other ∈ stack, other ∈ pass.stack := by
      rw [same]
      exact fun _ member => List.mem_cons_of_mem _ member
    refine ⟨?_, ?_, ?_, ?_, ?_⟩ <;> rw [left]
    · exact fun other member => invariant.resolved other (inner other member)
    · exact fun other member plain => invariant.seen other (inner other member) plain
    · exact (same ▸ invariant.nodup).tail
    · exact (same ▸ invariant.nested).tail
    · exact rest

/-- **Every run keeps the invariant.** -/
theorem run {left : List Task} {last : Pass} {steps : List Step}
    (invariant : inclusion.Invariant agenda pass)
    (run : inclusion.Runs agenda pass steps left last) :
    inclusion.Invariant left last := by
  induction run with
  | refl _ _ => exact invariant
  | step done _ ih => exact ih (invariant.step done)

/-- **Never are as many files open as the recursion may go deep.** -/
theorem length_stack_lt (invariant : inclusion.Invariant agenda pass) :
    pass.stack.length < nestingBound :=
  Text.length_lt_shortTextBound invariant.nodup fun target opened =>
    length_lt_of_resolve (invariant.resolved target opened)

end Invariant

end Inclusion

end Amalgamation

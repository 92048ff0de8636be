import Amalgamation.Pattern.Parse
import Amalgamation.Proofs.Pattern.Spans

/-!
# Reading a pattern text step by step

With one character of a pattern text the reader ends at most one token (`Pattern.Reader.Yields`). An
opening parenthesis makes the groups that are open one more, a closing one makes them one less, and
every other token leaves them as they are. The draft that follows the tokens does the same, so the
two agree on how many groups are open (`Pattern.aligned_of_yields`).

No quantifier asks for more rounds than it allows. So no pattern that is read does
(`Pattern.Reads.ordered`).
-/

set_option autoImplicit false

namespace Amalgamation.Pattern

/-- A token that neither opens nor closes a group. -/
def Token.IsItem : Token → Prop
  | .opening _ => False
  | .closing => False
  | _ => True

/-- A quantifier allows as many rounds as it requires. -/
def Token.Ordered : Token → Prop
  | .quantifier least most _ => ∀ bound, most = some bound → least ≤ bound
  | _ => True

/-! ## The reader -/

namespace Reader

/-- What the reader can become by a step, with the tokens that the step ends. -/
inductive Yields (reader : Reader) : Reader × List Token → Prop where
  | passes {after : Reader} (same : after.outer = reader.outer) : Yields reader (after, [])
  | item {after : Reader} {token : Token} (item : token.IsItem) (ordered : token.Ordered)
      (same : after.outer = reader.outer) : Yields reader (after, [token])
  | opens {after : Reader} {kind : GroupKind}
      (deeper : after.outer = reader.flags :: reader.outer) :
      Yields reader (after, [.opening kind])
  | closes : Yields reader reader.closeGroup

variable {reader : Reader} {c : Char} {next : Text} {read : Reader × List Token}

theorem bounds?_ordered {first most : Option Nat} {number : NumberRead} {n : Nat}
    (bounded : bounds? first number = some (n, most)) :
    ∀ bound, most = some bound → n ≤ bound := by
  unfold bounds? at bounded
  split at bounded
  · obtain ⟨_, -, same⟩ := Option.map_eq_some_iff.mp bounded
    cases same
    rintro _ ⟨⟩
    exact Nat.le_refl n
  · cases bounded
    nofun
  · obtain ⟨_, -, checked⟩ := Option.bind_eq_some_iff.mp bounded
    split at checked
    · next enough =>
      cases checked
      rintro _ ⟨⟩
      exact enough
    · cases checked

theorem yields_quantify {least : Nat} {most : Option Nat}
    (ordered : ∀ bound, most = some bound → least ≤ bound) :
    reader.Yields (reader.quantify least most next) :=
  .item trivial ordered rfl

theorem yields_stepCount {least : Option Nat} {number : NumberRead}
    (stepped : reader.stepCount least number c next = some read) : reader.Yields read := by
  unfold stepCount at stepped
  split at stepped
  · obtain ⟨_, -, rfl⟩ := Option.map_eq_some_iff.mp stepped
    exact .passes rfl
  · split at stepped
    · cases stepped
      exact .passes rfl
    · split at stepped
      · obtain ⟨_, -, rfl⟩ := Option.map_eq_some_iff.mp stepped
        exact .passes rfl
      · split at stepped
        · obtain ⟨_, bounded, rfl⟩ := Option.map_eq_some_iff.mp stepped
          exact yields_quantify (bounds?_ordered bounded)
        · cases stepped

theorem yields_stepName {name : Text} (stepped : reader.stepName name c = some read) :
    reader.Yields read := by
  unfold stepName at stepped
  split at stepped
  · split at stepped
    · cases stepped
    · cases stepped
      exact .opens rfl
  · split at stepped
    · cases stepped
      exact .passes rfl
    · cases stepped

theorem yields_stepFlags {flags : FlagsRead} (stepped : reader.stepFlags flags c = some read) :
    reader.Yields read := by
  unfold stepFlags at stepped
  split at stepped
  · split at stepped
    · cases stepped
    · cases stepped
      exact .opens rfl
  · split at stepped
    · cases stepped
    · cases stepped
      exact .item trivial trivial rfl
  · split at stepped
    · cases stepped
    · cases stepped
      exact .passes rfl
  · split at stepped
    · cases stepped
    · obtain ⟨_, -, rfl⟩ := Option.map_eq_some_iff.mp stepped
      exact .passes rfl

theorem yields_stepKind (stepped : reader.stepKind c next = some read) : reader.Yields read := by
  unfold stepKind at stepped
  split at stepped
  · split at stepped
    · cases stepped
      exact .passes rfl
    · cases stepped
  · cases stepped
    exact .passes rfl
  · exact yields_stepFlags stepped

theorem yields_stepEscape (stepped : reader.stepEscape c next = some read) :
    reader.Yields read := by
  unfold stepEscape at stepped
  dsimp only at stepped
  split at stepped
  all_goals cases stepped
  all_goals exact .item trivial trivial rfl

theorem yields_stepPlain (stepped : reader.stepPlain c next = some read) :
    reader.Yields read := by
  unfold stepPlain at stepped
  dsimp only at stepped
  split at stepped
  case h_3 =>
    -- An opening parenthesis: what comes next says whether the group is open yet.
    split at stepped <;> cases stepped
    · exact .passes rfl
    · exact .opens rfl
  case h_4 =>
    cases stepped
    exact .closes
  -- The quantifiers `*`, `+` and `?`.
  case h_6 =>
    cases stepped
    exact yields_quantify nofun
  case h_7 =>
    cases stepped
    exact yields_quantify nofun
  case h_8 =>
    cases stepped
    exact yields_quantify (by decide)
  case h_10 =>
    -- A dot.
    obtain ⟨_, -, rfl⟩ := Option.map_eq_some_iff.mp stepped
    exact .item trivial trivial rfl
  all_goals cases stepped
  all_goals first | exact .passes rfl | exact .item trivial trivial rfl

/-- **What a step does.** -/
theorem yields_step (stepped : reader.step c next = some read) : reader.Yields read := by
  unfold step at stepped
  split at stepped
  · cases stepped
    exact .passes rfl
  · split at stepped
    · cases stepped
      exact .passes rfl
    · unfold stepMode at stepped
      split at stepped
      case h_1 => exact yields_stepPlain stepped
      case h_3 => exact yields_stepEscape stepped
      case h_5 => exact yields_stepKind stepped
      case h_7 => exact yields_stepName stepped
      case h_8 => exact yields_stepFlags stepped
      case h_9 => exact yields_stepCount stepped
      case h_10 =>
        split at stepped <;> cases stepped
        · exact .passes rfl
        · exact .item trivial trivial rfl
      case h_12 =>
        split at stepped <;> cases stepped
        all_goals exact .passes rfl
      all_goals cases stepped
      all_goals exact .passes rfl

theorem Yields.ordered {token : Token} (yields : reader.Yields read) (member : token ∈ read.2) :
    token.Ordered := by
  cases yields with
  | passes => cases member
  | item _ ordered =>
    obtain rfl := List.mem_singleton.mp member
    exact ordered
  | opens =>
    obtain rfl := List.mem_singleton.mp member
    trivial
  | closes =>
    obtain rfl := List.mem_singleton.mp member
    trivial

end Reader

/-! ## The draft -/

namespace Draft

variable {read after : Draft} {token : Token}

/-- A quantifier repeats the last item, which there must be. -/
theorem quantify_eq_some_iff {least : Nat} {most : Option Nat} {greedy : Bool} :
    read.quantify least most greedy = some after ↔
      ∃ item items, read.group.items = item :: items ∧ item.isRepeatable ∧
        after = { read with
          group := { read.group with items := item.repeated least most greedy :: items } } := by
  unfold quantify
  cases read.group.items with
  | nil => simp
  | cons item items =>
    dsimp only
    split
    · next repeatable =>
      constructor
      · intro repeated
        cases repeated
        exact ⟨item, items, rfl, repeatable, rfl⟩
      · rintro ⟨_, _, same, -, rfl⟩
        cases same
        rfl
    · next single =>
      refine iff_of_false nofun ?_
      rintro ⟨_, _, same, repeatable, -⟩
      cases same
      exact single repeatable

theorem run_append (read : Draft) (tokens rest : List Token) :
    read.run (tokens ++ rest) = (tokens.foldlM step read).bind fun after => after.run rest := by
  induction tokens generalizing read with
  | nil => rfl
  | cons token tokens ih =>
    rw [List.cons_append, run, List.foldlM_cons]
    cases read.step token with
    | none => rfl
    | some next => exact ih next

theorem foldlM_singleton (read : Draft) (token : Token) :
    [token].foldlM step read = read.step token := by
  simp

theorem outer_of_item (item : token.IsItem) (stepped : read.step token = some after) :
    after.outer = read.outer := by
  cases token with
  | opening kind => exact item.elim
  | closing => exact item.elim
  | quantifier least most greedy =>
    obtain ⟨_, _, -, -, rfl⟩ := quantify_eq_some_iff.mp stepped
    rfl
  | _ =>
    cases stepped
    rfl

theorem outer_of_opening {kind : GroupKind} (stepped : read.step (.opening kind) = some after) :
    after.outer = read.group :: read.outer := by
  cases kind with
  | plain =>
    cases stepped
    rfl
  | noted name =>
    dsimp only [step, openGroup] at stepped
    split at stepped <;> cases stepped
    rfl

theorem outer_of_closing (stepped : read.step .closing = some after) :
    ∃ group, read.outer = group :: after.outer := by
  dsimp only [step, closeGroup] at stepped
  split at stepped
  · cases stepped
  · next group outer deep =>
    cases stepped
    exact ⟨group, deep⟩

end Draft

/-! ## Both together -/

/-- The part that a text spells from some states on. -/
def readFrom (reader : Reader) (read : Draft) (text : Text) : Option Part :=
  (reader.run text).bind read.run

variable {reader next : Reader} {read after : Draft} {c : Char} {text : Text} {tokens : List Token}
  {part whole : Part}

theorem readFrom_cons (stepped : reader.step c text = some (next, tokens)) :
    readFrom reader read (c :: text) =
      (tokens.foldlM Draft.step read).bind fun after => readFrom next after text := by
  unfold readFrom
  rw [Reader.run, stepped]
  dsimp only
  cases next.run text with
  | none => cases tokens.foldlM Draft.step read <;> rfl
  | some rest => exact Draft.run_append read tokens rest

theorem readFrom_nil_eq_some_iff :
    readFrom reader read [] = some part ↔
      reader.mode.isComplete ∧ read.outer = [] ∧ read.group.content = part := by
  unfold readFrom Reader.run
  split
  · next complete => simp [Draft.run, complete]
  · next incomplete => simp [incomplete]

/-- The reader and the draft agree on how many groups are open, and step by step they go on to. -/
theorem aligned_of_yields (yields : reader.Yields (next, tokens))
    (stepped : tokens.foldlM Draft.step read = some after)
    (aligned : reader.outer.length = read.outer.length) :
    next.outer.length = after.outer.length := by
  cases yields with
  | passes same =>
    cases stepped
    rw [same, aligned]
  | item item _ same =>
    rw [Draft.foldlM_singleton] at stepped
    rw [same, Draft.outer_of_item item stepped, aligned]
  | opens deeper =>
    rw [Draft.foldlM_singleton] at stepped
    rw [deeper, Draft.outer_of_opening stepped, List.length_cons, List.length_cons, aligned]
  | closes =>
    rw [Draft.foldlM_singleton] at stepped
    obtain ⟨group, deep⟩ := Draft.outer_of_closing stepped
    rw [deep, List.length_cons] at aligned
    rw [List.length_tail, aligned, Nat.add_sub_cancel]

theorem readFrom_cons_eq_some (spelled : readFrom reader read (c :: text) = some part) :
    ∃ next tokens after, reader.step c text = some (next, tokens) ∧
      tokens.foldlM Draft.step read = some after ∧ readFrom next after text = some part := by
  cases stepped : reader.step c text with
  | none =>
    rw [readFrom, Reader.run, stepped] at spelled
    cases spelled
  | some read =>
    obtain ⟨next, tokens⟩ := read
    rw [readFrom_cons stepped] at spelled
    obtain ⟨after, followed, spelled⟩ := Option.bind_eq_some_iff.mp spelled
    exact ⟨next, tokens, after, rfl, followed, spelled⟩

/-! ## Ordered patterns -/

/-- Some parts joined are ordered if each of them is. -/
theorem Part.ordered_joined {join : Pattern → Pattern → Pattern} {form : List Form → Form}
    {parts : List Part}
    (joins : ∀ first second : Pattern, first.Ordered → second.Ordered → (join first second).Ordered)
    (ordered : ∀ part ∈ parts, part.pattern.Ordered) :
    (Part.joined join form parts).pattern.Ordered := by
  match parts with
  | [] => trivial
  | [part] => exact ordered part (List.mem_singleton_self part)
  | last :: part :: parts =>
    have folded : ∀ (parts : List Part) (pattern : Pattern), pattern.Ordered →
        (∀ part ∈ parts, part.pattern.Ordered) →
        (parts.foldl (fun pattern part => join part.pattern pattern) pattern).Ordered := by
      intro parts
      induction parts with
      | nil => exact fun _ behind _ => behind
      | cons part parts ih =>
        intro pattern behind ordered
        obtain ⟨here, front⟩ := List.forall_mem_cons.mp ordered
        exact ih _ (joins _ _ here behind) front
    obtain ⟨behind, front⟩ := List.forall_mem_cons.mp ordered
    exact folded _ _ behind front

/-- The parts that were read of a group are ordered. -/
structure OpenGroup.Ordered (group : OpenGroup) : Prop where
  items : ∀ part ∈ group.items, part.pattern.Ordered
  alternatives : ∀ part ∈ group.alternatives, part.pattern.Ordered

namespace OpenGroup

variable {group : OpenGroup} {item : Part}

theorem Ordered.push (ordered : group.Ordered) (item_ordered : item.pattern.Ordered) :
    (group.push item).Ordered :=
  ⟨List.forall_mem_cons.mpr ⟨item_ordered, ordered.items⟩, ordered.alternatives⟩

theorem Ordered.ended (ordered : group.Ordered) :
    ∀ part ∈ group.ended, part.pattern.Ordered :=
  List.forall_mem_cons.mpr
    ⟨Part.ordered_joined (fun _ _ => And.intro) ordered.items, ordered.alternatives⟩

theorem Ordered.content (ordered : group.Ordered) : group.content.pattern.Ordered :=
  Part.ordered_joined (fun _ _ => And.intro) ordered.ended

end OpenGroup

/-- Parentheses do not change the pattern. -/
theorem Part.pattern_grouped (part : Part) (number : Option Nat) :
    (part.grouped number).pattern = part.pattern := by
  cases number <;> rfl

/-- The groups that are open are ordered. -/
def Draft.Ordered (read : Draft) : Prop := ∀ group ∈ read.group :: read.outer, group.Ordered

theorem Draft.Ordered.step {token : Token} (ordered : read.Ordered) (bounded : token.Ordered)
    (stepped : read.step token = some after) : after.Ordered := by
  obtain ⟨inner, outer⟩ := List.forall_mem_cons.mp ordered
  cases token with
  | one set depth =>
    cases stepped
    exact List.forall_mem_cons.mpr ⟨inner.push trivial, outer⟩
  | here anchor =>
    cases stepped
    exact List.forall_mem_cons.mpr ⟨inner.push trivial, outer⟩
  | directive =>
    cases stepped
    exact List.forall_mem_cons.mpr ⟨inner.push trivial, outer⟩
  | opening kind =>
    have opened : ∀ number, (OpenGroup.start number).Ordered := fun _ => ⟨nofun, nofun⟩
    cases kind with
    | plain =>
      cases stepped
      exact List.forall_mem_cons.mpr ⟨opened none, ordered⟩
    | noted name =>
      dsimp only [Draft.step, openGroup] at stepped
      split at stepped <;> cases stepped
      exact List.forall_mem_cons.mpr ⟨opened _, ordered⟩
  | closing =>
    dsimp only [Draft.step, closeGroup] at stepped
    split at stepped
    · cases stepped
    · next group others deep =>
      cases stepped
      rw [deep] at outer
      obtain ⟨around, outer⟩ := List.forall_mem_cons.mp outer
      refine List.forall_mem_cons.mpr ⟨around.push ?_, outer⟩
      rw [OpenGroup.close, Part.pattern_grouped]
      exact inner.content
  | bar =>
    cases stepped
    exact List.forall_mem_cons.mpr ⟨⟨nofun, inner.ended⟩, outer⟩
  | quantifier least most greedy =>
    obtain ⟨item, items, last, -, rfl⟩ := quantify_eq_some_iff.mp stepped
    have parts := inner.items
    rw [last] at parts
    obtain ⟨here, others⟩ := List.forall_mem_cons.mp parts
    refine List.forall_mem_cons.mpr ⟨⟨?_, inner.alternatives⟩, outer⟩
    exact List.forall_mem_cons.mpr ⟨⟨here, bounded⟩, others⟩

theorem Draft.Ordered.foldlM_step (ordered : read.Ordered)
    (bounded : ∀ token ∈ tokens, token.Ordered)
    (followed : tokens.foldlM Draft.step read = some after) : after.Ordered := by
  induction tokens generalizing read with
  | nil =>
    cases followed
    exact ordered
  | cons token tokens ih =>
    obtain ⟨here, others⟩ := List.forall_mem_cons.mp bounded
    rw [List.foldlM_cons] at followed
    obtain ⟨next, stepped, rest⟩ := Option.bind_eq_some_iff.mp followed
    exact ih (ordered.step here stepped) others rest

theorem ordered_of_readFrom (ordered : read.Ordered)
    (spelled : readFrom reader read text = some part) : part.pattern.Ordered := by
  induction text generalizing reader read with
  | nil =>
    obtain ⟨-, -, rfl⟩ := readFrom_nil_eq_some_iff.mp spelled
    exact (ordered _ List.mem_cons_self).content
  | cons c text ih =>
    obtain ⟨next, tokens, after, stepped, followed, spelled⟩ := readFrom_cons_eq_some spelled
    have bounded : ∀ token ∈ tokens, token.Ordered :=
      fun _ member => (Reader.yields_step stepped).ordered member
    exact ih (ordered.foldlM_step bounded followed) spelled

/-- A text spells a pattern, which may be as large and as deep as one likes. -/
def Reads (text : Text) (pattern : Pattern) : Prop :=
  ∃ part, readFrom .start .start text = some part ∧ part.pattern = pattern

theorem reads_of_parse {pattern : Pattern} (parsed : parse text = some pattern) :
    Reads text pattern := by
  unfold parse at parsed
  split at parsed
  · next part spelled =>
    split at parsed
    · exact ⟨part, spelled, Option.some.inj parsed⟩
    · cases parsed
  · cases parsed

/-- **The pattern of a text is ordered.** -/
theorem Reads.ordered {pattern : Pattern} (reads : Reads text pattern) : pattern.Ordered := by
  obtain ⟨part, spelled, rfl⟩ := reads
  refine ordered_of_readFrom ?_ spelled
  exact List.forall_mem_cons.mpr ⟨⟨nofun, nofun⟩, nofun⟩

end Amalgamation.Pattern

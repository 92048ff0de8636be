/-!
# Computations that can fail

When a computation built from others succeeds and when it fails. With these equivalences `simp`
takes the success or the failure of a sequence apart into that of its steps.
-/

set_option autoImplicit false

namespace Amalgamation

variable {ε ε' α β : Type} {computation : Except ε α}

@[simp] theorem bind_eq_ok {next : α → Except ε β} {result : β} :
    (computation >>= next) = .ok result ↔ ∃ a, computation = .ok a ∧ next a = .ok result := by
  cases computation <;> simp [bind, Except.bind]

@[simp] theorem bind_eq_error {next : α → Except ε β} {e : ε} :
    (computation >>= next) = .error e ↔
      computation = .error e ∨ ∃ a, computation = .ok a ∧ next a = .error e := by
  cases computation <;> simp [bind, Except.bind]

@[simp] theorem map_eq_ok {f : α → β} {result : β} :
    computation.map f = .ok result ↔ ∃ a, computation = .ok a ∧ f a = result := by
  cases computation <;> simp [Except.map]

@[simp] theorem map_eq_error {f : α → β} {e : ε} :
    computation.map f = .error e ↔ computation = .error e := by
  cases computation <;> simp [Except.map]

@[simp] theorem mapError_eq_ok {f : ε → ε'} {result : α} :
    computation.mapError f = .ok result ↔ computation = .ok result := by
  cases computation with
  | error cause => exact ⟨nofun, nofun⟩
  | ok a =>
    constructor <;> intro same
    · exact congrArg _ (Except.ok.inj same)
    · exact congrArg _ (Except.ok.inj same)

@[simp] theorem mapError_eq_error {f : ε → ε'} {e : ε'} :
    computation.mapError f = .error e ↔ ∃ cause, computation = .error cause ∧ f cause = e := by
  cases computation with
  | error cause =>
    constructor
    · intro same
      exact ⟨cause, rfl, Except.error.inj same⟩
    · rintro ⟨other, same, rfl⟩
      rw [Except.error.inj same]
      rfl
  | ok a => exact ⟨nofun, nofun⟩

@[simp] theorem pure_eq_ok {a result : α} :
    (pure a : Except ε α) = .ok result ↔ a = result :=
  Except.ok.injEq a result ▸ Iff.rfl

@[simp] theorem pure_eq_error {a : α} {e : ε} : (pure a : Except ε α) = .error e ↔ False :=
  iff_false_intro nofun

@[simp] theorem throw_eq_error {e e' : ε} :
    (throw e : Except ε α) = .error e' ↔ e = e' :=
  Except.error.injEq e e' ▸ Iff.rfl

end Amalgamation

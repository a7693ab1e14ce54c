import Mathlib.Init

/- Functions that return at the first failing check: a chain of `ensure` and
`orError` in the `Except` monad, and what its success says of every check. -/
namespace VpsManager.Checks

variable {ε α β : Type}

def ensure (condition : Prop) [Decidable condition] (error : ε) : Except ε Unit :=
  if condition then .ok () else .error error

def orError (value : Option α) (error : ε) : Except ε α :=
  match value with
  | some found => .ok found
  | none => .error error

@[simp] theorem ensure_eq_ok (condition : Prop) [Decidable condition] (error : ε) (done : Unit) :
    ensure condition error = .ok done ↔ condition := by
  unfold ensure
  split <;> simp_all

@[simp] theorem orError_eq_ok (value : Option α) (error : ε) (found : α) :
    orError value error = .ok found ↔ value = some found := by
  cases value <;> simp [orError]

/-- A chain succeeds when its first check does and the rest does on its value. -/
@[simp] theorem bind_eq_ok (first : Except ε α) (rest : α → Except ε β) (result : β) :
    (first >>= rest) = .ok result ↔ ∃ value, first = .ok value ∧ rest value = .ok result := by
  cases first <;> simp [bind, Except.bind]

@[simp] theorem mapError_eq_ok {δ : Type} (change : ε → δ) (first : Except ε α) (result : α) :
    first.mapError change = .ok result ↔ first = .ok result := by
  cases first with
  | error _ => exact ⟨nofun, nofun⟩
  | ok value => exact ⟨fun same => by cases same; rfl, fun same => by cases same; rfl⟩

@[simp] theorem pure_eq_ok (value result : α) :
    (pure value : Except ε α) = .ok result ↔ value = result := by
  simp [pure, Except.pure]

end VpsManager.Checks

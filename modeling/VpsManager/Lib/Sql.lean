import Mathlib.Logic.Basic

namespace VpsManager.Sql

variable {α β ρ : Type}

/-- A truth value of SQL; `none` is unknown. -/
abbrev Truth := Option Bool

/-- A condition on columns that are not null. -/
def test (condition : Prop) [Decidable condition] : Truth := some (decide condition)

def isNull (column : Option α) : Truth := some column.isNone

def isNotNull (column : Option α) : Truth := some column.isSome

/-- A condition on a column that may be null; it is then unknown. -/
def test₁ (condition : α → Bool) (column : Option α) : Truth := column.map condition

def test₂ (condition : α → β → Bool) (left : Option α) (right : Option β) : Truth :=
  left.bind fun a => right.map (condition a)

def both : Truth → Truth → Truth
  | some false, _ | _, some false => some false
  | some true, other | other, some true => other
  | none, none => none

def either : Truth → Truth → Truth
  | some true, _ | _, some true => some true
  | some false, other | other, some false => other
  | none, none => none

/-- A CHECK constraint refuses a row only if its condition is false. -/
def passes (truth : Truth) : Prop := truth ≠ some false

instance (truth : Truth) : Decidable (passes truth) := inferInstanceAs (Decidable (_ ≠ _))

@[simp] theorem passes_test (condition : Prop) [Decidable condition] :
    passes (test condition) ↔ condition := by
  simp [passes, test]

@[simp] theorem passes_isNull (column : Option α) : passes (isNull column) ↔ column = none := by
  cases column <;> simp [passes, isNull]

@[simp] theorem passes_isNotNull (column : Option α) :
    passes (isNotNull column) ↔ column.isSome = true := by
  cases column <;> simp [passes, isNotNull]

@[simp] theorem passes_test₁ (condition : α → Bool) (column : Option α) :
    passes (test₁ condition column) ↔ ∀ value, column = some value → condition value = true := by
  cases column <;> simp [passes, test₁]

@[simp] theorem passes_test₂ (condition : α → β → Bool) (left : Option α) (right : Option β) :
    passes (test₂ condition left right) ↔
      ∀ a b, left = some a → right = some b → condition a b = true := by
  cases left <;> cases right <;> simp [passes, test₂]

@[simp] theorem passes_both (left right : Truth) :
    passes (both left right) ↔ passes left ∧ passes right := by
  rcases left with _ | _ | _ <;> rcases right with _ | _ | _ <;> simp [passes, both]

@[simp] theorem passes_either (left right : Truth) :
    passes (either left right) ↔ passes left ∨ passes right := by
  rcases left with _ | _ | _ <;> rcases right with _ | _ | _ <;> simp [passes, either]

def Satisfies (checks : List (ρ → Truth)) (row : ρ) : Prop :=
  ∀ check ∈ checks, passes (check row)

instance (checks : List (ρ → Truth)) (row : ρ) : Decidable (Satisfies checks row) :=
  inferInstanceAs (Decidable (∀ check ∈ checks, _))

@[simp] theorem satisfies_nil (row : ρ) : Satisfies [] row := nofun

@[simp] theorem satisfies_cons (check : ρ → Truth) (checks : List (ρ → Truth)) (row : ρ) :
    Satisfies (check :: checks) row ↔ passes (check row) ∧ Satisfies checks row :=
  List.forall_mem_cons

end VpsManager.Sql

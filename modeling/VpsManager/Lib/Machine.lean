import Mathlib.Init

/- Machines with named actions: the runs in which every action meets a condition on
the state it is taken in, and what holds of all of them. -/
namespace VpsManager.Machine

variable {σ α : Type}

/-- The runs from `start` in which every action is allowed in the state it is taken
in. -/
inductive Run (step : σ → α → σ → Prop) (allowed : σ → α → Prop) (start : σ) :
    List α → σ → Prop
  | start : Run step allowed start [] start
  | take {actions : List α} {state next : σ} (before : Run step allowed start actions state)
      (action : α) (may : allowed state action) (moved : step state action next) :
      Run step allowed start (actions ++ [action]) next

def anyAction (_ : σ) (_ : α) : Prop := True

section Rules

variable {step : σ → α → σ → Prop} {allowed : σ → α → Prop} {start state : σ} {actions : List α}

/-- What holds at the start and is kept by every allowed action holds after a run. -/
theorem Run.keeps {holds : σ → Prop}
    (kept : ∀ state action next, allowed state action → step state action next →
      holds state → holds next)
    (ran : Run step allowed start actions state) (initial : holds start) : holds state := by
  induction ran with
  | start => exact initial
  | take _ _ may moved ih => exact kept _ _ _ may moved ih

theorem Run.append {more : List α} {last : σ} (ran : Run step allowed start actions state)
    (further : Run step allowed state more last) :
    Run step allowed start (actions ++ more) last := by
  induction further with
  | start => rwa [List.append_nil]
  | take _ action may moved ih =>
    rw [← List.append_assoc]
    exact ih.take action may moved

/-- A run is no longer than a measure that every action lowers. -/
theorem Run.length_le {measure : σ → Nat}
    (lowered : ∀ state action next, step state action next → measure next < measure state)
    (ran : Run step allowed start actions state) :
    actions.length + measure state ≤ measure start := by
  induction ran with
  | start => simp
  | take _ _ _ moved ih =>
    have less := lowered _ _ _ moved
    rw [List.length_append, List.length_singleton]
    omega

end Rules

end VpsManager.Machine

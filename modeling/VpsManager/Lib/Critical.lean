import VpsManager.Lib.Checks

/- Critical sections: bodies that read, check and write a state under a lock. What
a body wrote before it fails stays written, so that a failure leaves the state as
it was only if every check comes before the first write. -/
namespace VpsManager

abbrev Critical (σ ε α : Type) := ExceptT ε (StateM σ) α

namespace Critical

variable {σ τ ε ι α β : Type}

def outcome (body : Critical σ ε α) (state : σ) : Except ε α × σ := body.run.run state

/-- The state the body leaves, whether it fails or not. -/
def leaves (body : Critical σ ε α) (state : σ) : σ := (outcome body state).2

variable {first body : Critical σ ε α} {rest : α → Critical σ ε β} {after : σ}

section Outcome

variable (state : σ)

@[simp] theorem outcome_pure (value : α) :
    outcome (pure value : Critical σ ε α) state = (.ok value, state) :=
  rfl

@[simp] theorem outcome_get : outcome (get : Critical σ ε σ) state = (.ok state, state) := rfl

@[simp] theorem outcome_set (after : σ) :
    outcome (set after : Critical σ ε PUnit) state = (.ok (), after) :=
  rfl

@[simp] theorem outcome_modify (change : σ → σ) :
    outcome (modify change : Critical σ ε PUnit) state = (.ok (), change state) :=
  rfl

@[simp] theorem outcome_check (check : Except ε α) :
    outcome (liftM check : Critical σ ε α) state = (check, state) :=
  rfl

theorem outcome_bind (first : Critical σ ε α) (rest : α → Critical σ ε β) :
    outcome (first >>= rest) state =
      match outcome first state with
      | (.ok value, between) => outcome (rest value) between
      | (.error failure, between) => (.error failure, between) := by
  change ExceptT.bindCont rest (outcome first state).1 (outcome first state).2 = _
  rcases outcome first state with ⟨checked, between⟩
  cases checked <;> rfl

theorem outcome_map (change : α → β) (body : Critical σ ε α) :
    outcome (change <$> body) state = ((outcome body state).1.map change, leaves body state) := by
  rw [map_eq_pure_bind, outcome_bind, leaves]
  rcases outcome body state with ⟨checked, after⟩
  cases checked <;> rfl

variable {result : β} {check : Except ε α}

/-- A body succeeds when its first step does and the rest does on its value. -/
theorem outcome_bind_ok {state : σ} :
    outcome (first >>= rest) state = (.ok result, after) ↔
      ∃ value between, outcome first state = (.ok value, between) ∧
        outcome (rest value) between = (.ok result, after) := by
  rw [outcome_bind]
  constructor
  · intro done
    rcases begun : outcome first state with ⟨checked, between⟩
    rw [begun] at done
    cases checked with
    | error failure => cases done
    | ok value => exact ⟨value, between, rfl, done⟩
  · rintro ⟨value, between, begun, done⟩
    rw [begun]
    exact done

@[simp] theorem outcome_get_bind (rest : σ → Critical σ ε β) :
    outcome (get >>= rest) state = outcome (rest state) state :=
  rfl

@[simp] theorem outcome_set_bind (after : σ) (rest : PUnit → Critical σ ε β) :
    outcome (set after >>= rest) state = outcome (rest ()) after :=
  rfl

@[simp] theorem outcome_modify_bind (change : σ → σ) (rest : PUnit → Critical σ ε β) :
    outcome (modify change >>= rest) state = outcome (rest ()) (change state) :=
  rfl

@[simp] theorem outcome_check_ok {state : σ} :
    outcome (liftM check >>= rest) state = (.ok result, after) ↔
      ∃ value, check = .ok value ∧ outcome (rest value) state = (.ok result, after) := by
  rw [outcome_bind_ok]
  constructor
  · rintro ⟨value, between, passed, done⟩
    cases passed
    exact ⟨value, rfl, done⟩
  · rintro ⟨value, rfl, done⟩
    exact ⟨value, state, rfl, done⟩

theorem outcome_passed {state : σ} {value : α} (passed : check = .ok value) :
    outcome (liftM check >>= rest) state = outcome (rest value) state := by
  rw [outcome_bind, outcome_check, passed]

theorem outcome_failed {state : σ} {failure : ε} (failed : check = .error failure) :
    outcome (liftM check >>= rest) state = (.error failure, state) := by
  rw [outcome_bind, outcome_check, failed]

/-- After a check a body has failed and changed nothing, or goes on. -/
theorem outcome_check_bind {state : σ} {answer : Except ε β}
    (done : outcome (liftM check >>= rest) state = (answer, after)) :
    (after = state ∧ ∃ failure, answer = .error failure) ∨
      ∃ value, check = .ok value ∧ outcome (rest value) state = (answer, after) := by
  rw [outcome_bind, outcome_check] at done
  cases check with
  | error failure =>
    cases done
    exact .inl ⟨rfl, failure, rfl⟩
  | ok value => exact .inr ⟨value, rfl, done⟩

@[simp] theorem outcome_map_ok {change : α → β} {state : σ} :
    outcome (change <$> body) state = (.ok result, after) ↔
      ∃ value, outcome body state = (.ok value, after) ∧ change value = result := by
  rw [map_eq_pure_bind, outcome_bind_ok]
  constructor
  · rintro ⟨value, between, done, changed⟩
    cases changed
    exact ⟨value, done, rfl⟩
  · rintro ⟨value, done, rfl⟩
    exact ⟨value, after, done, rfl⟩

end Outcome

def ReadOnly (body : Critical σ ε α) : Prop := ∀ state, leaves body state = state

def Succeeds (body : Critical σ ε α) : Prop := ∀ state, ∃ value, (outcome body state).1 = .ok value

/-- A body that fails leaves the state as it was. -/
def Atomic (body : Critical σ ε α) : Prop :=
  ∀ state failure, (outcome body state).1 = .error failure → leaves body state = state

theorem readOnly_get : ReadOnly (get : Critical σ ε σ) := fun _ => rfl

theorem readOnly_check (check : Except ε α) : ReadOnly (liftM check : Critical σ ε α) :=
  fun _ => rfl

theorem readOnly_pure (value : α) : ReadOnly (pure value : Critical σ ε α) := fun _ => rfl

theorem ReadOnly.bind (reads : ReadOnly first) (goesOn : ∀ value, ReadOnly (rest value)) :
    ReadOnly (first >>= rest) := by
  intro state
  have same := reads state
  unfold leaves at same ⊢
  rw [outcome_bind]
  rcases begun : outcome first state with ⟨checked, between⟩
  rw [begun] at same
  obtain rfl : between = state := same
  cases checked with
  | error _ => rfl
  | ok value => exact goesOn value between

theorem ReadOnly.unchanged (reads : ReadOnly body) {state : σ} {result : Except ε α}
    (done : outcome body state = (result, after)) : state = after :=
  (reads state).symm.trans (congrArg Prod.snd done)

theorem succeeds_set (after : σ) : Succeeds (set after : Critical σ ε PUnit) :=
  fun _ => ⟨(), rfl⟩

theorem succeeds_modify (change : σ → σ) : Succeeds (modify change : Critical σ ε PUnit) :=
  fun _ => ⟨(), rfl⟩

theorem succeeds_pure (value : α) : Succeeds (pure value : Critical σ ε α) :=
  fun _ => ⟨value, rfl⟩

theorem Succeeds.bind (begins : Succeeds first) (goesOn : ∀ value, Succeeds (rest value)) :
    Succeeds (first >>= rest) := by
  intro state
  obtain ⟨value, done⟩ := begins state
  rw [outcome_bind]
  rcases result : outcome first state with ⟨checked, between⟩
  rw [result] at done
  cases done
  exact goesOn value between

theorem Succeeds.atomic (succeeds : Succeeds body) : Atomic body := by
  intro state failure failed
  obtain ⟨value, done⟩ := succeeds state
  rw [done] at failed
  cases failed

theorem ReadOnly.atomic (reads : ReadOnly body) : Atomic body :=
  fun state _ _ => reads state

/-- Reading and checking first keeps a body atomic. -/
theorem ReadOnly.bind_atomic (reads : ReadOnly first) (goesOn : ∀ value, Atomic (rest value)) :
    Atomic (first >>= rest) := by
  intro state failure failed
  have same := reads state
  unfold leaves at same ⊢
  rw [outcome_bind] at failed ⊢
  rcases begun : outcome first state with ⟨checked, between⟩
  rw [begun] at same failed
  obtain rfl : between = state := same
  cases checked with
  | error _ => rfl
  | ok value => exact goesOn value between failure failed

theorem leaves_map (change : α → β) (body : Critical σ ε α) (state : σ) :
    leaves (change <$> body) state = leaves body state := by
  rw [leaves, outcome_map]

theorem Atomic.map (atomic : Atomic body) (change : α → β) : Atomic (change <$> body) := by
  intro state failure failed
  rw [outcome_map] at failed
  rw [leaves_map]
  cases checked : (outcome body state).1 with
  | error other => exact atomic state other checked
  | ok value =>
    rw [checked] at failed
    cases failed

/-- A body that is atomic keeps what its successes keep. -/
theorem Atomic.keeps {holds : σ → Prop} (atomic : Atomic body)
    (success : ∀ state value after, outcome body state = (.ok value, after) → holds state →
      holds after) {state : σ} (held : holds state) : holds (leaves body state) := by
  rcases result : outcome body state with ⟨checked, after⟩
  cases checked with
  | error failure =>
    have same := atomic state failure (congrArg Prod.fst result)
    rw [same]
    exact held
  | ok value =>
    have left : leaves body state = after := congrArg Prod.snd result
    rw [left]
    exact success state value after result held

def run (perform : ι → Critical σ ε α) (calls : List ι) (start : σ) : σ :=
  calls.foldl (fun state call => leaves (perform call) state) start

/-- What every allowed call keeps holds after a run of them. -/
theorem run_keeps {perform : ι → Critical σ ε α} {allowed : ι → Prop} {holds : σ → Prop}
    (step : ∀ call state, allowed call → holds state → holds (leaves (perform call) state))
    {calls : List ι} (all : ∀ call ∈ calls, allowed call) {start : σ} (initial : holds start) :
    holds (run perform calls start) := by
  induction calls generalizing start with
  | nil => exact initial
  | cons call rest ih =>
    rw [List.forall_mem_cons] at all
    exact ih all.2 (step call start all.1 initial)

/-- The body and the function succeed together, with related states, or fail with
the same error, the body's state unchanged. -/
def Matches (related : σ → τ → Prop) (before : σ) (body : Critical σ ε α)
    (model : Except ε τ) : Prop :=
  match outcome body before, model with
  | (.ok _, after), .ok modelled => related after modelled
  | (.error failure, after), .error modelled => failure = modelled ∧ after = before
  | _, _ => False

section Matches

variable {related : σ → τ → Prop} {before : σ}

theorem matches_get {rest : σ → Critical σ ε α} {model : Except ε τ}
    (goesOn : Matches related before (rest before) model) :
    Matches related before (get >>= rest) model :=
  goesOn

theorem matches_check {check : Except ε α} {rest : α → Critical σ ε β} {model : α → Except ε τ}
    (goesOn : ∀ value, check = .ok value → Matches related before (rest value) (model value)) :
    Matches related before (liftM check >>= rest) (check >>= model) := by
  cases check with
  | error failure => exact ⟨rfl, rfl⟩
  | ok value => exact goesOn value rfl

theorem matches_written {body : Critical σ ε α} {value : α} {after : σ} {modelled : τ}
    (written : outcome body before = (.ok value, after)) (holds : related after modelled) :
    Matches related before body (.ok modelled) := by
  unfold Matches
  rw [written]
  exact holds

end Matches

end Critical

end VpsManager

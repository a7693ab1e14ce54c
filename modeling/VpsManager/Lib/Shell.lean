import Mathlib.Data.List.Basic

/- Scripts of the POSIX shell without `set -e`: the text a script is written as
and what running it does, over any kind of simple command. -/
namespace VpsManager.Shell

variable {κ σ : Type}

/-- A separator is `;` or a line break, with the blanks that go with it. -/
inductive Script (κ : Type)
  | run (command : κ)
  | seq (first : Script κ) (separator : String) (second : Script κ)
  | orElse (first second : Script κ)
  | when (condition body : Script κ)
  | branch (condition body : Script κ) (separator : String) (otherwise : Script κ)
  | each (name : String) (values : List String) (body : Script κ)
  | subshell (body : Script κ)
  | exit (status : Nat)

/-- The text of a script; with `nested` set, of the `else` part of a branch. -/
def render (shown : κ → String) (nested : Bool) : Script κ → String
  | .branch condition body separator otherwise =>
    (if nested then "elif " else "if ") ++ render shown false condition ++ "; then " ++
      render shown false body ++ separator ++ render shown true otherwise
  | .run command => closing nested (shown command)
  | .seq first separator second =>
    closing nested (render shown false first ++ separator ++ render shown false second)
  | .orElse first second =>
    closing nested (render shown false first ++ " || " ++ render shown false second)
  | .when condition body => closing nested
      ("if " ++ render shown false condition ++ "; then " ++ render shown false body ++ "; fi")
  | .each name values body => closing nested
      ("for " ++ name ++ " in " ++ " ".intercalate values ++ "; do " ++ render shown false body ++
        "; done")
  | .subshell body => closing nested ("(" ++ render shown false body ++ ")")
  | .exit status => closing nested ("exit " ++ toString status)
where
  closing (nested : Bool) (text : String) : String :=
    if nested then "else " ++ text ++ "; fi" else text

/-- What a simple command does, given the status of the command before, and how
a loop variable is set. -/
structure Machine (κ σ : Type) where
  exec : κ → Nat → σ → σ × Nat
  bind : String → String → σ → σ

/-- The state and the status a script leaves, and whether it left by `exit`. -/
structure Outcome (σ : Type) where
  state : σ
  status : Nat
  exited : Bool

/-- Run a script after a command with the given status. -/
def eval (machine : Machine κ σ) : Script κ → Nat → σ → Outcome σ
  | .run command, last, state =>
    let result := machine.exec command last state
    ⟨result.1, result.2, false⟩
  | .seq first _ second, last, state =>
    let before := eval machine first last state
    if before.exited then before else eval machine second before.status before.state
  | .orElse first second, last, state =>
    let before := eval machine first last state
    if before.exited || before.status == 0 then before
    else eval machine second before.status before.state
  | .when condition body, last, state =>
    let before := eval machine condition last state
    if before.exited then before
    else if before.status = 0 then eval machine body before.status before.state
    else ⟨before.state, 0, false⟩
  | .branch condition body _ otherwise, last, state =>
    let before := eval machine condition last state
    if before.exited then before
    else if before.status = 0 then eval machine body before.status before.state
    else eval machine otherwise before.status before.state
  | .each name values body, _, state =>
    values.foldl (fun before value =>
      if before.exited then before
      else eval machine body before.status (machine.bind name value before.state))
      ⟨state, 0, false⟩
  | .subshell body, last, state =>
    let inner := eval machine body last state
    ⟨inner.state, inner.status, false⟩
  | .exit status, _, state => ⟨state, status, true⟩

def chain (separator : String) : κ → List κ → Script κ
  | command, [] => .run command
  | command, next :: rest => .seq (.run command) separator (chain separator next rest)

/-- Run commands one after the other, whatever their statuses. -/
def execAll (machine : Machine κ σ) : κ → List κ → Nat → σ → σ × Nat
  | command, [], last, state => machine.exec command last state
  | command, next :: rest, last, state =>
    let result := machine.exec command last state
    execAll machine next rest result.2 result.1

/-- A chain runs all of its commands and has the status of the last. -/
theorem eval_chain (machine : Machine κ σ) (separator : String) (command : κ) (rest : List κ)
    (last : Nat) (state : σ) :
    eval machine (chain separator command rest) last state =
      ⟨(execAll machine command rest last state).1, (execAll machine command rest last state).2,
        false⟩ := by
  induction rest generalizing command last state with
  | nil => rfl
  | cons next rest ih =>
    simp only [chain, eval, execAll, Bool.false_eq_true, ↓reduceIte]
    exact ih next _ _

/-- A machine that gives the commands a script runs, in order, statuses from a
list of its own and records both. -/
def tally (statuses : Nat → Nat) : Machine κ (List (κ × Nat)) where
  exec command _ log := (log ++ [(command, statuses log.length)], statuses log.length)
  bind _ _ log := log

/-- The log of a chain: all its commands, each with its status. -/
def logged (statuses : Nat → Nat) : Nat → List κ → List (κ × Nat)
  | _, [] => []
  | index, command :: rest => (command, statuses index) :: logged statuses (index + 1) rest

theorem execAll_tally (statuses : Nat → Nat) (command : κ) (rest : List κ) (last : Nat)
    (log : List (κ × Nat)) :
    execAll (tally statuses) command rest last log =
      (log ++ logged statuses log.length (command :: rest),
        statuses (log.length + rest.length)) := by
  induction rest generalizing command last log with
  | nil => rfl
  | cons next rest ih =>
    simp only [execAll]
    rw [ih]
    simp [tally, logged, Nat.add_comm, Nat.add_left_comm]

/-- The last entry of the log of a chain holds the status of the chain. -/
theorem logged_last (statuses : Nat → Nat) (index : Nat) (command : κ) (rest : List κ) :
    ∃ front final, logged statuses index (command :: rest) =
      front ++ [(final, statuses (index + rest.length))] := by
  induction rest generalizing command index with
  | nil => exact ⟨[], command, rfl⟩
  | cons next rest ih =>
    obtain ⟨front, final, same⟩ := ih (index + 1) next
    refine ⟨(command, statuses index) :: front, final, ?_⟩
    rw [logged, same, List.length_cons, List.cons_append, Nat.add_right_comm, Nat.add_assoc]

end VpsManager.Shell

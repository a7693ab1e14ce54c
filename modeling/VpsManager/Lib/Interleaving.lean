import Mathlib.Data.List.Basic

namespace VpsManager.Interleaving

variable {σ τ ε : Type}

/-- Concurrent calls over one shared state. A call is its local state, a step
is atomic, and `outside` is what changes the shared state without a call. -/
structure System (σ τ ε : Type) where
  begins : τ → Prop
  step : σ → τ → ε → σ → τ → Prop
  outside : σ → ε → σ → Prop

/-- The shared state, every call begun so far, and the labels of the steps
taken, newest first. -/
structure Config (σ τ ε : Type) where
  shared : σ
  calls : List τ
  trace : List ε

/-- Every configuration of a run from `start` in which each step of a call
satisfied `allow` when it was taken. -/
inductive Reachable (system : System σ τ ε) (allow : σ → List ε → τ → ε → Prop)
    (start : σ) : Config σ τ ε → Prop
  | start : Reachable system allow start ⟨start, [], []⟩
  | call {config : Config σ τ ε} (call : τ) (earlier : Reachable system allow start config)
      (begins : system.begins call) :
      Reachable system allow start ⟨config.shared, config.calls ++ [call], config.trace⟩
  | advance {config : Config σ τ ε} {call next : τ} {label : ε} {after : σ} (index : Nat)
      (earlier : Reachable system allow start config)
      (running : config.calls[index]? = some call)
      (step : system.step config.shared call label after next)
      (admitted : allow config.shared config.trace call label) :
      Reachable system allow start
        ⟨after, config.calls.set index next, label :: config.trace⟩
  | outside {config : Config σ τ ε} {label : ε} {after : σ}
      (earlier : Reachable system allow start config)
      (step : system.outside config.shared label after) :
      Reachable system allow start ⟨after, config.calls, label :: config.trace⟩

def anyStep : σ → List ε → τ → ε → Prop := fun _ _ _ _ => True

variable {system : System σ τ ε} {start : σ} {config first last : Config σ τ ε}
  {allow : σ → List ε → τ → ε → Prop}

theorem Reachable.mono {strong weak : σ → List ε → τ → ε → Prop}
    (weaker : ∀ shared trace call label,
      strong shared trace call label → weak shared trace call label)
    (reached : Reachable system strong start config) : Reachable system weak start config := by
  induction reached with
  | start => exact .start
  | call call _ begins ih => exact .call call ih begins
  | advance index _ running step admitted ih =>
    exact .advance index ih running step (weaker _ _ _ _ admitted)
  | outside _ step ih => exact .outside ih step

theorem Reachable.advanceLast {shared after : σ} {calls : List τ} {trace : List ε} {call next : τ}
    {label : ε} (earlier : Reachable system allow start ⟨shared, calls ++ [call], trace⟩)
    (step : system.step shared call label after next) (admitted : allow shared trace call label) :
    Reachable system allow start ⟨after, calls ++ [next], label :: trace⟩ := by
  have running : (calls ++ [call])[calls.length]? = some call := by simp
  have advanced := earlier.advance calls.length running step admitted
  rwa [List.set_append_right _ _ (Nat.le_refl _), Nat.sub_self] at advanced

/-- A number of steps that one call takes by a function. -/
def ahead (advance : σ → τ → σ × τ × ε) : Nat → σ → τ → List ε → σ × τ × List ε
  | 0, shared, call, trace => (shared, call, trace)
  | count + 1, shared, call, trace =>
    let moved := advance shared call
    ahead advance count moved.1 moved.2.1 (moved.2.2 :: trace)

theorem Reachable.ahead {call : τ} (advance : σ → τ → σ × τ × ε)
    (takes : ∀ shared call, system.step shared call (advance shared call).2.2
      (advance shared call).1 (advance shared call).2.1) (count index : Nat)
    (earlier : Reachable system anyStep start config) (running : config.calls[index]? = some call) :
    Reachable system anyStep start
      ⟨(ahead advance count config.shared call config.trace).1,
        config.calls.set index (ahead advance count config.shared call config.trace).2.1,
        (ahead advance count config.shared call config.trace).2.2⟩ := by
  induction count generalizing config call with
  | zero =>
    obtain ⟨inside, rfl⟩ := List.getElem?_eq_some_iff.mp running
    simpa [Interleaving.ahead] using earlier
  | succ count ih =>
    have inside : index < config.calls.length := (List.getElem?_eq_some_iff.mp running).1
    have moved := earlier.advance index running (takes config.shared call) trivial
    have goes := ih moved (List.getElem?_set_self inside)
    simpa [Interleaving.ahead] using goes

/-- Every configuration that a run may pass after `first`. -/
inductive Later (system : System σ τ ε) (allow : σ → List ε → τ → ε → Prop)
    (first : Config σ τ ε) : Config σ τ ε → Prop
  | now : Later system allow first first
  | call {config : Config σ τ ε} (call : τ) (earlier : Later system allow first config)
      (begins : system.begins call) :
      Later system allow first ⟨config.shared, config.calls ++ [call], config.trace⟩
  | advance {config : Config σ τ ε} {call next : τ} {label : ε} {after : σ} (index : Nat)
      (earlier : Later system allow first config)
      (running : config.calls[index]? = some call)
      (step : system.step config.shared call label after next)
      (admitted : allow config.shared config.trace call label) :
      Later system allow first ⟨after, config.calls.set index next, label :: config.trace⟩
  | outside {config : Config σ τ ε} {label : ε} {after : σ}
      (earlier : Later system allow first config)
      (step : system.outside config.shared label after) :
      Later system allow first ⟨after, config.calls, label :: config.trace⟩

/-- What every step keeps is kept by the rest of a run. -/
theorem Later.keeps (kept : σ → Prop) (step : ∀ shared call label after next, kept shared →
      system.step shared call label after next → kept after)
    (outside : ∀ shared label after, kept shared → system.outside shared label after → kept after)
    (later : Later system allow first last) (initial : kept first.shared) : kept last.shared := by
  induction later with
  | now => exact initial
  | call _ _ _ ih => exact ih
  | advance _ _ _ taken _ ih => exact step _ _ _ _ _ ih taken
  | outside _ taken ih => exact outside _ _ _ ih taken

theorem Later.reachable (reached : Reachable system allow start first)
    (later : Later system allow first last) : Reachable system allow start last := by
  induction later with
  | now => exact reached
  | call call _ begins ih => exact .call call ih begins
  | advance index _ running step admitted ih => exact .advance index ih running step admitted
  | outside _ step ih => exact .outside ih step

/-- An invariant of the calls that begin after `first`. A step may rely on what is
true of every configuration after `first`. -/
theorem Later.begunAfter (each : σ → τ → Prop) (sound : σ → List ε → Prop)
    (sounds : ∀ config, Later system allow first config → sound config.shared config.trace)
    (begun : ∀ shared call, system.begins call → each shared call)
    (advanced : ∀ shared trace call label after next, sound shared trace →
      each shared call → system.step shared call label after next → each after next)
    (framed : ∀ shared call label after next other,
      system.step shared call label after next → each shared other → each after other)
    (disturbed : ∀ shared label after other, system.outside shared label after →
      each shared other → each after other) (later : Later system allow first last) :
    ∀ index call, first.calls.length ≤ index → last.calls[index]? = some call →
      each last.shared call := by
  induction later with
  | now =>
    intro index call beyond present
    rw [List.getElem?_eq_none beyond] at present
    cases present
  | @call config new earlier begins ih =>
    intro index call beyond present
    by_cases old : index < config.calls.length
    · exact ih index call beyond (by rwa [List.getElem?_append_left old] at present)
    · rw [List.getElem?_append_right (Nat.le_of_not_lt old)] at present
      obtain rfl := List.mem_singleton.mp (List.mem_of_getElem? present)
      exact begun _ _ begins
  | @advance config moving next label after position earlier running step _ ih =>
    intro index call beyond present
    by_cases same : position = index
    · subst same
      have inside : position < config.calls.length := (List.getElem?_eq_some_iff.mp running).1
      rw [List.getElem?_set_self inside] at present
      obtain rfl := Option.some.inj present
      exact advanced _ _ _ _ _ _ (sounds _ earlier) (ih position moving beyond running) step
    · rw [List.getElem?_set_ne same] at present
      exact framed _ _ _ _ _ _ step (ih index call beyond present)
  | outside _ step ih =>
    intro index call beyond present
    exact disturbed _ _ _ _ step (ih index call beyond present)

/-- If every labelled step of one kind leaves a mark on its call, and calls keep
their marks, then each such label of the trace has its marked call. -/
theorem Reachable.marked (kind : ε → Prop) (mark : ε → τ → Prop)
    (marks : ∀ shared call label after next, system.step shared call label after next →
      kind label → mark label next)
    (kept : ∀ shared call label after next old, system.step shared call label after next →
      mark old call → mark old next)
    (silent : ∀ shared label after, system.outside shared label after → ¬ kind label)
    (reached : Reachable system allow start config) :
    ∀ label ∈ config.trace, kind label → ∃ call ∈ config.calls, mark label call := by
  induction reached with
  | start => simp
  | call call _ _ ih =>
    intro label member isKind
    obtain ⟨owner, old, marked⟩ := ih label member isKind
    exact ⟨owner, List.mem_append_left _ old, marked⟩
  | @advance config call next label after index _ running taken _ ih =>
    have inside : index < config.calls.length := (List.getElem?_eq_some_iff.mp running).1
    intro old member isKind
    rcases List.mem_cons.mp member with rfl | earlier
    · exact ⟨next, List.mem_set inside next, marks _ _ _ _ _ taken isKind⟩
    · obtain ⟨owner, present, marked⟩ := ih old earlier isKind
      obtain ⟨position, _, found⟩ := List.mem_iff_getElem.mp present
      by_cases same : position = index
      · subst same
        have : owner = call := by
          rw [← found]
          exact (List.getElem?_eq_some_iff.mp running).2
        subst this
        exact ⟨next, List.mem_set inside next, kept _ _ _ _ _ _ taken marked⟩
      · refine ⟨owner, ?_, marked⟩
        rw [← found, ← List.getElem_set_ne (Ne.symm same) (by simpa using ‹_›)]
        exact List.getElem_mem _
  | outside _ taken ih =>
    intro label member isKind
    rcases List.mem_cons.mp member with rfl | earlier
    · exact absurd isKind (silent _ _ _ taken)
    · exact ih label earlier isKind

theorem pairwise_set {related : τ → τ → Prop} (symmetric : ∀ one other, related one other →
    related other one) (calls : List τ) (index : Nat) (call next : τ)
    (running : calls[index]? = some call) (pairwise : calls.Pairwise related)
    (replaced : ∀ other ∈ calls, related call other → related next other) :
    (calls.set index next).Pairwise related := by
  induction calls generalizing index with
  | nil => simp
  | cons first rest ih =>
    obtain ⟨head, tail⟩ := List.pairwise_cons.mp pairwise
    cases index with
    | zero =>
      obtain rfl : first = call := by simpa using running
      refine List.pairwise_cons.mpr ⟨?_, tail⟩
      intro other member
      exact replaced other (List.mem_cons_of_mem _ member) (head other member)
    | succ index =>
      have inside : rest[index]? = some call := by simpa using running
      refine List.pairwise_cons.mpr ⟨?_, ih index inside tail fun other member =>
        replaced other (List.mem_cons_of_mem _ member)⟩
      intro other member
      rcases List.mem_or_eq_of_mem_set member with old | rfl
      · exact head other old
      · have before := symmetric _ _ (head call (List.mem_of_getElem? inside))
        exact symmetric _ _ (replaced first (by simp) before)

/-- What a global invariant, an invariant of each call and a symmetric relation
between any two calls must satisfy. A step may rely on all three, and has to keep
the invariants of the other calls and its relation to them. -/
structure Inductive (system : System σ τ ε) (allow : σ → List ε → τ → ε → Prop)
    (start : σ) (whole : σ → List ε → Prop) (each : σ → List ε → τ → Prop)
    (apart : τ → τ → Prop) : Prop where
  symmetric : ∀ one other, apart one other → apart other one
  initial : whole start []
  begun : ∀ shared trace call, whole shared trace → system.begins call →
    each shared trace call ∧ ∀ other, apart call other
  advanced : ∀ shared trace call label after next,
    whole shared trace → each shared trace call → system.step shared call label after next →
    allow shared trace call label →
    whole after (label :: trace) ∧ each after (label :: trace) next ∧
      ∀ other, each shared trace other → apart call other →
        each after (label :: trace) other ∧ apart next other
  disturbed : ∀ shared trace label after,
    whole shared trace → system.outside shared label after →
    whole after (label :: trace) ∧
      ∀ other, each shared trace other → each after (label :: trace) other

theorem others_of_pairwise {apart : τ → τ → Prop}
    (symmetric : ∀ one other, apart one other → apart other one) (calls : List τ) (index : Nat)
    (call next other : τ) (running : calls[index]? = some call) (pairwise : calls.Pairwise apart)
    (member : other ∈ calls.set index next) :
    other = next ∨ (other ∈ calls ∧ apart call other) := by
  induction calls generalizing index with
  | nil => simp at running
  | cons first rest ih =>
    obtain ⟨head, tail⟩ := List.pairwise_cons.mp pairwise
    cases index with
    | zero =>
      obtain rfl : first = call := by simpa using running
      rcases List.mem_cons.mp member with same | inside
      · exact .inl same
      · exact .inr ⟨List.mem_cons_of_mem _ inside, head other inside⟩
    | succ index =>
      have inRest : rest[index]? = some call := by simpa using running
      rcases List.mem_cons.mp member with rfl | inside
      · exact .inr ⟨by simp, symmetric _ _ (head call (List.mem_of_getElem? inRest))⟩
      · rcases ih index inRest tail inside with same | ⟨old, separate⟩
        · exact .inl same
        · exact .inr ⟨List.mem_cons_of_mem _ old, separate⟩

/-- An inductive triple of invariants holds in every reachable configuration. -/
theorem Inductive.holds {whole : σ → List ε → Prop} {each : σ → List ε → τ → Prop}
    {apart : τ → τ → Prop} (valid : Inductive system allow start whole each apart)
    (reached : Reachable system allow start config) :
    whole config.shared config.trace ∧
      (∀ call ∈ config.calls, each config.shared config.trace call) ∧
      config.calls.Pairwise apart := by
  induction reached with
  | start => exact ⟨valid.initial, by simp, List.Pairwise.nil⟩
  | @call config call _ begins ih =>
    obtain ⟨global, locals, pairwise⟩ := ih
    obtain ⟨sound, separate⟩ := valid.begun _ _ _ global begins
    refine ⟨global, ?_, List.pairwise_append.mpr ⟨pairwise, List.pairwise_singleton _ _, ?_⟩⟩
    · intro other member
      rcases List.mem_append.mp member with old | new
      · exact locals other old
      · rw [List.mem_singleton.mp new]
        exact sound
    · intro other _ new member
      rw [List.mem_singleton.mp member]
      exact valid.symmetric _ _ (separate other)
  | @advance config call next label after index _ running step admitted ih =>
    obtain ⟨global, locals, pairwise⟩ := ih
    have mover := locals call (List.mem_of_getElem? running)
    obtain ⟨globally, moved, others⟩ := valid.advanced _ _ _ _ _ _ global mover step admitted
    refine ⟨globally, ?_, ?_⟩
    · intro other member
      rcases others_of_pairwise valid.symmetric _ _ _ _ _ running pairwise member with
        rfl | ⟨old, separate⟩
      · exact moved
      · exact (others other (locals other old) separate).1
    · exact pairwise_set valid.symmetric _ _ _ _ running pairwise fun other member separate =>
        (others other (locals other member) separate).2
  | outside _ step ih =>
    obtain ⟨global, locals, pairwise⟩ := ih
    obtain ⟨globally, others⟩ := valid.disturbed _ _ _ _ global step
    exact ⟨globally, fun other member => others other (locals other member), pairwise⟩

end VpsManager.Interleaving

import VpsManager.Lib.Critical
import VpsManager.Lib.Expiring
import VpsManager.Lib.Table

/- Desks of one-time tickets: a ticket is stored under a key, handed out at most once
and only before it expires, and never after the desk has closed. The keys of tickets
that were asked for are remembered for a while, to tell a replay from a wrong key. -/
namespace VpsManager

open Checks

/-- A closed desk holds no ticket. -/
structure Desk (κ α : Type) [DecidableEq κ] where
  tickets : Finmap (fun _ : κ => α)
  consumed : Expiring.Table κ
  closed : Bool
  emptied : closed = true → tickets = ∅

namespace Desk

variable {κ α ε : Type} [DecidableEq κ]

def empty : Desk κ α := ⟨∅, ∅, false, fun closed => nomatch closed⟩

def held (desk : Desk κ α) (key : κ) : Option α := desk.tickets.lookup key

def unexpired (expiresAt : α → Int) (now : Int) (tickets : Finmap (fun _ : κ => α)) :
    Finmap (fun _ : κ => α) where
  entries := tickets.entries.filter fun entry => now < expiresAt entry.2
  nodupKeys := by
    apply Multiset.nodup_keys.mp
    exact Multiset.nodup_of_le (Multiset.map_le_map (Multiset.filter_le _ _))
      tickets.nodupKeys.nodup_keys

/-- Drop the tickets and the remembered keys whose time has come. -/
def prune (expiresAt : α → Int) (now : Int) (desk : Desk κ α) : Desk κ α where
  tickets := unexpired expiresAt now desk.tickets
  consumed := Expiring.prune now desk.consumed
  closed := desk.closed
  emptied closed := by
    rw [desk.emptied closed]
    rfl

def put (desk : Desk κ α) (isOpen : desk.closed = false) (key : κ) (ticket : α) : Desk κ α :=
  { desk with
    tickets := desk.tickets.insert key ticket
    emptied := by simp [isOpen] }

/-- Take the ticket under the key away and remember the key. -/
def withdraw (desk : Desk κ α) (key : κ) (remembered : Int) : Desk κ α :=
  { desk with
    tickets := desk.tickets.erase key
    consumed := desk.consumed.insert key remembered
    emptied := by
      intro closed
      rw [desk.emptied closed]
      rfl }

def close (desk : Desk κ α) : Desk κ α :=
  if desk.closed then desk else ⟨∅, desk.consumed, true, fun _ => rfl⟩

/-- What a desk refuses a request for a ticket with. -/
structure Refusals (ε : Type) where
  unknown : ε
  replayed : ε
  expired : ε
  mismatch : ε

/-- Store a new ticket, if the desk is open and has room. -/
def store (expiresAt : α → Int) (maxTickets maxConsumed : Nat) (full collision : ε) (now : Int)
    (key : κ) (ticket : α) : Critical (Desk κ α) ε Unit := do
  modify (prune expiresAt now)
  let desk ← get
  if room : desk.closed = false ∧ desk.tickets.keys.card < maxTickets ∧
      desk.consumed.keys.card < maxConsumed then
    liftM (ensure (key ∉ desk.tickets) collision)
    set (desk.put room.1 key ticket)
  else throw full

/-- Hand out the ticket under a key. It is gone even if it has expired or the request
does not agree with it. -/
def consume (expiresAt : α → Int) (refusals : Refusals ε) (now remembered : Int) (key : κ)
    (agrees : α → Bool) : Critical (Desk κ α) ε α := do
  modify (prune expiresAt now)
  let desk ← get
  match desk.held key with
  | none => throw (if key ∈ desk.consumed then refusals.replayed else refusals.unknown)
  | some ticket =>
    set (desk.withdraw key remembered)
    liftM (ensure (now < expiresAt ticket) refusals.expired)
    liftM (ensure (agrees ticket = true) refusals.mismatch)
    return ticket

variable {agrees : α → Bool} {refusals : Refusals ε} {answer : Except ε α} {key : κ}

section Outcomes

variable {expiresAt : α → Int} {now : Int} {ticket : α} {before after : Desk κ α}

/-- A ticket that is there, has not expired and agrees with the request is handed out. -/
theorem consume_eq (refusals : Refusals ε) (remembered : Int)
    (there : (prune expiresAt now before).held key = some ticket) (valid : now < expiresAt ticket)
    (agreed : agrees ticket = true) :
    (consume expiresAt refusals now remembered key agrees).outcome before =
      (.ok ticket, (prune expiresAt now before).withdraw key remembered) := by
  simp only [consume, Critical.outcome_modify_bind, Critical.outcome_get_bind, there,
    Critical.outcome_set_bind, Critical.outcome_check_ok, ensure_eq_ok, Critical.outcome_pure,
    and_true]
  exact ⟨(), valid, (), agreed⟩

/-- Whatever the answer, the pruned desk has lost the ticket under the key, if it had one. -/
theorem consume_leaves {remembered : Int}
    (consumed : (consume expiresAt refusals now remembered key agrees).outcome before =
      (answer, after)) :
    key ∉ (prune expiresAt now before).tickets ∧ after = prune expiresAt now before ∨
      key ∈ (prune expiresAt now before).tickets ∧
        after = (prune expiresAt now before).withdraw key remembered := by
  simp only [consume, Critical.outcome_modify_bind, Critical.outcome_get_bind] at consumed
  split at consumed
  · rename_i absent
    cases consumed
    exact .inl ⟨Finmap.lookup_eq_none.mp absent, rfl⟩
  · rename_i there
    refine .inr ⟨Finmap.mem_of_lookup_eq_some there, ?_⟩
    rw [Critical.outcome_set_bind] at consumed
    rcases Critical.outcome_check_bind consumed with ⟨same, -⟩ | ⟨_, -, consumed⟩
    · exact same
    · rcases Critical.outcome_check_bind consumed with ⟨same, -⟩ | ⟨_, -, consumed⟩
      · exact same
      · cases consumed
        rfl

end Outcomes

variable {maxTickets maxConsumed : Nat} {full collision : ε}

section Members

variable {expiresAt : α → Int} {now : Int} {ticket : α} {before after : Desk κ α}

theorem mem_of_mem_prune (inside : key ∈ (prune expiresAt now before).tickets) :
    key ∈ before.tickets :=
  Multiset.mem_of_le (Multiset.map_le_map (Multiset.filter_le _ _)) inside

theorem mem_of_mem_close (inside : key ∈ before.close.tickets) : key ∈ before.tickets := by
  unfold close at inside
  split at inside
  · exact inside
  · exact absurd inside Finmap.notMem_empty

theorem closed_close (before : Desk κ α) : before.close.closed = true := by
  unfold close
  split <;> trivial

/-- Storing adds no other ticket, and leaves the desk open or closed as it was. -/
theorem store_mem {answer : Except ε Unit}
    (stored : (store expiresAt maxTickets maxConsumed full collision now key ticket).outcome
      before = (answer, after)) :
    (∀ other ∈ after.tickets, other = key ∨ other ∈ before.tickets) ∧
      after.closed = before.closed := by
  simp only [store, Critical.outcome_modify_bind, Critical.outcome_get_bind] at stored
  split at stored
  · rcases Critical.outcome_check_bind stored with ⟨rfl, -⟩ | ⟨_, -, stored⟩
    · exact ⟨fun _ inside => .inr (mem_of_mem_prune inside), rfl⟩
    · cases stored
      refine ⟨fun other inside => ?_, rfl⟩
      rcases Finmap.mem_insert.mp inside with same | old
      · exact .inl same
      · exact .inr (mem_of_mem_prune old)
  · cases stored
    exact ⟨fun _ inside => .inr (mem_of_mem_prune inside), rfl⟩

/-- The ticket that was asked for is gone, whatever the answer. -/
theorem consume_mem {remembered : Int}
    (consumed : (consume expiresAt refusals now remembered key agrees).outcome before =
      (answer, after)) :
    (∀ other ∈ after.tickets, other ≠ key ∧ other ∈ before.tickets) ∧
      after.closed = before.closed := by
  rcases consume_leaves consumed with ⟨absent, rfl⟩ | ⟨-, rfl⟩
  · exact ⟨fun other inside =>
      ⟨fun same => absent (same ▸ inside), mem_of_mem_prune inside⟩, rfl⟩
  · refine ⟨fun other inside => ?_, rfl⟩
    obtain ⟨differ, old⟩ := Finmap.mem_erase.mp inside
    exact ⟨differ, mem_of_mem_prune old⟩

theorem consume_absent {remembered : Int} (absent : key ∉ before.tickets) :
    ∃ failure, ((consume expiresAt refusals now remembered key agrees).outcome before).1 =
      .error failure := by
  have gone : (prune expiresAt now before).held key = none :=
    Finmap.lookup_eq_none.mpr fun inside => absent (mem_of_mem_prune inside)
  simp only [consume, Critical.outcome_modify_bind, Critical.outcome_get_bind, gone]
  exact ⟨_, rfl⟩

end Members

/-- How many tickets there are, and how many keys are remembered. -/
def count (desk : Desk κ α) : Nat := Table.size desk.tickets

def remembered (desk : Desk κ α) : Nat := Table.size desk.consumed

theorem count_prune_le (expiresAt : α → Int) (now : Int) (desk : Desk κ α) :
    (prune expiresAt now desk).count ≤ desk.count :=
  Multiset.card_le_card (Multiset.filter_le _ _)

theorem remembered_prune_le (expiresAt : α → Int) (now : Int) (desk : Desk κ α) :
    (prune expiresAt now desk).remembered ≤ desk.remembered :=
  Multiset.card_le_card (Multiset.filter_le _ _)

theorem count_put (desk : Desk κ α) (isOpen : desk.closed = false) (ticket : α)
    (fresh : key ∉ desk.tickets) : (desk.put isOpen key ticket).count = desk.count + 1 :=
  Table.size_insert fresh

theorem count_withdraw (desk : Desk κ α) (there : key ∈ desk.tickets) (deadline : Int) :
    (desk.withdraw key deadline).count + 1 = desk.count :=
  Table.size_erase there

theorem remembered_withdraw_le (desk : Desk κ α) (key : κ) (deadline : Int) :
    (desk.withdraw key deadline).remembered ≤ desk.remembered + 1 :=
  Table.size_insert_le

theorem count_close_le (desk : Desk κ α) : desk.close.count ≤ desk.count := by
  unfold close
  split
  · exact Nat.le_refl _
  · exact Nat.zero_le _

theorem remembered_close (desk : Desk κ α) : desk.close.remembered = desk.remembered := by
  unfold close
  split <;> rfl

section Sizes

variable {expiresAt : α → Int} {now : Int} {ticket : α} {before after : Desk κ α}

/-- Storing adds one ticket, where there was room for it. Where it fails it has pruned, and
one of its conditions is not met. -/
theorem store_sizes {answer : Except ε Unit}
    (stored : (store expiresAt maxTickets maxConsumed full collision now key ticket).outcome
      before = (answer, after)) :
    answer = .ok () ∧ after.count ≤ before.count + 1 ∧ after.count ≤ maxTickets ∧
        after.remembered ≤ before.remembered ∧ after.remembered < maxConsumed ∨
      (∃ failure, answer = .error failure) ∧ after = prune expiresAt now before ∧
        (after.closed = true ∨ maxTickets ≤ after.count ∨ maxConsumed ≤ after.remembered ∨
          key ∈ after.tickets) := by
  have fewer := count_prune_le expiresAt now before
  have forgotten := remembered_prune_le expiresAt now before
  simp only [store, Critical.outcome_modify_bind, Critical.outcome_get_bind,
    ← Table.size_eq_card_keys] at stored
  generalize prune expiresAt now before = pruned at *
  split at stored
  · rename_i room
    rw [Critical.outcome_bind, Critical.outcome_check] at stored
    by_cases fresh : key ∉ pruned.tickets
    · rw [ensure, if_pos fresh] at stored
      cases stored
      have added := count_put pruned room.1 ticket fresh
      have tickets : pruned.count < maxTickets := room.2.1
      exact .inl ⟨rfl, by omega, by omega, forgotten, room.2.2⟩
    · rw [ensure, if_neg fresh] at stored
      cases stored
      exact .inr ⟨⟨_, rfl⟩, rfl, .inr (.inr (.inr (not_not.mp fresh)))⟩
  · rename_i room
    cases stored
    refine .inr ⟨⟨_, rfl⟩, rfl, ?_⟩
    by_contra! met
    exact room ⟨by simpa using met.1, met.2.1, met.2.2.1⟩

theorem consume_sizes {remembered : Int}
    (consumed : (consume expiresAt refusals now remembered key agrees).outcome before =
      (answer, after)) :
    after.count ≤ before.count ∧
      after.count + after.remembered ≤ before.count + before.remembered := by
  have fewer := count_prune_le expiresAt now before
  have forgotten := remembered_prune_le expiresAt now before
  rcases consume_leaves consumed with ⟨-, rfl⟩ | ⟨there, rfl⟩
  · omega
  · have one := count_withdraw _ there remembered
    have more := remembered_withdraw_le (prune expiresAt now before) key remembered
    omega

end Sizes

end Desk

end VpsManager

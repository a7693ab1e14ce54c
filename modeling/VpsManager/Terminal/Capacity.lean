import VpsManager.Terminal.Tickets
import Mathlib.Algebra.Order.BigOperators.Group.Multiset

namespace VpsManager.Terminal.Capacity

open Go Checks Protocol Machine Tickets

def defaultMaxTickets : Int := 128

def setIntDefault (value fallback : Int) : Int := if value ≤ 0 then fallback else value

/-- What `applyConfigDefaults` makes of `MaxOutstandingTickets`. -/
def maxOutstandingTickets (configured : Int) : Except String Nat := do
  let value := setIntDefault configured defaultMaxTickets
  ensure (value ≤ 4096) "WebSSH capacity or byte limit is outside the allowed bounds"
  return value.toNat

section Broker

variable (world : World)

def reserveTicket (issuing : Int) (now : Int) : Critical BrokerDesk String Int := do
  modify (Desk.prune BrowserTicket.expiresAt now)
  let desk ← get
  liftM (ensure (desk.closed = false ∧
    desk.tickets.keys.card + issuing < world.gateway.maxOutstandingTickets) Broker.errCapacity)
  return issuing + 1

def releaseTicketReservation (issuing : Int) : Int :=
  if 0 < issuing then issuing - 1 else issuing

def storeTicket (now : Int) (hash : Bytes) (ticket : BrowserTicket) :
    Critical BrokerDesk String Unit :=
  Desk.store BrowserTicket.expiresAt world.gateway.maxOutstandingTickets
    (world.gateway.maxOutstandingTickets * 4) Broker.errCapacity Broker.errCapacity now hash ticket

end Broker

inductive Call
  | accepted (request : IssueRequest)
  /-- It holds a reservation, as all that follow do, and waits for the Connector. -/
  | waiting (request : IssueRequest)
  | answered (request : IssueRequest) (response : WebSSHTicketResponse)
  | storing (issuance : Issuance)
  /-- It gives its reservation back, with or without a ticket stored. -/
  | leaving (stored : Bool)

/-- The reservations a call holds. -/
def Call.reservations : Call → Nat
  | .accepted _ => 0
  | _ => 1

/-- The reservations a call holds without a stored ticket. -/
def Call.unstored : Call → Nat
  | .accepted _ | .leaving true => 0
  | _ => 1

def reservations (calls : Multiset Call) : Nat := (calls.map Call.reservations).sum

def unstored (calls : Multiset Call) : Nat := (calls.map Call.unstored).sum

structure State where
  desk : BrokerDesk
  issuing : Int
  clock : Int
  calls : Multiset Call
  /-- The browsers that ask for their ticket, with the time each has read. -/
  hellos : Multiset (HelloMessage × Int)

def initial (clock : Int) : State := ⟨.empty, 0, clock, 0, 0⟩

inductive Action
  | tick
  | accept
  | reserve
  | answer
  | draw
  | fail
  | store
  | release
  | hello
  | consume
  | prune
  | close

/-- One step of one party. Whether an authorization is given, what the Connector answers,
and whether and what the random source yields is open. `consumeTicket` reads the clock
before it takes the lock, the other critical sections while they hold it. -/
inductive Moves (world : World) (s : State) : Action → State → Prop
  | tick {later : Int} (passes : s.clock ≤ later) : Moves world s .tick { s with clock := later }
  | accept {request normalized : IssueRequest}
      (checked : Broker.acceptRequest request = .ok normalized) :
      Moves world s .accept { s with calls := .accepted normalized ::ₘ s.calls }
  | reserve {request : IssueRequest} {rest : Multiset Call} {desk : BrokerDesk} {issuing : Int}
      (runs : s.calls = .accepted request ::ₘ rest)
      (reserved : (reserveTicket world s.issuing s.clock).outcome s.desk = (.ok issuing, desk)) :
      Moves world s .reserve
        { s with desk := desk, issuing := issuing, calls := .waiting request ::ₘ rest }
  | refuse {request : IssueRequest} {rest : Multiset Call} {desk : BrokerDesk} {failure : String}
      (runs : s.calls = .accepted request ::ₘ rest)
      (refused : (reserveTicket world s.issuing s.clock).outcome s.desk =
        (.error failure, desk)) :
      Moves world s .reserve { s with desk := desk, calls := rest }
  | answer {request : IssueRequest} {response : WebSSHTicketResponse} {rest : Multiset Call}
      (runs : s.calls = .waiting request ::ₘ rest)
      (checked : validateConnectorResponse response s.clock = .ok ()) :
      Moves world s .answer { s with calls := .answered request response ::ₘ rest }
  | draw {request : IssueRequest} {response : WebSSHTicketResponse} {rest : Multiset Call}
      {browserRaw connectionRaw : Bytes} (runs : s.calls = .answered request response ::ₘ rest)
      (lengths : browserRaw.length = 32 ∧ connectionRaw.length = 16)
      (unexpired : s.clock <
        Issuance.expiresAt world.gateway ⟨request, response, browserRaw, connectionRaw, s.clock⟩) :
      Moves world s .draw
        { s with
          calls := .storing ⟨request, response, browserRaw, connectionRaw, s.clock⟩ ::ₘ rest }
  /-- The Connector fails, its answer is invalid or has expired, or no bytes can be drawn. -/
  | fail {call : Call} {rest : Multiset Call} (runs : s.calls = call ::ₘ rest)
      (early : (∃ request, call = .waiting request) ∨
        ∃ request response, call = .answered request response) :
      Moves world s .fail { s with calls := .leaving false ::ₘ rest }
  | store {issuance : Issuance} {rest : Multiset Call} {desk : BrokerDesk}
      {answer : Except String Unit} (runs : s.calls = .storing issuance ::ₘ rest)
      (stored : (storeTicket world s.clock (world.sha256 issuance.browserRaw)
        (issuance.entry world.gateway)).outcome s.desk = (answer, desk)) :
      Moves world s .store
        { s with desk := desk, calls := .leaving answer.isOk ::ₘ rest }
  | release {stored : Bool} {rest : Multiset Call} (runs : s.calls = .leaving stored ::ₘ rest) :
      Moves world s .release
        { s with issuing := releaseTicketReservation s.issuing, calls := rest }
  | hello (hello : HelloMessage) :
      Moves world s .hello { s with hellos := (hello, s.clock) ::ₘ s.hellos }
  | consume {hello : HelloMessage} {now : Int} {rest : Multiset (HelloMessage × Int)}
      {desk : BrokerDesk} {answer : Except String BrowserTicket}
      (runs : s.hellos = (hello, now) ::ₘ rest)
      (consumed : (Broker.consumeTicket world hello now).outcome s.desk = (answer, desk)) :
      Moves world s .consume { s with desk := desk, hellos := rest }
  | prune : Moves world s .prune { s with desk := s.desk.prune BrowserTicket.expiresAt s.clock }
  | close : Moves world s .close { s with desk := s.desk.close }

/-- A stored ticket counts twice until its reservation is given back, so the bound is on the
reservations without a ticket, and not on `issuing`. A remembered key stands for a ticket that
was stored while fewer than four times the maximum were remembered. -/
structure Invariant (maximum : Nat) (s : State) : Prop where
  issuing : s.issuing = reservations s.calls
  room : s.desk.count + unstored s.calls ≤ maximum
  remembered : s.desk.count + s.desk.remembered < 5 * maximum

theorem Call.unstored_le (call : Call) : call.unstored ≤ call.reservations := by
  cases call with
  | leaving stored => cases stored <;> decide
  | accepted | waiting | answered | storing => exact Nat.le_refl _

theorem unstored_le (calls : Multiset Call) : unstored calls ≤ reservations calls :=
  Multiset.sum_map_le_sum_map _ _ fun call _ => call.unstored_le

@[simp] theorem reservations_cons (call : Call) (rest : Multiset Call) :
    reservations (call ::ₘ rest) = call.reservations + reservations rest := by
  rw [reservations, Multiset.map_cons, Multiset.sum_cons, reservations]

@[simp] theorem unstored_cons (call : Call) (rest : Multiset Call) :
    unstored (call ::ₘ rest) = call.unstored + unstored rest := by
  rw [unstored, Multiset.map_cons, Multiset.sum_cons, unstored]

theorem unstored_pos {calls : Multiset Call} {issuance : Issuance}
    (waits : Call.storing issuance ∈ calls) : 0 < unstored calls := by
  obtain ⟨rest, rfl⟩ := Multiset.exists_cons_of_mem waits
  rw [unstored_cons]
  exact Nat.add_pos_left Nat.one_pos _

variable {maximum : Nat} {now : Int} {before after : BrokerDesk}

theorem invariant_initial (positive : 0 < maximum) (clock : Int) :
    Invariant maximum (initial clock) where
  issuing := rfl
  room := Nat.zero_le _
  remembered := by
    change 0 < 5 * maximum
    omega

theorem reserveTicket_ok {world : World} {issuing reserved : Int}
    (done : (reserveTicket world issuing now).outcome before = (.ok reserved, after)) :
    after = before.prune BrowserTicket.expiresAt now ∧ reserved = issuing + 1 ∧
      after.count + issuing < world.gateway.maxOutstandingTickets := by
  simp only [reserveTicket, Critical.outcome_modify_bind, Critical.outcome_get_bind,
    Critical.outcome_check_ok, ensure_eq_ok, Critical.outcome_pure, Prod.mk.injEq,
    Except.ok.injEq] at done
  obtain ⟨_, ⟨_, room⟩, rfl, rfl⟩ := done
  rw [← Table.size_eq_card_keys] at room
  exact ⟨rfl, rfl, room⟩

theorem reserveTicket_leaves {world : World} {issuing : Int} {answer : Except String Int}
    (done : (reserveTicket world issuing now).outcome before = (answer, after)) :
    after = before.prune BrowserTicket.expiresAt now := by
  simp only [reserveTicket, Critical.outcome_modify_bind, Critical.outcome_get_bind] at done
  rcases Critical.outcome_check_bind done with ⟨same, -⟩ | ⟨_, -, done⟩
  · exact same
  · cases done
    rfl

theorem consumeTicket_sizes {world : World} {hello : HelloMessage}
    {answer : Except String BrowserTicket}
    (consumed : (Broker.consumeTicket world hello now).outcome before = (answer, after)) :
    after.count ≤ before.count ∧
      after.count + after.remembered ≤ before.count + before.remembered := by
  rcases Critical.outcome_check_bind consumed with ⟨rfl, -⟩ | ⟨_, -, consumed⟩
  · exact ⟨Nat.le_refl _, Nat.le_refl _⟩
  · exact Desk.consume_sizes consumed

section Steps

variable {world : World} {s next : State} {action : Action}

theorem Invariant.shrunk (invariant : Invariant maximum s)
    (issuing : next.issuing = reservations next.calls) (tickets : next.desk.count ≤ s.desk.count)
    (fewer : unstored next.calls ≤ unstored s.calls)
    (remembered : next.desk.count + next.desk.remembered ≤ s.desk.count + s.desk.remembered) :
    Invariant maximum next where
  issuing := issuing
  room := (Nat.add_le_add tickets fewer).trans invariant.room
  remembered := remembered.trans_lt invariant.remembered

theorem Invariant.goesOn (invariant : Invariant maximum s) {call other : Call}
    {rest : Multiset Call} (runs : s.calls = call ::ₘ rest)
    (held : other.reservations = call.reservations) (missing : other.unstored = call.unstored) :
    Invariant maximum { s with calls := other ::ₘ rest } := by
  have issuing := invariant.issuing
  refine invariant.shrunk ?_ (Nat.le_refl _) ?_ (Nat.le_refl _)
  · rw [issuing, runs, reservations_cons, reservations_cons, held]
  · rw [runs, unstored_cons, unstored_cons, missing]

theorem Invariant.step (invariant : Invariant world.gateway.maxOutstandingTickets s)
    (moved : Moves world s action next) :
    Invariant world.gateway.maxOutstandingTickets next := by
  have issuing := invariant.issuing
  have room := invariant.room
  have pruned := Desk.count_prune_le BrowserTicket.expiresAt s.clock s.desk
  have forgotten := Desk.remembered_prune_le BrowserTicket.expiresAt s.clock s.desk
  cases moved with
  | tick | hello => exact ⟨issuing, room, invariant.remembered⟩
  | accept checked =>
    refine invariant.shrunk ?_ (Nat.le_refl _) ?_ (Nat.le_refl _)
    · rw [reservations_cons, issuing, Call.reservations, Nat.zero_add]
    · rw [unstored_cons, Call.unstored, Nat.zero_add]
  | @reserve request rest desk reserved runs done =>
    obtain ⟨rfl, rfl, free⟩ := reserveTicket_ok done
    have atMost := unstored_le rest
    simp only [runs, reservations_cons, unstored_cons, Call.reservations, Call.unstored]
      at issuing room
    refine ⟨?_, ?_, ?_⟩
    · simp only [reservations_cons, Call.reservations]
      omega
    · simp only [unstored_cons, Call.unstored]
      omega
    · exact (Nat.add_le_add pruned forgotten).trans_lt invariant.remembered
  | refuse runs refused =>
    obtain rfl := reserveTicket_leaves refused
    simp only [runs, reservations_cons, Call.reservations, Nat.zero_add] at issuing
    refine invariant.shrunk issuing pruned ?_ (Nat.add_le_add pruned forgotten)
    rw [runs, unstored_cons]
    exact Nat.le_add_left _ _
  | answer runs checked => exact invariant.goesOn runs rfl rfl
  | draw runs lengths unexpired => exact invariant.goesOn runs rfl rfl
  | fail runs early =>
    rcases early with ⟨_, rfl⟩ | ⟨_, _, rfl⟩
    · exact invariant.goesOn runs rfl rfl
    · exact invariant.goesOn runs rfl rfl
  | @store issuance rest desk answer runs stored =>
    rcases Desk.store_sizes stored with ⟨rfl, more, -, fewer, bound⟩ | ⟨⟨_, rfl⟩, rfl, -⟩
    · -- The reservation's place is taken by the ticket.
      simp only [runs, reservations_cons, unstored_cons, Call.reservations, Call.unstored]
        at issuing room
      refine ⟨?_, ?_, ?_⟩
      · simp only [reservations_cons, Call.reservations]
        exact issuing
      · change desk.count + unstored (.leaving true ::ₘ rest) ≤ _
        rw [unstored_cons, Call.unstored]
        omega
      · dsimp only
        omega
    · have kept : Invariant world.gateway.maxOutstandingTickets
          { s with calls := .leaving false ::ₘ rest } := invariant.goesOn runs rfl rfl
      exact kept.shrunk kept.issuing pruned (Nat.le_refl _) (Nat.add_le_add pruned forgotten)
  | release runs =>
    simp only [runs, reservations_cons, Call.reservations] at issuing
    refine invariant.shrunk ?_ (Nat.le_refl _) ?_ (Nat.le_refl _)
    · change releaseTicketReservation s.issuing = _
      rw [releaseTicketReservation, if_pos (by omega)]
      dsimp only
      omega
    · rw [runs, unstored_cons]
      exact Nat.le_add_left _ _
  | consume runs consumed =>
    obtain ⟨fewer, sum⟩ := consumeTicket_sizes consumed
    exact invariant.shrunk issuing fewer (Nat.le_refl _) sum
  | prune =>
    exact invariant.shrunk issuing pruned (Nat.le_refl _) (Nat.add_le_add pruned forgotten)
  | close =>
    have fewer := s.desk.count_close_le
    refine invariant.shrunk issuing fewer (Nat.le_refl _) ?_
    exact Nat.add_le_add fewer s.desk.remembered_close.le

end Steps

theorem maxOutstandingTickets_pos {configured : Int}
    (valid : maxOutstandingTickets configured = .ok maximum) : 0 < maximum := by
  simp only [maxOutstandingTickets, setIntDefault, defaultMaxTickets, bind_eq_ok, pure_eq_ok]
    at valid
  obtain ⟨_, -, rfl⟩ := valid
  split <;> omega

/-- In every run the tickets and the reservations without a ticket are within the maximum; the
gateway counts exactly the reservations that are held; a call with a reservation finds room for
its ticket, so that it is refused only for another reason; and fewer than five times the maximum
are remembered. -/
theorem broker_capacity_exact {configured : Int} {world : World} {clock : Int}
    {actions : List Action} {s : State}
    (valid : maxOutstandingTickets configured = .ok world.gateway.maxOutstandingTickets)
    (ran : Run (Moves world) anyAction (initial clock) actions s) :
    s.desk.count + unstored s.calls ≤ world.gateway.maxOutstandingTickets ∧
      0 ≤ s.issuing ∧ s.issuing = reservations s.calls ∧
      (∀ issuance, .storing issuance ∈ s.calls → ∀ now failure desk,
        (storeTicket world now (world.sha256 issuance.browserRaw)
            (issuance.entry world.gateway)).outcome s.desk = (.error failure, desk) →
          desk.count < world.gateway.maxOutstandingTickets ∧
            (desk.closed = true ∨ world.gateway.maxOutstandingTickets * 4 ≤ desk.remembered ∨
              world.sha256 issuance.browserRaw ∈ desk.tickets)) ∧
      s.desk.remembered < 5 * world.gateway.maxOutstandingTickets := by
  have invariant : Invariant world.gateway.maxOutstandingTickets s :=
    ran.keeps (fun _ _ _ _ moved before => before.step moved)
      (invariant_initial (maxOutstandingTickets_pos valid) clock)
  have room := invariant.room
  have issuing := invariant.issuing
  have remembered := invariant.remembered
  refine ⟨room, by omega, issuing, ?_, by omega⟩
  intro issuance waits now failure desk refused
  have waiting := unstored_pos waits
  have pruned := Desk.count_prune_le BrowserTicket.expiresAt now s.desk
  rcases Desk.store_sizes refused with ⟨granted, -⟩ | ⟨-, rfl, why⟩
  · cases granted
  · have free : (s.desk.prune BrowserTicket.expiresAt now).count <
        world.gateway.maxOutstandingTickets := by omega
    refine ⟨free, why.imp_right fun others => others.resolve_left ?_⟩
    omega

def sampleDesk : BrokerDesk :=
  Desk.empty.put rfl (List.replicate 32 3) (sampleIssuance.entry sampleWorld.gateway)

/-- The first call has stored its ticket and still holds its reservation. -/
def storedState : State := ⟨sampleDesk, 1, 0, {.leaving true}, 0⟩

theorem storedState_run :
    ∃ actions, Run (Moves sampleWorld) anyAction (initial 0) actions storedState := by
  have ran : Run (Moves sampleWorld) anyAction (initial 0) [] (initial 0) := .start
  have ran := ran.take .accept trivial (.accept sampleIssue_accepted)
  have ran := ran.take .reserve trivial (@Moves.reserve _ _ sampleIssue 0 _ _ rfl rfl)
  have ran := ran.take .answer trivial
    (@Moves.answer _ _ sampleIssue sampleIssuance.response 0 rfl rfl)
  have ran := ran.take .draw trivial
    (@Moves.draw _ _ sampleIssue sampleIssuance.response 0 sampleIssuance.browserRaw
      sampleIssuance.connectionRaw rfl ⟨rfl, rfl⟩ (by decide))
  have ran := ran.take .store trivial (@Moves.store _ _ sampleIssuance 0 _ _ rfl rfl)
  exact ⟨_, ran⟩

/-- A ticket that was stored and consumed, while its reservation is still held. -/
theorem consumed_before_release :
    maxOutstandingTickets 16 = .ok sampleWorld.gateway.maxOutstandingTickets ∧
      ∃ actions s, Run (Moves sampleWorld) anyAction (initial 0) actions s ∧
        s.issuing = 1 ∧ s.desk.remembered = 1 ∧ unstored s.calls = 0 ∧
        s.desk.remembered < 5 * sampleWorld.gateway.maxOutstandingTickets := by
  have valid : maxOutstandingTickets 16 = .ok sampleWorld.gateway.maxOutstandingTickets := by
    decide
  refine ⟨valid, ?_⟩
  obtain ⟨_, ran⟩ := storedState_run
  have ran := ran.take .tick trivial (@Moves.tick _ _ 1 (by decide))
  have ran := ran.take .hello trivial (.hello sampleHello)
  have ran := ran.take .consume trivial
    (@Moves.consume _ _ sampleHello 1 0 _ _ rfl (sampleHello_consumed rfl))
  exact ⟨_, _, ran, rfl, rfl, rfl, (broker_capacity_exact valid ran).2.2.2.2⟩

/-- No call is about to store a ticket under the hash. -/
def Undrawn (world : World) (hash : Bytes) (s : State) (_ : Action) : Prop :=
  ∀ issuance, .storing issuance ∈ s.calls → world.sha256 issuance.browserRaw ≠ hash

section Steps

variable {world : World} {s next : State} {action : Action} {hash : Bytes}

theorem consumeTicket_mem {hello : HelloMessage} {answer : Except String BrowserTicket}
    (consumed : (Broker.consumeTicket world hello now).outcome before = (answer, after)) :
    (∀ hash ∈ after.tickets, hash ∈ before.tickets) ∧ after.closed = before.closed := by
  rcases Critical.outcome_check_bind consumed with ⟨rfl, -⟩ | ⟨_, -, consumed⟩
  · exact ⟨fun _ => id, rfl⟩
  · have left := Desk.consume_mem consumed
    exact ⟨fun hash inside => (left.1 hash inside).2, left.2⟩

/-- What a step may add to the tickets is what a call was about to store. -/
theorem Moves.tickets (moved : Moves world s action next) (inside : hash ∈ next.desk.tickets) :
    hash ∈ s.desk.tickets ∨ ¬ Undrawn world hash s action := by
  cases moved with
  | reserve _ done =>
    obtain ⟨rfl, -⟩ := reserveTicket_ok done
    exact .inl (Desk.mem_of_mem_prune inside)
  | refuse _ done =>
    obtain rfl := reserveTicket_leaves done
    exact .inl (Desk.mem_of_mem_prune inside)
  | @store issuance rest _ _ runs stored =>
    rcases (Desk.store_mem stored).1 _ inside with rfl | old
    · refine .inr fun undrawn => undrawn issuance ?_ rfl
      rw [runs]
      exact Multiset.mem_cons_self _ _
    · exact .inl old
  | consume _ consumed => exact .inl ((consumeTicket_mem consumed).1 _ inside)
  | prune => exact .inl (Desk.mem_of_mem_prune inside)
  | close => exact .inl (Desk.mem_of_mem_close inside)
  | _ => exact .inl inside

theorem Moves.closed (moved : Moves world s action next) (closed : s.desk.closed = true) :
    next.desk.closed = true := by
  cases moved with
  | reserve _ done =>
    obtain ⟨rfl, -⟩ := reserveTicket_ok done
    exact closed
  | refuse _ done =>
    obtain rfl := reserveTicket_leaves done
    exact closed
  | store _ stored => exact (Desk.store_mem stored).2.trans closed
  | consume _ consumed => exact (consumeTicket_mem consumed).2.trans closed
  | close =>
    rw [Desk.close, if_pos closed]
    exact closed
  | _ => exact closed

theorem consumeTicket_decoded (world : World) (now : Int) (desk : BrokerDesk)
    {hello : HelloMessage} {raw : Bytes} (decoded : decodeBytes 32 hello.ticket = some raw) :
    ∃ agrees, (Broker.consumeTicket world hello now).outcome desk =
      (Desk.consume BrowserTicket.expiresAt refusals now
        (now + world.gateway.ticketTTL) (world.sha256 raw) agrees).outcome desk := by
  have passed : orError (decodeBytes 32 hello.ticket) refusals.unknown = .ok raw :=
    (orError_eq_ok _ _ _).mpr decoded
  exact ⟨_, Critical.outcome_passed passed⟩

theorem consumeTicket_absent {hello : HelloMessage} {desk : BrokerDesk}
    (absent : ∀ raw, decodeBytes 32 hello.ticket = some raw → world.sha256 raw ∉ desk.tickets) :
    ∃ failure, ((Broker.consumeTicket world hello now).outcome desk).1 = .error failure := by
  cases decoded : decodeBytes 32 hello.ticket with
  | none =>
    have failed : orError (decodeBytes 32 hello.ticket) refusals.unknown =
        .error refusals.unknown := by
      rw [decoded]
      rfl
    rw [Broker.consumeTicket, Critical.outcome_failed failed]
    exact ⟨_, rfl⟩
  | some raw =>
    obtain ⟨agrees, same⟩ := consumeTicket_decoded world now desk decoded
    rw [same]
    exact Desk.consume_absent (absent raw decoded)

end Steps

/-- After one request for a ticket, whatever its answer, no later request is given it, unless
its random bytes are drawn once more. -/
theorem ticket_given_once {world : World} {start s : State} {actions : List Action}
    {hello again : HelloMessage} {raw : Bytes} {read later : Int} {desk : BrokerDesk}
    {answer : Except String BrowserTicket} (decoded : decodeBytes 32 hello.ticket = some raw)
    (asked : (Broker.consumeTicket world hello read).outcome start.desk = (answer, desk))
    (ran : Run (Moves world) (Undrawn world (world.sha256 raw)) { start with desk := desk }
      actions s) (same : decodeBytes 32 again.ticket = some raw) :
    ∃ failure, ((Broker.consumeTicket world again later).outcome s.desk).1 = .error failure := by
  apply consumeTicket_absent
  intro bytes bytesDecoded
  obtain rfl : raw = bytes := Option.some.inj (same.symm.trans bytesDecoded)
  induction ran with
  | start =>
    obtain ⟨agrees, unfolded⟩ := consumeTicket_decoded world read start.desk decoded
    rw [unfolded] at asked
    exact fun inside => ((Desk.consume_mem asked).1 _ inside).1 rfl
  | take _ _ undrawn moved gone =>
    intro inside
    rcases moved.tickets inside with there | drawn
    · exact gone there
    · exact drawn undrawn

/-- The ticket is handed out, and its second use refused. -/
theorem sampleHello_given_once :
    ∃ desk after : BrokerDesk,
      (Broker.consumeTicket sampleWorld sampleHello 1).outcome desk =
        (.ok (sampleIssuance.entry sampleWorld.gateway), after) ∧
      ∃ failure, ((Broker.consumeTicket sampleWorld sampleHello 2).outcome
        (after.prune BrowserTicket.expiresAt 0)).1 = .error failure := by
  have asked := @sampleHello_consumed sampleDesk rfl
  have decoded : decodeBytes 32 sampleHello.ticket = some (List.replicate 32 3) :=
    decodeBytes_rawURLEncode rfl
  refine ⟨sampleDesk, _, asked, ?_⟩
  have ran : Run (Moves sampleWorld) (Undrawn sampleWorld (List.replicate 32 3))
      ⟨(sampleDesk.prune BrowserTicket.expiresAt 1).withdraw (List.replicate 32 3)
        (1 + 30 * second), 0, 0, 0, 0⟩ [] _ := .start
  have ran := ran.take .prune (fun _ inside => absurd inside (Multiset.notMem_zero _)) .prune
  exact @ticket_given_once _ ⟨sampleDesk, 0, 0, 0, 0⟩ _ _ _ _ _ _ _ _ _ decoded asked ran decoded

/-- From `Close` on the broker holds no ticket and gives none out, whatever the calls that
were under way still do. -/
theorem closed_stays_empty {world : World} {start s : State} {actions : List Action}
    (ran : Run (Moves world) anyAction { start with desk := start.desk.close } actions s) :
    s.desk.tickets = ∅ ∧
      ∀ hello now, ∃ failure,
        ((Broker.consumeTicket world hello now).outcome s.desk).1 = .error failure := by
  have closed : s.desk.closed = true := by
    induction ran with
    | start => exact Desk.closed_close _
    | take _ _ _ moved before => exact moved.closed before
  have none : s.desk.tickets = ∅ := s.desk.emptied closed
  refine ⟨none, fun hello now => ?_⟩
  apply consumeTicket_absent
  intro raw _
  rw [none]
  exact Finmap.notMem_empty

/-- Another call at the same time, with bytes of its own. -/
def otherIssuance : Issuance := { sampleIssuance with browserRaw := List.replicate 32 5 }

/-- One ticket is stored, and a second call is about to store its own. -/
def openState : State := ⟨sampleDesk, 1, 0, {.storing otherIssuance}, 0⟩

theorem openState_run :
    ∃ actions, Run (Moves sampleWorld) anyAction (initial 0) actions openState := by
  obtain ⟨_, ran⟩ := storedState_run
  have ran := ran.take .release trivial (@Moves.release _ _ true 0 rfl)
  have ran := ran.take .accept trivial (.accept sampleIssue_accepted)
  have ran := ran.take .reserve trivial (@Moves.reserve _ _ sampleIssue 0 _ _ rfl rfl)
  have ran := ran.take .answer trivial
    (@Moves.answer _ _ sampleIssue sampleIssuance.response 0 rfl rfl)
  have ran := ran.take .draw trivial
    (@Moves.draw _ _ sampleIssue sampleIssuance.response 0 otherIssuance.browserRaw
      otherIssuance.connectionRaw rfl ⟨rfl, rfl⟩ (by decide))
  exact ⟨_, ran⟩

/-- Closed in that state, the call stores nothing, and the browser that comes with the
first ticket is refused. -/
theorem sampleIssue_after_close :
    (∃ actions, Run (Moves sampleWorld) anyAction (initial 0) actions openState) ∧
    ∃ actions s,
      Run (Moves sampleWorld) anyAction { openState with desk := openState.desk.close } actions s ∧
      s.calls = {.leaving false} ∧ s.hellos = {(sampleHello, 0)} ∧ s.desk.tickets = ∅ ∧
      ∃ failure, ((Broker.consumeTicket sampleWorld sampleHello 0).outcome s.desk).1 =
        .error failure := by
  have ran : Run (Moves sampleWorld) anyAction { openState with desk := openState.desk.close }
    [] _ := .start
  have ran := ran.take .store trivial (@Moves.store _ _ otherIssuance 0 _ _ rfl rfl)
  have ran := ran.take .hello trivial (.hello sampleHello)
  obtain ⟨empty, refused⟩ := closed_stays_empty ran
  exact ⟨openState_run, _, _, ran, rfl, rfl, empty, refused sampleHello 0⟩

end VpsManager.Terminal.Capacity

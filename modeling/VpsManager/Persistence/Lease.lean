import VpsManager.Persistence.Coordinator

/- Leases over Redis as their holders see them. Redis runs a command at one instant and
the client sees the reply at a later one, at which it also reads the clock for the expiry
of the lease. -/
namespace VpsManager.Persistence

open Go Checks Machine Redis

/-- A lease as its holder sees it, from the SET NX that succeeded on. -/
structure Hold where
  resource : String
  key : String
  /-- What the last reply seen gave for `ExpiresAt`. -/
  expiresAt : Option Int
  /-- Whether a release has deleted the key. -/
  released : Bool

/-- What a client has asked for. -/
inductive Request
  | acquire (resource token : String)
  | renew (lease : Lease)

def Request.token : Request → String
  | .acquire _ token => token
  | .renew lease => lease.token

/-- A reply that grants a lease and has not been seen yet. -/
structure Flight where
  request : Request
  ttl : Int
  executed : Int

def Flight.reply (r : RedisCoordinator) (flight : Flight) (replied : Int) :
    Except CoordinatorError Lease :=
  match flight.request with
  | .acquire resource token => r.acquireReply replied token resource flight.ttl true
  | .renew lease => RedisCoordinator.renewReply replied lease flight.ttl true

structure Clients where
  clock : Int
  keys : Keys
  /-- The successful acquisitions, by their tokens. -/
  holds : String → Option Hold
  flights : List Flight

inductive ClientAction
  | tick (now : Int)
  | acquire (resource owner token : String) (ttl : Int)
  | renew (lease : Lease) (ttl : Int)
  | release (lease : Lease)
  | seen (flight : Flight)

def Clients.initial (clock : Int) : Clients := ⟨clock, fun _ => none, fun _ => none, []⟩

/-- A lease that a call has returned to its holder, the last or an earlier one. -/
def InHand (s : Clients) (lease : Lease) (hold : Hold) : Prop :=
  s.holds lease.token = some hold ∧ hold.key = lease.key ∧ hold.expiresAt ≠ none

inductive ClientStep (r : RedisCoordinator) : Clients → ClientAction → Clients → Prop
  | tick {s : Clients} {now : Int} (later : s.clock ≤ now) :
      ClientStep r s (.tick now) { s with clock := now }
  | acquired {s : Clients} {resource owner token : String} {ttl : Int} {keys : Keys}
      (valid : validateCoordinatorInput resource owner ttl = .ok ())
      (fresh : s.holds token = none)
      (created : r.acquireCommand s.clock token resource ttl s.keys = (true, keys)) :
      ClientStep r s (.acquire resource owner token ttl)
        { s with
          keys := keys
          holds := Function.update s.holds token
            (some ⟨resource, r.key "lease" resource, none, false⟩)
          flights := ⟨.acquire resource token, ttl, s.clock⟩ :: s.flights }
  | refused {s : Clients} {resource owner token : String} {ttl : Int} {keys : Keys}
      (valid : validateCoordinatorInput resource owner ttl = .ok ())
      (held : r.acquireCommand s.clock token resource ttl s.keys = (false, keys)) :
      ClientStep r s (.acquire resource owner token ttl) { s with keys := keys }
  | renewed {s : Clients} {lease : Lease} {hold : Hold} {ttl : Int} {keys : Keys}
      (inHand : InHand s lease hold)
      (range : LifetimeRange ttl)
      (success : RedisCoordinator.renewCommand s.clock lease ttl s.keys = (true, keys)) :
      ClientStep r s (.renew lease ttl)
        { s with keys := keys, flights := ⟨.renew lease, ttl, s.clock⟩ :: s.flights }
  | renewalLost {s : Clients} {lease : Lease} {hold : Hold} {ttl : Int} {keys : Keys}
      (inHand : InHand s lease hold)
      (range : LifetimeRange ttl)
      (failure : RedisCoordinator.renewCommand s.clock lease ttl s.keys = (false, keys)) :
      ClientStep r s (.renew lease ttl) { s with keys := keys }
  | released {s : Clients} {lease : Lease} {hold : Hold} {keys : Keys}
      (inHand : InHand s lease hold)
      (success : RedisCoordinator.releaseCommand s.clock lease s.keys = (true, keys)) :
      ClientStep r s (.release lease)
        { s with
          keys := keys
          holds := Function.update s.holds lease.token (some { hold with released := true }) }
  | releaseLost {s : Clients} {lease : Lease} {hold : Hold} {keys : Keys}
      (inHand : InHand s lease hold)
      (failure : RedisCoordinator.releaseCommand s.clock lease s.keys = (false, keys)) :
      ClientStep r s (.release lease) { s with keys := keys }
  | seen {s : Clients} {before after : List Flight} {flight : Flight} {lease : Lease} {hold : Hold}
      (onItsWay : s.flights = before ++ flight :: after)
      (granted : flight.reply r s.clock = .ok lease)
      (known : s.holds lease.token = some hold) :
      ClientStep r s (.seen flight)
        { s with
          holds := Function.update s.holds lease.token
            (some { hold with expiresAt := some lease.expires })
          flights := before ++ after }

/-- No two leases of a resource are unreleased and unexpired, as their holders see it. -/
def Exclusive (s : Clients) : Prop :=
  ∀ one other first second, s.holds one = some first → s.holds other = some second →
    one ≠ other → first.resource = second.resource → first.released = false →
    second.released = false → ∀ early late, first.expiresAt = some early →
    second.expiresAt = some late → ¬ (s.clock < early ∧ s.clock < late)

/-- Replies take at most `delay`, a key that has expired is not taken within `delay`, a
lease is renewed after the last reply for it has been seen, and lifetimes are whole
milliseconds. -/
def Prompt (r : RedisCoordinator) (delay : Int) (s : Clients) : ClientAction → Prop
  | .tick now => ∀ flight ∈ s.flights, now ≤ flight.executed + delay
  | .acquire resource _ _ ttl =>
    WholeMilliseconds ttl ∧ ∀ entry, s.keys (r.key "lease" resource) = some entry →
      s.clock < entry.expires ∨ entry.expires + delay ≤ s.clock
  | .renew lease ttl =>
    WholeMilliseconds ttl ∧ ∀ flight ∈ s.flights, flight.request.token ≠ lease.token
  | _ => True

variable {ttl : Int}

section Invariant

variable {r : RedisCoordinator} {delay : Int} {s next : Clients} {action : ClientAction}

theorem update_eq_some {α : Type} {records : String → Option α} {key other : String}
    {value found : α} :
    Function.update records key (some value) other = some found ↔
      (other = key ∧ found = value) ∨ (other ≠ key ∧ records other = some found) := by
  by_cases same : other = key
  · subst same
    simp [eq_comm]
  · simp [same]

variable {flight : Flight} {lease : Lease} {hold : Hold}

theorem reply_eq_ok {replied : Int} (granted : flight.reply r replied = .ok lease) :
    lease.token = flight.request.token ∧ lease.expires = replied + flight.ttl := by
  unfold Flight.reply at granted
  cases request : flight.request with
  | acquire resource token =>
    rw [request] at granted
    cases granted
    exact ⟨rfl, rfl⟩
  | renew renewed =>
    rw [request] at granted
    cases granted
    exact ⟨rfl, rfl⟩

/-- The holder of a token has the key: with a reply on its way, the key lives as long as
the reply will say, counted from the command; else at most `delay` less than the holder
believes. -/
structure Owns (delay : Int) (s : Clients) (token : String) (hold : Hold) (expires : Int) :
    Prop where
  key : s.keys hold.key = some ⟨token, expires⟩
  pending : ∀ flight ∈ s.flights, flight.request.token = token →
    expires = flight.executed + flight.ttl
  settled : (∀ flight ∈ s.flights, flight.request.token ≠ token) →
    ∀ early, hold.expiresAt = some early → early ≤ expires + delay

/-- The holder of a token no longer has the key, and its lease has expired. -/
structure Gone (s : Clients) (token : String) (hold : Hold) : Prop where
  lost : ∀ expires, s.keys hold.key ≠ some ⟨token, expires⟩
  expired : ∀ early, hold.expiresAt = some early → early ≤ s.clock
  settled : ∀ flight ∈ s.flights, flight.request.token ≠ token

structure PromptState (r : RedisCoordinator) (delay : Int) (s : Clients) : Prop where
  place : ∀ token hold, s.holds token = some hold → hold.key = r.key "lease" hold.resource
  holds : ∀ token hold, s.holds token = some hold → hold.released = false →
    (∃ expires, Owns delay s token hold expires) ∨ Gone s token hold
  /-- A key is held under the token of a lease. -/
  tokens : ∀ key entry, s.keys key = some entry →
    ∃ hold, s.holds entry.value = some hold ∧ hold.key = key
  flights : ∀ flight ∈ s.flights, (∃ hold, s.holds flight.request.token = some hold) ∧
    s.clock ≤ flight.executed + delay ∧ LifetimeRange flight.ttl
  single : (s.flights.map fun flight => flight.request.token).Nodup

theorem PromptState.exclusive (state : PromptState r delay s) : Exclusive s := by
  intro one other first second known found differ resource unreleased open' early late seen shown
    both
  rcases state.holds one first known unreleased with ⟨expires, owns⟩ | gone
  · rcases state.holds other second found open' with ⟨_, fellow⟩ | gone
    · have keys : first.key = second.key := by
        rw [state.place one first known, state.place other second found, resource]
      have same := owns.key.symm.trans (keys ▸ fellow.key)
      exact differ (congrArg Entry.value (Option.some.inj same))
    · exact absurd both.2 (not_lt.mpr (gone.expired late shown))
  · exact absurd both.1 (not_lt.mpr (gone.expired early seen))

theorem Owns.transfer {token : String} {expires : Int} (owns : Owns delay s token hold expires)
    (key : next.keys hold.key = s.keys hold.key)
    (flights : ∀ flight : Flight, flight.request.token = token →
      (flight ∈ next.flights ↔ flight ∈ s.flights)) : Owns delay next token hold expires where
  key := key.trans owns.key
  pending flight member same := owns.pending flight ((flights flight same).mp member) same
  settled none := by
    refine owns.settled ?_
    intro flight member same
    exact none flight ((flights flight same).mpr member) same

theorem Gone.transfer {token : String} (gone : Gone s token hold) (passed : s.clock ≤ next.clock)
    (lost : ∀ expires, next.keys hold.key ≠ some ⟨token, expires⟩)
    (flights : ∀ flight : Flight, flight.request.token = token →
      (flight ∈ next.flights ↔ flight ∈ s.flights)) : Gone next token hold where
  lost := lost
  expired early seen := (gone.expired early seen).trans passed
  settled flight member same := gone.settled flight ((flights flight same).mp member) same

theorem mem_cons_of_other {token : String} {flights : List Flight}
    (other : flight.request.token ≠ token) :
    ∀ fellow : Flight, fellow.request.token = token →
      (fellow ∈ flight :: flights ↔ fellow ∈ flights) := by
  intro fellow same
  rw [List.mem_cons, or_iff_right]
  rintro rfl
  exact other same

theorem PromptState.tick {now : Int} (state : PromptState r delay s) (later : s.clock ≤ now)
    (prompt : ∀ flight ∈ s.flights, now ≤ flight.executed + delay) :
    PromptState r delay { s with clock := now } where
  place := state.place
  holds token hold known unreleased := by
    rcases state.holds token hold known unreleased with ⟨expires, owns⟩ | gone
    · exact .inl ⟨expires, owns.transfer rfl fun _ _ => Iff.rfl⟩
    · exact .inr (gone.transfer later gone.lost fun _ _ => Iff.rfl)
  tokens := state.tokens
  flights flight member :=
    ⟨(state.flights flight member).1, prompt flight member, (state.flights flight member).2.2⟩
  single := state.single

/-- A key that is free, and has been for `delay`, goes to a new lease. -/
theorem PromptState.acquired {resource token : String} (state : PromptState r delay s)
    (nonneg : 0 ≤ delay) (range : LifetimeRange ttl) (fresh : s.holds token = none)
    (free : ∀ entry, s.keys (r.key "lease" resource) = some entry →
      entry.expires + delay ≤ s.clock) :
    PromptState r delay
      { s with
        keys := Function.update s.keys (r.key "lease" resource) (some ⟨token, s.clock + ttl⟩)
        holds := Function.update s.holds token
          (some ⟨resource, r.key "lease" resource, none, false⟩)
        flights := ⟨.acquire resource token, ttl, s.clock⟩ :: s.flights } := by
  have unused : ∀ flight ∈ s.flights, flight.request.token ≠ token := by
    rintro flight member rfl
    obtain ⟨⟨hold, known⟩, -⟩ := state.flights flight member
    rw [fresh] at known
    cases known
  constructor
  · intro other hold known
    rcases update_eq_some.mp known with ⟨-, rfl⟩ | ⟨-, known⟩
    · rfl
    · exact state.place other hold known
  · intro other hold known unreleased
    rcases update_eq_some.mp known with ⟨rfl, rfl⟩ | ⟨differ, known⟩
    · refine .inl ⟨s.clock + ttl, Function.update_self _ _ _, ?_, ?_⟩
      · intro flight member own
        rcases List.mem_cons.mp member with rfl | member
        · rfl
        · exact absurd own (unused flight member)
      · intro none
        exact absurd rfl (none _ (.head _))
    · have flights := @mem_cons_of_other ⟨.acquire resource token, ttl, s.clock⟩ other s.flights
        differ.symm
      have taken : ∀ expires, Function.update s.keys (r.key "lease" resource)
          (some ⟨token, s.clock + ttl⟩) (r.key "lease" resource) ≠ some ⟨other, expires⟩ := by
        intro expires held
        rw [Function.update_self] at held
        exact differ (congrArg Entry.value (Option.some.inj held)).symm
      rcases state.holds other hold known unreleased with ⟨expires, owns⟩ | gone
      · by_cases same : hold.key = r.key "lease" resource
        · -- the key has been free for longer than a reply takes
          have past := free _ (same ▸ owns.key)
          have settled : ∀ flight ∈ s.flights, flight.request.token ≠ other := by
            intro flight member own
            have lifetime := owns.pending flight member own
            obtain ⟨-, prompt, positive⟩ := state.flights flight member
            have := positive.pos
            dsimp only at past
            omega
          refine .inr ⟨by rw [same]; exact taken, ?_, ?_⟩
          · intro early seen
            exact (owns.settled settled early seen).trans past
          · intro flight member own
            exact settled flight ((flights flight own).mp member) own
        · exact .inl ⟨expires, owns.transfer (Function.update_of_ne same _ _) flights⟩
      · refine .inr (gone.transfer le_rfl ?_ flights)
        intro expires held
        rcases update_eq_some.mp held with ⟨-, entry⟩ | ⟨-, held⟩
        · exact differ (congrArg Entry.value entry)
        · exact gone.lost expires held
  · intro key entry found
    rcases update_eq_some.mp found with ⟨rfl, rfl⟩ | ⟨-, found⟩
    · exact ⟨_, Function.update_self _ _ _, rfl⟩
    · obtain ⟨hold, known, place⟩ := state.tokens key entry found
      have differ : entry.value ≠ token := by
        rintro rfl
        rw [fresh] at known
        cases known
      exact ⟨hold, update_eq_some.mpr (.inr ⟨differ, known⟩), place⟩
  · intro flight member
    rcases List.mem_cons.mp member with rfl | member
    · exact ⟨⟨_, Function.update_self _ _ _⟩, le_add_of_nonneg_right nonneg, range⟩
    · obtain ⟨⟨hold, known⟩, rest⟩ := state.flights flight member
      exact ⟨⟨hold, update_eq_some.mpr (.inr ⟨unused flight member, known⟩)⟩, rest⟩
  · rw [List.map_cons, List.nodup_cons]
    refine ⟨?_, state.single⟩
    intro member
    obtain ⟨flight, member, same⟩ := List.mem_map.mp member
    exact unused flight member same

theorem PromptState.renewed (state : PromptState r delay s) (nonneg : 0 ≤ delay)
    (range : LifetimeRange ttl) (inHand : InHand s lease hold)
    (held : ∃ expires, s.keys lease.key = some ⟨lease.token, expires⟩)
    (settled : ∀ flight ∈ s.flights, flight.request.token ≠ lease.token) :
    PromptState r delay
      { s with
        keys := Function.update s.keys lease.key (some ⟨lease.token, s.clock + ttl⟩)
        flights := ⟨.renew lease, ttl, s.clock⟩ :: s.flights } where
  place := state.place
  holds other fellow known unreleased := by
    obtain ⟨expires, held⟩ := held
    by_cases own : other = lease.token
    · subst own
      obtain rfl := Option.some.inj (known.symm.trans inHand.1)
      refine .inl ⟨s.clock + ttl, ?_, ?_, ?_⟩
      · rw [inHand.2.1]
        exact Function.update_self _ _ _
      · intro flight member same
        rcases List.mem_cons.mp member with rfl | member
        · rfl
        · exact absurd same (settled flight member)
      · intro none
        exact absurd rfl (none _ (.head _))
    · have flights := @mem_cons_of_other ⟨.renew lease, ttl, s.clock⟩ other s.flights
        (fun same => own same.symm)
      rcases state.holds other fellow known unreleased with ⟨expires, owns⟩ | gone
      · have elsewhere : fellow.key ≠ lease.key := by
          intro same
          have key := owns.key
          rw [same, held] at key
          exact own (congrArg Entry.value (Option.some.inj key)).symm
        exact .inl ⟨expires, owns.transfer (Function.update_of_ne elsewhere _ _) flights⟩
      · refine .inr (gone.transfer le_rfl ?_ flights)
        intro expires found
        rcases update_eq_some.mp found with ⟨-, entry⟩ | ⟨-, found⟩
        · exact own (congrArg Entry.value entry)
        · exact gone.lost expires found
  tokens key entry found := by
    rcases update_eq_some.mp found with ⟨rfl, rfl⟩ | ⟨-, found⟩
    · exact ⟨hold, inHand.1, inHand.2.1⟩
    · exact state.tokens key entry found
  flights flight member := by
    rcases List.mem_cons.mp member with rfl | member
    · exact ⟨⟨hold, inHand.1⟩, le_add_of_nonneg_right nonneg, range⟩
    · exact state.flights flight member
  single := by
    rw [List.map_cons, List.nodup_cons]
    refine ⟨?_, state.single⟩
    intro member
    obtain ⟨flight, member, same⟩ := List.mem_map.mp member
    exact settled flight member same

theorem PromptState.released (state : PromptState r delay s) (inHand : InHand s lease hold)
    (held : ∃ expires, s.keys lease.key = some ⟨lease.token, expires⟩) :
    PromptState r delay
      { s with
        keys := Function.update s.keys lease.key none
        holds := Function.update s.holds lease.token (some { hold with released := true }) } where
  place other fellow known := by
    rcases update_eq_some.mp known with ⟨-, rfl⟩ | ⟨-, known⟩
    · exact state.place lease.token hold inHand.1
    · exact state.place other fellow known
  holds other fellow known unreleased := by
    obtain ⟨expires, held⟩ := held
    rcases update_eq_some.mp known with ⟨-, rfl⟩ | ⟨differ, known⟩
    · cases unreleased
    · rcases state.holds other fellow known unreleased with ⟨expires, owns⟩ | gone
      · have elsewhere : fellow.key ≠ lease.key := by
          intro same
          have key := owns.key
          rw [same, held] at key
          exact differ (congrArg Entry.value (Option.some.inj key)).symm
        exact .inl ⟨expires, owns.transfer (Function.update_of_ne elsewhere _ _) fun _ _ => Iff.rfl⟩
      · refine .inr (gone.transfer le_rfl ?_ fun _ _ => Iff.rfl)
        intro expires found
        by_cases same : fellow.key = lease.key
        · rw [same] at found
          cases (Function.update_self lease.key none s.keys).symm.trans found
        · exact gone.lost expires ((Function.update_of_ne same _ _).symm.trans found)
  tokens key entry found := by
    have elsewhere : key ≠ lease.key := by
      rintro rfl
      cases (Function.update_self lease.key none s.keys).symm.trans found
    obtain ⟨fellow, known, place⟩ :=
      state.tokens key entry ((Function.update_of_ne elsewhere _ _).symm.trans found)
    by_cases own : entry.value = lease.token
    · rw [own] at known ⊢
      obtain rfl := Option.some.inj (known.symm.trans inHand.1)
      exact ⟨_, Function.update_self _ _ _, place⟩
    · exact ⟨fellow, update_eq_some.mpr (.inr ⟨own, known⟩), place⟩
  flights flight member := by
    obtain ⟨⟨fellow, known⟩, rest⟩ := state.flights flight member
    refine ⟨?_, rest⟩
    by_cases own : flight.request.token = lease.token
    · rw [own]
      exact ⟨_, Function.update_self _ _ _⟩
    · exact ⟨fellow, update_eq_some.mpr (.inr ⟨own, known⟩)⟩
  single := state.single

/-- A reply is seen at most `delay` after its command. -/
theorem PromptState.seen {before after : List Flight} (state : PromptState r delay s)
    (onItsWay : s.flights = before ++ flight :: after)
    (known : s.holds flight.request.token = some hold) :
    PromptState r delay
      { s with
        holds := Function.update s.holds flight.request.token
          (some { hold with expiresAt := some (s.clock + flight.ttl) })
        flights := before ++ after } := by
  have here : flight ∈ s.flights := by
    rw [onItsWay]
    exact List.mem_append_right _ (.head _)
  have fewer : ∀ fellow ∈ before ++ after, fellow ∈ s.flights := by
    intro fellow member
    rw [onItsWay]
    rcases List.mem_append.mp member with member | member
    · exact List.mem_append_left _ member
    · exact List.mem_append_right _ (.tail _ member)
  have single := state.single
  rw [onItsWay, List.map_append, List.map_cons, List.nodup_middle, List.nodup_cons,
    ← List.map_append] at single
  have only : ∀ fellow ∈ before ++ after, fellow.request.token ≠ flight.request.token := by
    intro fellow member same
    exact single.1 (List.mem_map.mpr ⟨fellow, member, same⟩)
  constructor
  · intro other fellow found
    rcases update_eq_some.mp found with ⟨-, rfl⟩ | ⟨-, found⟩
    · exact state.place _ hold known
    · exact state.place other fellow found
  · intro other fellow found unreleased
    rcases update_eq_some.mp found with ⟨rfl, rfl⟩ | ⟨differ, found⟩
    · rcases state.holds _ hold known unreleased with ⟨expires, owns⟩ | gone
      · refine .inl ⟨expires, owns.key, ?_, ?_⟩
        · intro fellow member same
          exact absurd same (only fellow member)
        · rintro - early ⟨⟩
          have lifetime := owns.pending flight here rfl
          have prompt := (state.flights flight here).2.1
          omega
      · exact absurd rfl (gone.settled flight here)
    · have flights : ∀ fellow : Flight, fellow.request.token = other →
          (fellow ∈ before ++ after ↔ fellow ∈ s.flights) := by
        intro fellow same
        refine ⟨fewer fellow, ?_⟩
        rw [onItsWay, List.mem_append, List.mem_cons, List.mem_append]
        rintro (member | rfl | member)
        · exact .inl member
        · exact absurd same.symm differ
        · exact .inr member
      rcases state.holds other fellow found unreleased with ⟨expires, owns⟩ | gone
      · exact .inl ⟨expires, owns.transfer rfl flights⟩
      · exact .inr (gone.transfer le_rfl gone.lost flights)
  · intro key entry found
    obtain ⟨fellow, stored, place⟩ := state.tokens key entry found
    by_cases own : entry.value = flight.request.token
    · rw [own] at stored ⊢
      obtain rfl := Option.some.inj (stored.symm.trans known)
      exact ⟨_, Function.update_self _ _ _, place⟩
    · exact ⟨fellow, update_eq_some.mpr (.inr ⟨own, stored⟩), place⟩
  · intro fellow member
    obtain ⟨⟨stored, present⟩, rest⟩ := state.flights fellow (fewer fellow member)
    exact ⟨⟨stored, update_eq_some.mpr (.inr ⟨only fellow member, present⟩)⟩, rest⟩
  · exact single.2

theorem PromptState.step (state : PromptState r delay s) (nonneg : 0 ≤ delay)
    (prompt : Prompt r delay s action) (step : ClientStep r s action next) :
    PromptState r delay next := by
  cases step with
  | tick later => exact state.tick later prompt
  | @acquired resource owner token ttl keys valid fresh created =>
    obtain ⟨whole, free⟩ := prompt
    rw [RedisCoordinator.acquireCommand, setNX] at created
    split at created
    · cases created
    · rename_i absent
      cases created
      rw [Redis.set, milliseconds_of_whole whole]
      refine state.acquired nonneg (lifetime_of_valid valid) fresh ?_
      intro entry found
      have expired := present_eq_false.mp (Bool.eq_false_iff.mpr absent) entry found
      exact (free entry found).resolve_left (not_lt.mpr expired)
  | @refused resource owner token ttl keys valid held =>
    rw [RedisCoordinator.acquireCommand, setNX] at held
    split at held
    · cases held
      exact state
    · cases held
  | @renewed lease hold ttl keys inHand range success =>
    obtain ⟨whole, settled⟩ := prompt
    rw [RedisCoordinator.renewCommand, expireIf] at success
    split at success
    · rename_i held
      cases success
      obtain ⟨expires, held, -⟩ := get_eq_some.mp held
      rw [Redis.set, milliseconds_of_whole whole]
      exact state.renewed nonneg range inHand ⟨expires, held⟩ settled
    · cases success
  | @renewalLost lease hold ttl keys inHand range failure =>
    rw [RedisCoordinator.renewCommand, expireIf] at failure
    split at failure
    · cases failure
    · cases failure
      exact state
  | @released lease hold keys inHand success =>
    rw [RedisCoordinator.releaseCommand, deleteIf] at success
    split at success
    · rename_i held
      cases success
      obtain ⟨expires, held, -⟩ := get_eq_some.mp held
      exact state.released inHand ⟨expires, held⟩
    · cases success
  | @releaseLost lease hold keys inHand failure =>
    rw [RedisCoordinator.releaseCommand, deleteIf] at failure
    split at failure
    · cases failure
    · cases failure
      exact state
  | @seen before after flight lease hold onItsWay granted known =>
    obtain ⟨token, expires⟩ := reply_eq_ok granted
    rw [token] at known ⊢
    rw [expires]
    exact state.seen onItsWay known

theorem promptState_initial (r : RedisCoordinator) (delay clock : Int) :
    PromptState r delay (.initial clock) where
  place _ _ known := nomatch known
  holds _ _ known := nomatch known
  tokens _ _ known := nomatch known
  flights _ member := nomatch member
  single := List.nodup_nil

end Invariant

/-- Leases are exclusive as their holders see them in every run in which replies are
seen within a delay that no key is taken within after its expiry. -/
theorem leases_exclusive (r : RedisCoordinator) (delay : Int) (nonneg : 0 ≤ delay) (clock : Int)
    (actions : List ClientAction) (s : Clients)
    (ran : Run (ClientStep r) (Prompt r delay) (.initial clock) actions s) : Exclusive s := by
  have state : PromptState r delay s := by
    refine ran.keeps ?_ (promptState_initial r delay clock)
    intro s action next prompt step state
    exact state.step nonneg prompt step
  exact state.exclusive

/-- No one renews or releases the lease of the token. -/
def Untouched (token : String) (_ : Clients) : ClientAction → Prop
  | .renew lease _ | .release lease => lease.token ≠ token
  | _ => True

section Protected

variable {r : RedisCoordinator} {s next : Clients} {action : ClientAction} {key token : String}
  {expires : Int}

theorem ClientStep.clock_le (step : ClientStep r s action next) : s.clock ≤ next.clock := by
  cases step with
  | tick later => exact later
  | _ => exact le_rfl

theorem ClientStep.protects (step : ClientStep r s action next) (others : Untouched token s action)
    (held : s.keys key = some ⟨token, expires⟩) (unexpired : s.clock < expires) :
    next.keys key = some ⟨token, expires⟩ := by
  cases step with
  | tick | seen => exact held
  | acquired _ _ done | refused _ done =>
    obtain rfl := congrArg Prod.snd done
    exact (setNX_live held unexpired).trans held
  | renewed _ _ done | renewalLost _ _ done =>
    obtain rfl := congrArg Prod.snd done
    exact (expireIf_frame (ne_of_get held others)).trans held
  | released _ done | releaseLost _ done =>
    obtain rfl := congrArg Prod.snd done
    exact (deleteIf_frame (ne_of_get held others)).trans held

theorem protects_run {start : Clients} {actions : List ClientAction}
    (ran : Run (ClientStep r) (Untouched token) start actions s)
    (held : start.keys key = some ⟨token, expires⟩) :
    expires ≤ s.clock ∨ s.keys key = some ⟨token, expires⟩ := by
  induction ran with
  | start => exact .inr held
  | @take _ s next _ action others step ih =>
    by_cases late : expires ≤ s.clock
    · exact .inl (late.trans step.clock_le)
    · exact .inr (step.protects others (ih.resolve_left late) (not_le.mp late))

end Protected

/-- Until its key expires a lease is its holder's, with any delays: no other client acquires
the resource or disturbs the key, and the holder can renew it and release it. -/
theorem lease_protected {r : RedisCoordinator} {start s : Clients} {actions : List ClientAction}
    {lease : Lease} {expires : Int} (place : lease.key = r.key "lease" lease.resource)
    (held : start.keys lease.key = some ⟨lease.token, expires⟩)
    (ran : Run (ClientStep r) (Untouched lease.token) start actions s)
    (unexpired : s.clock < expires) :
    s.keys lease.key = some ⟨lease.token, expires⟩ ∧
      (∀ token ttl, (r.acquireCommand s.clock token lease.resource ttl s.keys).1 = false) ∧
      (∀ ttl, (RedisCoordinator.renewCommand s.clock lease ttl s.keys).1 = true) ∧
      (RedisCoordinator.releaseCommand s.clock lease s.keys).1 = true := by
  have found := (protects_run ran held).resolve_left (not_le.mpr unexpired)
  have value := get_eq_some.mpr ⟨expires, found, unexpired⟩
  refine ⟨found, ?_, ?_, ?_⟩
  · intro token ttl
    have present : Redis.present s.keys s.clock (r.key "lease" lease.resource) = true := by
      rw [← place]
      exact present_of_held found unexpired
    rw [RedisCoordinator.acquireCommand, setNX, if_pos present]
  · intro ttl
    rw [RedisCoordinator.renewCommand, expireIf, if_pos value]
  · rw [RedisCoordinator.releaseCommand, deleteIf, if_pos value]

theorem acquireCommand_free {r : RedisCoordinator} {now : Int} {token resource : String}
    {keys : Keys}
    (free : ∀ entry, keys (r.key "lease" resource) = some entry → entry.expires ≤ now) :
    r.acquireCommand now token resource ttl keys =
      (true, Redis.set keys now (r.key "lease" resource) token (milliseconds ttl)) := by
  rw [RedisCoordinator.acquireCommand, setNX, present_eq_false.mpr free]
  rfl

section TwoClients

def jobKey : String := sampleRedis.key "lease" "job_1"

/-- The first client has asked for a lease of one second. -/
def asked : Clients where
  clock := 0
  keys := Redis.set (fun _ => none) 0 jobKey "a" (milliseconds second)
  holds := Function.update (fun _ => none) "a" (some ⟨"job_1", jobKey, none, false⟩)
  flights := [⟨.acquire "job_1" "a", second, 0⟩]

def answered (reply : Int) : Clients :=
  { asked with
    clock := reply
    holds := Function.update asked.holds "a" (some ⟨"job_1", jobKey, some (reply + second), false⟩)
    flights := [] }

/-- The second client has asked as soon as the key had expired. -/
def taken (reply : Int) : Clients where
  clock := second
  keys := Redis.set asked.keys second jobKey "b" (milliseconds second)
  holds := Function.update (answered reply).holds "b" (some ⟨"job_1", jobKey, none, false⟩)
  flights := [⟨.acquire "job_1" "b", second, second⟩]

def twoHolders (reply : Int) : Clients :=
  { taken reply with
    holds := Function.update (taken reply).holds "b"
      (some ⟨"job_1", jobKey, some (second + second), false⟩)
    flights := [] }

variable (reply : Int)

theorem validSample : validateCoordinatorInput "job_1" "worker_1" second = .ok () := by
  decide +kernel

theorem asked_expires {entry : Entry} (found : asked.keys jobKey = some entry) :
    entry.expires = second := by
  have stored : asked.keys jobKey = some ⟨"a", 0 + milliseconds second⟩ := by
    simp only [asked, Redis.set, Function.update_self]
  rw [← Option.some.inj (stored.symm.trans found)]
  decide

/-- While the first client waits for the reply, no other is given the resource. -/
theorem asked_protected :
    asked.keys jobKey = some ⟨"a", second⟩ ∧
      ∀ token ttl, (sampleRedis.acquireCommand 1 token "job_1" ttl asked.keys).1 = false := by
  have held : asked.keys jobKey = some ⟨"a", second⟩ := by
    simp only [asked, Redis.set, Function.update_self]
    decide
  have ran : Run (ClientStep sampleRedis) (Untouched "a") asked [] asked := .start
  have ran := ran.take (.tick 1) trivial (.tick (by decide))
  have safe := @lease_protected _ _ _ _ ⟨jobKey, "a", second, "job_1"⟩ second rfl held ran
    (by decide)
  exact ⟨held, safe.2.1⟩

theorem asked_step :
    ClientStep sampleRedis (.initial 0) (.acquire "job_1" "worker_1" "a" second) asked :=
  .acquired validSample rfl (acquireCommand_free nofun)

theorem answered_step :
    ClientStep sampleRedis { asked with clock := reply }
      (.seen ⟨.acquire "job_1" "a", second, 0⟩) (answered reply) := by
  have known : asked.holds "a" = some ⟨"job_1", jobKey, none, false⟩ := rfl
  exact @ClientStep.seen _ { asked with clock := reply } [] [] _
    ⟨jobKey, "a", reply + second, "job_1"⟩ _ rfl rfl known

theorem taken_step :
    ClientStep sampleRedis { answered reply with clock := second }
      (.acquire "job_1" "worker_1" "b" second) (taken reply) := by
  refine .acquired validSample rfl (acquireCommand_free ?_)
  intro entry found
  exact (asked_expires found).le

theorem both_step :
    ClientStep sampleRedis (taken reply) (.seen ⟨.acquire "job_1" "b", second, second⟩)
      (twoHolders reply) := by
  have known : (taken reply).holds "b" = some ⟨"job_1", jobKey, none, false⟩ := rfl
  exact @ClientStep.seen _ (taken reply) [] [] _
    ⟨jobKey, "b", second + second, "job_1"⟩ _ rfl rfl known

end TwoClients

/-- The reply to the first client takes half a second. -/
theorem late_reply_overlaps :
    ¬ ∀ (r : RedisCoordinator) (clock : Int) (actions : List ClientAction) (s : Clients),
        Run (ClientStep r) anyAction (.initial clock) actions s → Exclusive s := by
  intro always
  have ran : Run (ClientStep sampleRedis) anyAction (.initial 0) [] _ := .start
  have ran := ran.take _ trivial asked_step
  have ran := ran.take _ trivial (.tick (by decide : (0 : Int) ≤ second / 2))
  have ran := ran.take _ trivial (answered_step (second / 2))
  have ran := ran.take _ trivial (.tick (by decide : second / 2 ≤ second))
  have ran := ran.take _ trivial (taken_step (second / 2))
  have ran := ran.take _ trivial (both_step (second / 2))
  exact always _ _ _ _ ran "a" "b" _ _ rfl rfl (by decide) rfl rfl rfl _ _ rfl rfl
    ⟨by decide, by decide⟩

/-- Replies are seen at once. -/
theorem prompt_replies_exclude :
    ∃ actions s first second', Run (ClientStep sampleRedis) (Prompt sampleRedis 0) (.initial 0)
        actions s ∧ s.holds "a" = some first ∧ s.holds "b" = some second' ∧ Exclusive s := by
  have ran : Run (ClientStep sampleRedis) (Prompt sampleRedis 0) (.initial 0) [] _ := .start
  have whole : WholeMilliseconds second := rfl
  have ran := ran.take (.acquire _ _ _ _) ⟨whole, nofun⟩ asked_step
  have ran := ran.take (.seen _) trivial (answered_step 0)
  have ran := ran.take (.tick second) nofun (.tick (by decide))
  have expired : ∀ entry, asked.keys jobKey = some entry →
      second < entry.expires ∨ entry.expires + 0 ≤ second := by
    intro entry found
    rw [asked_expires found]
    exact .inr le_rfl
  have ran := ran.take (.acquire "job_1" _ _ _) ⟨whole, expired⟩ (taken_step 0)
  have ran := ran.take (.seen _) trivial (both_step 0)
  exact ⟨_, _, _, _, ran, rfl, rfl, leases_exclusive sampleRedis 0 le_rfl 0 _ _ ran⟩

end VpsManager.Persistence

import VpsManager.Control.Server
import VpsManager.Store.Memory

namespace VpsManager.Control

open Go Checks Critical Store.Memory

/-- The `limit` of the query, which is empty if there is none. -/
def parseLimit (value : String) : Except ApiError Int := do
  if value = "" then return 100
  let refused : ApiError := ⟨400, "validation_error", "limit must be between 1 and 500"⟩
  let parsed ← orError (parseInt64 value) refused
  ensure (1 ≤ parsed ∧ parsed ≤ 500) refused
  return parsed

/-- `event.Details[key].(string)`, empty if the value is no string. -/
def AuditEvent.detailText (event : AuditEvent) (key : String) : String :=
  match (event.details.getD []).find? fun entry => entry.1 == key with
  | some (_, .scalar (.string text)) => text
  | _ => ""

/-- The host an event is about, empty if it is about none. -/
def AuditEvent.hostID (event : AuditEvent) : String :=
  if event.targetType = "host" then event.targetID else event.detailText "hostId"

def visible (principal : Principal) (event : AuditEvent) : Bool :=
  (event.hostID == "" && (principal.allHosts || event.actor == principal.subject)) ||
    (event.hostID != "" && canAccessHost principal event.hostID)

/-- The loop over the events that were read, which stops at a full list. -/
def collectVisible (principal : Principal) (limit : Nat) (filtered : List AuditEvent) :
    List AuditEvent → List AuditEvent
  | [] => filtered
  | event :: events =>
    if limit ≤ filtered.length then filtered
    else if visible principal event then
      collectVisible principal limit (filtered ++ [event]) events
    else collectVisible principal limit filtered events

structure AuditItems where
  status : Nat
  items : List AuditEvent

def listAuditEvents (m : Store.Memory) (principal : Principal) (value : String) :
    Except ApiError AuditItems := do
  let limit ← parseLimit value
  let events ← (outcome (listAudits 500) m).1.mapError writeStoreError
  return ⟨200, collectVisible principal limit.toNat [] events⟩

/-- The stored events as they are read, the newest one last. -/
def auditLog (m : Store.Memory) : List AuditEvent := m.audits.map cloneAudit

theorem cloneAudit_again (event : AuditEvent) :
    cloneAudit (cloneAudit event) = cloneAudit event := by
  cases event with
  | mk _ _ _ _ _ _ _ _ _ details => simp [cloneAudit, sanitizeDetails_again details]

theorem cloneAudit_auditWithRequestID (raw : Bytes) (now : Int) (requestID : String)
    (principal : Principal) (action targetType targetID outcome : String) (details : Details) :
    let event := auditWithRequestID raw now requestID principal action targetType targetID outcome
      details
    cloneAudit event = event := by
  simp [cloneAudit, auditWithRequestID, sanitizeDetails_again]

theorem outcome_listAudits (m : Store.Memory) :
    (outcome (listAudits 500) m).1 = .ok ((auditLog m).reverse.take 500) := by
  have read : (outcome (listAudits 500) m).1 =
      .ok ((m.audits.reverse.take 500).map cloneAudit) := rfl
  rw [read, auditLog, List.map_take, List.map_reverse]

theorem collectVisible_eq (principal : Principal) (limit : Nat) (events : List AuditEvent) :
    ∀ filtered, collectVisible principal limit filtered events =
      filtered ++ (events.filter (visible principal)).take (limit - filtered.length) := by
  induction events with
  | nil => simp [collectVisible]
  | cons event events ih =>
    intro filtered
    by_cases full : limit ≤ filtered.length
    · have none : limit - filtered.length = 0 := by omega
      simp [collectVisible, full, none]
    · rw [collectVisible, if_neg full]
      cases shown : visible principal event with
      | false => simp [shown, ih]
      | true =>
        have room : limit - filtered.length = limit - (filtered.length + 1) + 1 := by omega
        simp [shown, ih, room]

theorem listAuditEvents_eq {m : Store.Memory} {principal : Principal} {value : String} {limit : Int}
    (asked : parseLimit value = .ok limit) :
    listAuditEvents m principal value =
      .ok ⟨200, (((auditLog m).reverse.take 500).filter (visible principal)).take limit.toNat⟩ := by
  have items := collectVisible_eq principal limit.toNat ((auditLog m).reverse.take 500) []
  simp only [List.nil_append, List.length_nil, Nat.sub_zero] at items
  rw [← items]
  simp only [listAuditEvents, asked, outcome_listAudits]
  rfl

section Window

variable {α : Type} (shown : α → Bool)

/-- Whether the first of the shown items can be told from a window of the items. -/
theorem take_filter_window_iff (items : List α) (window limit : Nat) :
    ((items.take window).filter shown).take limit = (items.filter shown).take limit ↔
      limit ≤ (items.take window).countP shown ∨
        ∀ item ∈ items.drop window, shown item = false := by
  have split : items.filter shown =
      (items.take window).filter shown ++ (items.drop window).filter shown := by
    rw [← List.filter_append, List.take_append_drop]
  rw [split, List.take_append, List.countP_eq_length_filter]
  simp only [List.self_eq_append_right, List.take_eq_nil_iff, List.filter_eq_nil_iff,
    Nat.sub_eq_zero_iff_le, Bool.not_eq_true]

end Window

/-- The newest events of a log that the principal may see, the newest one first. -/
def newestVisible (principal : Principal) (limit : Nat) (log : List AuditEvent) :
    List AuditEvent :=
  (log.reverse.filter (visible principal)).take limit

/-- The newest 500 events hold as many visible ones as are asked for, or there are no
others. -/
def WindowSuffices (principal : Principal) (limit : Nat) (log : List AuditEvent) : Prop :=
  limit ≤ (log.reverse.take 500).countP (visible principal) ∨
    ∀ event ∈ log.reverse.drop 500, visible principal event = false

theorem newestVisible_congr {principal : Principal} {one other : List AuditEvent} (limit : Nat)
    (same : one.filter (visible principal) = other.filter (visible principal)) :
    newestVisible principal limit one = newestVisible principal limit other := by
  rw [newestVisible, newestVisible, List.filter_reverse, List.filter_reverse, same]

/-- The list has events of the caller's scope only, in the order of the log. It is the
list of the newest ones exactly if the window that was read suffices for them, and
then it does not depend on the other events. -/
theorem listAuditEvents_newest_iff (m : Store.Memory) (principal : Principal) (value : String)
    (limit : Int) (asked : parseLimit value = .ok limit) :
    ∃ items, listAuditEvents m principal value = .ok ⟨200, items⟩ ∧
      (∀ event ∈ items, visible principal event = true) ∧
      items.Sublist (auditLog m).reverse ∧
      (items = newestVisible principal limit.toNat (auditLog m) ↔
        WindowSuffices principal limit.toNat (auditLog m)) ∧
      (WindowSuffices principal limit.toNat (auditLog m) → ∀ other : Store.Memory,
        (auditLog other).filter (visible principal) = (auditLog m).filter (visible principal) →
        WindowSuffices principal limit.toNat (auditLog other) →
        listAuditEvents other principal value = .ok ⟨200, items⟩) := by
  have newest_iff := fun log : List AuditEvent =>
    take_filter_window_iff (visible principal) log.reverse 500 limit.toNat
  refine ⟨_, listAuditEvents_eq asked, ?_, ?_, newest_iff (auditLog m), ?_⟩
  · intro event member
    exact (List.mem_filter.mp (List.mem_of_mem_take member)).2
  · exact ((List.take_sublist _ _).trans List.filter_sublist).trans (List.take_sublist _ _)
  · intro enough other same otherEnough
    have here := (newest_iff (auditLog m)).mpr enough
    have there := (newest_iff (auditLog other)).mpr otherEnough
    have agree := newestVisible_congr limit.toNat same
    rw [listAuditEvents_eq asked, there]
    simp only [newestVisible] at agree
    rw [agree, here]

def hostAuditor : Principal := ⟨"auditor@example.com", .auditor, false, ["host_a"], "session_1"⟩

/-- The event of an update of a host by an admin, with the random bytes of its ID. -/
def hostUpdated (hostID : String) (number : Nat) : AuditEvent :=
  auditWithRequestID (List.replicate 16 0 ++ [UInt8.ofNat (number / 256), UInt8.ofNat number])
    number "request_1" ⟨"admin@example.com", .admin, true, [], "session_2"⟩ "host.updated" "host"
    hostID "success" (some [("hostKeyReset", .scalar (.bool false))])

def otherEvents : List AuditEvent := (List.range' 1 500).map (hostUpdated "host_b")

/-- One event of the auditor's host and 500 later ones of another. -/
def busyLog : List AuditEvent := hostUpdated "host_a" 0 :: otherEvents

def storedEvents (log : List AuditEvent) : Store.Memory := { newMemory with audits := log }

theorem auditLog_hostUpdated {log : List AuditEvent}
    (updates : ∀ event ∈ log, ∃ hostID number, event = hostUpdated hostID number) :
    auditLog (storedEvents log) = log := by
  have kept : log.map cloneAudit = log.map id := by
    refine List.map_congr_left ?_
    intro event member
    obtain ⟨hostID, number, rfl⟩ := updates event member
    exact cloneAudit_auditWithRequestID _ _ _ _ _ _ _ _ _
  rw [auditLog, storedEvents, kept, List.map_id]

theorem filter_otherEvents : otherEvents.reverse.filter (visible hostAuditor) = [] := by
  rw [List.filter_eq_nil_iff]
  intro event member
  obtain ⟨number, _, rfl⟩ := List.mem_map.mp (List.mem_reverse.mp member)
  have hidden : visible hostAuditor (hostUpdated "host_b" number) = false := rfl
  rw [hidden]
  decide

theorem auditLog_busyLog : auditLog (storedEvents busyLog) = busyLog := by
  refine auditLog_hostUpdated ?_
  intro event member
  rcases List.mem_cons.mp member with rfl | later
  · exact ⟨_, _, rfl⟩
  · obtain ⟨number, _, rfl⟩ := List.mem_map.mp later
    exact ⟨_, _, rfl⟩

/-- The auditor may read events and asks for the newest one, but is shown none although
there is one, which is shown if the events of the other host are left out. -/
theorem busy_host_hides :
    allowed hostAuditor.role .auditRead = true ∧ parseLimit "1" = .ok 1 ∧
      listAuditEvents (storedEvents busyLog) hostAuditor "1" = .ok ⟨200, []⟩ ∧
      newestVisible hostAuditor 1 (auditLog (storedEvents busyLog)) = [hostUpdated "host_a" 0] ∧
      listAuditEvents (storedEvents [hostUpdated "host_a" 0]) hostAuditor "1" =
        .ok ⟨200, [hostUpdated "host_a" 0]⟩ := by
  have asked : parseLimit "1" = .ok 1 := by decide
  have shown : visible hostAuditor (hostUpdated "host_a" 0) = true := by decide
  have reversed : busyLog.reverse = otherEvents.reverse ++ [hostUpdated "host_a" 0] :=
    List.reverse_cons
  have length : otherEvents.reverse.length = 500 := by simp [otherEvents]
  have window : busyLog.reverse.take 500 = otherEvents.reverse := by
    rw [reversed, List.take_left' length]
  have single : auditLog (storedEvents [hostUpdated "host_a" 0]) = [hostUpdated "host_a" 0] := by
    refine auditLog_hostUpdated ?_
    intro event member
    exact ⟨_, _, List.mem_singleton.mp member⟩
  refine ⟨by decide, asked, ?_, ?_, ?_⟩
  · rw [listAuditEvents_eq asked, auditLog_busyLog, window, filter_otherEvents]
    rfl
  · simp only [auditLog_busyLog, newestVisible, reversed, List.filter_append, filter_otherEvents,
      List.nil_append, List.filter_cons, shown, if_true, List.filter_nil, List.take_succ_cons,
      List.take_zero]
  · rw [listAuditEvents_eq asked, single]
    simp [shown]

def quietLog : List AuditEvent :=
  [hostUpdated "host_a" 0, hostUpdated "host_b" 1, hostUpdated "host_a" 2, hostUpdated "host_b" 3]

/-- Of a short log the newest event of the auditor's host is shown, with the events of
the other host and without them. -/
theorem quiet_host_shown :
    listAuditEvents (storedEvents quietLog) hostAuditor "1" =
        .ok ⟨200, [hostUpdated "host_a" 2]⟩ ∧
      listAuditEvents (storedEvents [hostUpdated "host_a" 0, hostUpdated "host_a" 2]) hostAuditor
        "1" = .ok ⟨200, [hostUpdated "host_a" 2]⟩ := by
  have asked : parseLimit "1" = .ok 1 := by decide
  have log : auditLog (storedEvents quietLog) = quietLog :=
    auditLog_hostUpdated (by simp [quietLog])
  have own : auditLog (storedEvents [hostUpdated "host_a" 0, hostUpdated "host_a" 2]) =
      [hostUpdated "host_a" 0, hostUpdated "host_a" 2] :=
    auditLog_hostUpdated (by simp)
  have enough (log : List AuditEvent) (short : log.length ≤ 500) :
      WindowSuffices hostAuditor 1 log :=
    .inr (by simp [List.drop_eq_nil_of_le, short])
  obtain ⟨items, listed, -, -, newest, alike⟩ := listAuditEvents_newest_iff
    (storedEvents quietLog) hostAuditor "1" 1 asked
  rw [log] at newest alike
  have shown : items = [hostUpdated "host_a" 2] := newest.mpr (enough quietLog (by decide))
  rw [shown] at listed alike
  refine ⟨listed, alike (enough quietLog (by decide)) _ ?_ ?_⟩
  · rw [own]
    rfl
  · rw [own]
    exact enough _ (by decide)

end VpsManager.Control

import Mathlib.Data.Prod.Lex
import VpsManager.Persistence.Repository

namespace VpsManager.Persistence.Repository

open Go Checks Machine Paging

/-- Stored records have the IDs that were checked, and no two events of an installation have
the same one. -/
structure Sound (m : MemoryRepository) : Prop where
  assets : ∀ key asset, m.assets.get key = some asset → identifierPattern asset.id = true
  jobs : ∀ key job, m.jobs.get key = some job → identifierPattern job.id = true
  audits : ∀ event ∈ m.audits, identifierPattern event.id = true
  distinct : m.audits.Pairwise fun one other =>
    ¬ (one.installationID = other.installationID ∧ one.id = other.id)

theorem sound_new : Sound newMemoryRepository where
  assets := by simp [newMemoryRepository]
  jobs := by simp [newMemoryRepository]
  audits := by simp [newMemoryRepository]
  distinct := List.Pairwise.nil

theorem identifier_of_validateAsset {asset : Asset} (valid : validateAsset asset = .ok ()) :
    identifierPattern asset.id = true := by
  simp only [validateAsset, validateIdentifier, bind_eq_ok, ensure_eq_ok] at valid
  exact valid.choose_spec.2.choose_spec.1

theorem identifier_of_validateJob {job : Job} (valid : validateJob job = .ok ()) :
    identifierPattern job.id = true := by
  simp only [validateJob, validateIdentifier, bind_eq_ok, ensure_eq_ok] at valid
  exact valid.choose_spec.2.choose_spec.1

theorem identifier_of_validateAudit {event : AuditEvent} (valid : validateAudit event = .ok ()) :
    identifierPattern event.id = true := by
  simp only [validateAudit, validateIdentifier, bind_eq_ok, ensure_eq_ok] at valid
  exact valid.choose_spec.2.choose_spec.1

theorem get_put_keeps {α : Type} {parts : α → List Bytes} {holds : α → Prop}
    {table : Records parts} {record : α} (new : holds record)
    (all : ∀ key stored, table.get key = some stored → holds stored) :
    ∀ key stored, (table.put record).get key = some stored → holds stored := by
  intro key stored found
  rw [Keyed.get_put] at found
  split at found
  · cases found
    exact new
  · exact all key stored found

variable {m next : MemoryRepository} {value installationID : String} {last : AuditEvent}
  {first : List AuditEvent}

theorem Move.sound {action : Action} (moved : Move m action next) (sound : Sound m) :
    Sound next := by
  cases moved with
  | @createAsset asset valid | @updateAsset asset _ valid =>
    have new : identifierPattern (cloneAsset asset).id = true := by
      rw [id_cloneAsset, identifier_of_validateAsset valid]
    refine { sound with assets := ?_ }
    exact get_put_keeps new sound.assets
  | deleteAsset =>
    refine { sound with assets := fun key asset found => ?_ }
    rw [Keyed.get_erase] at found
    split at found
    · cases found
    · exact sound.assets key asset found
  | putCredentialEnvelope => exact { sound with }
  | createJob valid | updateJob valid =>
    refine { sound with jobs := ?_ }
    exact get_put_keeps (identifier_of_validateJob valid) sound.jobs
  | appendAudit valid fresh =>
    refine { sound with audits := ?_, distinct := ?_ }
    · intro event member
      rcases List.mem_append.mp member with stored | new
      · exact sound.audits event stored
      · rw [List.mem_singleton.mp new]
        exact identifier_of_validateAudit valid
    · refine List.pairwise_append.mpr ⟨sound.distinct, List.pairwise_singleton _ _, ?_⟩
      intro existing stored event new
      rw [List.mem_singleton.mp new]
      exact fresh existing stored

theorem Run.sound {actions : List Action}
    (reached : Run Step anyAction newMemoryRepository actions m) : Sound m :=
  reached.keeps (fun _ _ _ _ stepped sound => stepped.move.sound sound) sound_new

theorem normalizeLimit_pos (limit : Int) : 0 < (normalizeLimit limit).toNat := by
  unfold normalizeLimit defaultListLimit maxListLimit
  split
  · decide
  · split
    · decide
    · omega

theorem validateIdentifier_ok {label : String} (identifier : identifierPattern value = true) :
    validateIdentifier label value = .ok () := by
  rw [validateIdentifier, ensure_eq_ok]
  exact identifier

theorem ne_empty_of_identifier (identifier : identifierPattern value = true) : value ≠ "" := by
  rintro rfl
  revert identifier
  decide

theorem empty_lt (filled : value ≠ "") : "" < value := by
  rw [String.lt_iff_toList_lt]
  cases chars : value.toList with
  | nil => exact absurd (String.toList_eq_nil_iff.mp chars) filled
  | cons _ _ => exact List.nil_lt_cons _ _

/-- The next page begins after the ID of the last record. -/
def afterLast {α : Type} (id : α → String) (last : Option α) : String := (last.map id).getD ""

section Lists

variable {α : Type} {installation id : α → String} {clone : α → α}

/-- The records of one installation, as they are listed. -/
def ofInstallation (installation : α → String) (clone : α → α) (installationID : String)
    (ranged : List α) : List α :=
  (ranged.filter fun record => installation record == installationID).map clone

theorem listAfter_eq (same : ∀ record, id (clone record) = id record)
    (identifier : identifierPattern installationID = true) {ranged : List α}
    (distinct : ((ofInstallation installation clone installationID ranged).map id).Nodup)
    (limit : Int) (afterID : String) :
    listAfter installation id clone ranged installationID limit afterID =
      .ok (((sorted (fun one other => decide (id one < id other))
        (ofInstallation installation clone installationID ranged)).filter
          fun record => decide (afterID < id record)).take (normalizeLimit limit).toNat) := by
  have items : (ranged.filter fun record =>
      installation record == installationID && decide (afterID < id record)).map clone =
      (ofInstallation installation clone installationID ranged).filter
        fun record => decide (afterID < id record) := by
    rw [ofInstallation, List.filter_map, List.filter_filter]
    congr 1
    refine List.filter_congr fun record _ => ?_
    rw [Function.comp_apply, same, Bool.and_comm]
  rw [listAfter, validateIdentifier_ok identifier, items,
    ← sorted_filter (fun _ _ => rfl) distinct]
  rfl

variable (installation id clone)

/-- Every record of the installation is read once, in the order of the IDs, whatever order
the loop of each page meets the records in. -/
theorem collect_listAfter (same : ∀ record, id (clone record) = id record)
    (identifier : identifierPattern installationID = true) {ranged : Nat → List α}
    (perm : ∀ n, (ranged n).Perm (ranged 0))
    (distinct : ((ofInstallation installation clone installationID (ranged 0)).map id).Nodup)
    (filled : ∀ record ∈ ranged 0, id record ≠ "") (limit : Int) :
    ∃ records : List α,
      records.Perm (ofInstallation installation clone installationID (ranged 0)) ∧
      records.Pairwise (fun one other => id one < id other) ∧
      ∀ fuel, records.length < fuel →
        collect (fun n last => listAfter installation id clone (ranged n) installationID limit
          (afterLast id last)) fuel 0 none = some (.ok records) := by
  let less : α → α → Bool := fun one other => decide (id one < id other)
  let whole := sorted less (ofInstallation installation clone installationID (ranged 0))
  have perms : ∀ n, (ofInstallation installation clone installationID (ranged n)).Perm
      (ofInstallation installation clone installationID (ranged 0)) :=
    fun n => ((perm n).filter _).map clone
  have apart : ∀ n,
      ((ofInstallation installation clone installationID (ranged n)).map id).Nodup :=
    fun n => ((perms n).map id).nodup_iff.mpr distinct
  have ordered : whole.Pairwise fun one other => id one < id other :=
    pairwise_sorted (fun _ _ => rfl) distinct
  have wholes : ∀ n, sorted less (ofInstallation installation clone installationID (ranged n)) =
      whole := by
    intro n
    refine (eq_sorted (fun _ _ => rfl) ordered ?_).symm
    exact (perm_sorted less _).trans (perms n).symm
  have page : ∀ n afterID, listAfter installation id clone (ranged n) installationID limit
      afterID = .ok ((whole.filter fun record => decide (afterID < id record)).take
        (normalizeLimit limit).toNat) := by
    intro n afterID
    rw [listAfter_eq same identifier (apart n), ← wholes n]
  refine ⟨whole, perm_sorted less _, ordered, fun fuel enough => ?_⟩
  refine collect_eq (normalizeLimit_pos limit) ordered ?_ (fun n cursor _ => page n _) enough
  have all : whole.filter (fun record => decide ("" < id record)) = whole := by
    refine List.filter_eq_self.mpr fun record member => ?_
    obtain ⟨stored, listed, rfl⟩ := List.mem_map.mp (mem_sorted.mp member)
    rw [same, decide_eq_true_eq]
    exact empty_lt (filled stored (List.mem_of_mem_filter listed))
  rw [page, show afterLast id none = "" from rfl, all]

end Lists

theorem distinct_ids {α : Type} {parts : α → List Bytes} (installation id : α → String)
    (clone : α → α) (same : ∀ record, id (clone record) = id record)
    (named : ∀ record, parts record = [bytes (installation record), bytes (id record)])
    {table : Records parts} {ranged : List α} (all : table.Enumerates ranged)
    (installationID : String) :
    ((ofInstallation installation clone installationID ranged).map id).Nodup := by
  have ids : (ofInstallation installation clone installationID ranged).map id =
      (ranged.filter fun record => installation record == installationID).map id := by
    rw [ofInstallation, List.map_map]
    exact List.map_congr_left fun record _ => same record
  rw [ids]
  refine (all.nodup.filter _).map_on fun one listed other listed' equal => ?_
  simp only [List.mem_filter, beq_iff_eq] at listed listed'
  have one' := (all.mem_iff one).mp listed.1
  have other' := (all.mem_iff other).mp listed'.1
  have key : parts one = parts other := by
    rw [named, named, listed.2, listed'.2, equal]
  rw [key, other'] at one'
  exact (Option.some.inj one').symm

theorem mem_ofInstallation {α : Type} {parts : α → List Bytes} (installation id : α → String)
    (clone : α → α) (kept : ∀ record, installation (clone record) = installation record)
    (same : ∀ record, id (clone record) = id record)
    (named : ∀ record, parts record = [bytes (installation record), bytes (id record)])
    {table : Records parts} {ranged : List α} (all : table.Enumerates ranged)
    (installationID : String) (record : α) :
    record ∈ ofInstallation installation clone installationID ranged ↔
      installation record = installationID ∧
        (find [bytes installationID, bytes (id record)] table).map clone = .ok record := by
  simp only [ofInstallation, List.mem_map, List.mem_filter, beq_iff_eq]
  constructor
  · rintro ⟨stored, ⟨listed, rfl⟩, rfl⟩
    have found := (all.mem_iff stored).mp listed
    rw [named] at found
    refine ⟨kept stored, ?_⟩
    rw [same, find, found]
    rfl
  · rintro ⟨rfl, read⟩
    rw [find] at read
    cases found : table.get (composite [bytes (installation record), bytes (id record)]) with
    | none =>
      rw [found] at read
      cases read
    | some stored =>
      rw [found] at read
      cases read
      refine ⟨stored, ⟨(all.mem_iff stored).mpr ?_, (kept stored).symm⟩, rfl⟩
      rw [kept, same] at found
      rw [named, found]

/-- The orders in which the pages range over a map have the same records. -/
theorem perm_of_enumerates {α : Type} {parts : α → List Bytes} {table : Records parts}
    {one other : List α} (all : table.Enumerates one) (all' : table.Enumerates other) :
    one.Perm other := by
  refine (List.perm_ext_iff_of_nodup all.nodup all'.nodup).mpr fun record => ?_
  rw [all.mem_iff, all'.mem_iff]

theorem collect_listAssets (sound : Sound m)
    (identifier : identifierPattern installationID = true) (limit : Int)
    {ranged : Nat → List Asset} (all : ∀ n, m.assets.Enumerates (ranged n)) :
    ∃ assets : List Asset, assets.Pairwise (fun one other => one.id < other.id) ∧
      (∀ asset, asset ∈ assets ↔ asset.installationID = installationID ∧
        m.getAsset (bytes installationID) (bytes asset.id) = .ok asset) ∧
      ∀ fuel, assets.length < fuel →
        collect (fun n last => MemoryRepository.listAssets (ranged n) installationID limit
          (afterLast Asset.id last)) fuel 0 none = some (.ok assets) := by
  have distinct := distinct_ids Asset.installationID Asset.id cloneAsset id_cloneAsset
    (fun _ => rfl) (all 0) installationID
  have filled : ∀ asset ∈ ranged 0, asset.id ≠ "" := fun asset listed =>
    ne_empty_of_identifier (sound.assets _ asset (((all 0).mem_iff asset).mp listed))
  obtain ⟨assets, perm, ordered, read⟩ :=
    collect_listAfter Asset.installationID Asset.id cloneAsset id_cloneAsset identifier
      (fun n => perm_of_enumerates (all n) (all 0)) distinct filled limit
  refine ⟨assets, ordered, fun asset => ?_, read⟩
  rw [perm.mem_iff]
  exact mem_ofInstallation Asset.installationID Asset.id cloneAsset installationID_cloneAsset
    id_cloneAsset (fun _ => rfl) (all 0) installationID asset

theorem collect_listJobs (sound : Sound m) (identifier : identifierPattern installationID = true)
    (limit : Int) {ranged : Nat → List Job} (all : ∀ n, m.jobs.Enumerates (ranged n)) :
    ∃ jobs : List Job, jobs.Pairwise (fun one other => one.id < other.id) ∧
      (∀ job, job ∈ jobs ↔ job.installationID = installationID ∧
        m.getJob (bytes installationID) (bytes job.id) = .ok job) ∧
      ∀ fuel, jobs.length < fuel →
        collect (fun n last => MemoryRepository.listJobs (ranged n) installationID limit
          (afterLast Job.id last)) fuel 0 none = some (.ok jobs) := by
  have distinct := distinct_ids Job.installationID Job.id id (fun _ => rfl) (fun _ => rfl) (all 0)
    installationID
  have filled : ∀ job ∈ ranged 0, job.id ≠ "" := fun job listed =>
    ne_empty_of_identifier (sound.jobs _ job (((all 0).mem_iff job).mp listed))
  obtain ⟨jobs, perm, ordered, read⟩ :=
    collect_listAfter Job.installationID Job.id id (fun _ => rfl) identifier
      (fun n => perm_of_enumerates (all n) (all 0)) distinct filled limit
  refine ⟨jobs, ordered, fun job => ?_, read⟩
  rw [perm.mem_iff, mem_ofInstallation Job.installationID Job.id id (fun _ => rfl) (fun _ => rfl)
    (fun _ => rfl) (all 0) installationID job, Except.map_id, id_eq, MemoryRepository.getJob]
  exact Iff.rfl

/-- The newest event comes first, and the greater ID among events of one time. -/
def auditRank (event : AuditEvent) : (Lex (Int × String))ᵒᵈ :=
  OrderDual.toDual (toLex (event.timestamp, event.id))

theorem auditRank_lt_iff (one other : AuditEvent) : auditRank one < auditRank other ↔
    other.timestamp < one.timestamp ∨ other.timestamp = one.timestamp ∧ other.id < one.id := by
  rw [auditRank, auditRank, OrderDual.toDual_lt_toDual, Prod.Lex.toLex_lt_toLex]

theorem auditLess_eq (one other : AuditEvent) :
    auditLess one other = decide (auditRank one < auditRank other) := by
  rw [Bool.eq_iff_iff, decide_eq_true_iff, auditRank_lt_iff]
  unfold auditLess
  split
  · rename_i same
    simp [same]
  · rename_i different
    have other' : other.timestamp ≠ one.timestamp := fun same => different same.symm
    simp [other']

theorem beforeCursor_eq (nonzero : last.timestamp ≠ zeroTime) (event : AuditEvent) :
    beforeCursor last.timestamp last.id event = decide (auditRank last < auditRank event) := by
  rw [Bool.eq_iff_iff, decide_eq_true_iff, auditRank_lt_iff, beforeCursor]
  simp only [nonzero, beq_iff_eq, Bool.or_eq_true, Bool.not_eq_true', Bool.or_eq_false_iff,
    Bool.and_eq_false_iff, decide_eq_false_iff_not, beq_eq_false_iff_ne, false_or, not_lt, not_le,
    ne_eq]
  constructor
  · rintro ⟨notLater, other | behind⟩
    · exact .inl (lt_of_le_of_ne notLater other)
    · rcases lt_or_eq_of_le notLater with earlier | same
      · exact .inl earlier
      · exact .inr ⟨same, behind⟩
  · rintro (earlier | ⟨same, behind⟩)
    · exact ⟨le_of_lt earlier, .inl (ne_of_lt earlier)⟩
    · exact ⟨le_of_eq same, .inr behind⟩

/-- The first page has no cursor, each other one the last event of the page before. -/
def auditFilter (installationID : String) (limit : Int) : Option AuditEvent → AuditFilter
  | none => ⟨installationID, zeroTime, "", limit⟩
  | some last => ⟨installationID, last.timestamp, last.id, limit⟩

def eventsOf (installationID : String) (audits : List AuditEvent) : List AuditEvent :=
  audits.filter fun event => event.installationID == installationID

theorem listAudit_first (m : MemoryRepository)
    (identifier : identifierPattern installationID = true) (limit : Int) :
    m.listAudit (auditFilter installationID limit none) =
      .ok ((sorted auditLess (eventsOf installationID m.audits)).take
        (normalizeLimit limit).toNat) := by
  have all : ∀ beforeID : String, (m.audits.filter fun event =>
      event.installationID == installationID && beforeCursor zeroTime beforeID event) =
      eventsOf installationID m.audits := by
    intro beforeID
    refine List.filter_congr fun event _ => ?_
    simp [beforeCursor]
  simp only [MemoryRepository.listAudit, auditFilter, validateIdentifier_ok identifier, all]
  rfl

theorem listAudit_next (m : MemoryRepository)
    (identifier : identifierPattern installationID = true)
    (named : identifierPattern last.id = true) (nonzero : last.timestamp ≠ zeroTime) (limit : Int) :
    m.listAudit (auditFilter installationID limit (some last)) =
      .ok ((sorted auditLess ((eventsOf installationID m.audits).filter fun event =>
        decide (auditRank last < auditRank event))).take (normalizeLimit limit).toNat) := by
  have behind : (m.audits.filter fun event =>
      event.installationID == installationID && beforeCursor last.timestamp last.id event) =
      (eventsOf installationID m.audits).filter fun event =>
        decide (auditRank last < auditRank event) := by
    rw [eventsOf, List.filter_filter]
    refine List.filter_congr fun event _ => ?_
    rw [beforeCursor_eq nonzero, Bool.and_comm]
  have filled := ne_empty_of_identifier named
  simp only [MemoryRepository.listAudit, auditFilter, validateIdentifier_ok identifier, filled,
    ne_eq, not_false_eq_true, if_true, if_false, validateIdentifier_ok named, behind]
  rfl

theorem distinct_ranks (sound : Sound m) (installationID : String) :
    ((eventsOf installationID m.audits).map auditRank).Nodup := by
  refine List.pairwise_map.mpr ((sound.distinct.filter _).imp_of_mem ?_)
  intro one other listed listed' apart same
  simp only [List.mem_filter, beq_iff_eq] at listed listed'
  have ids : one.id = other.id :=
    congrArg (fun rank => (ofLex (OrderDual.ofDual rank)).2) same
  exact apart ⟨listed.2.trans listed'.2.symm, ids⟩

/-- An event of the installation is appended only if it is later than those of the first page. -/
def Action.Later (installationID : String) (first : List AuditEvent) : Action → Prop
  | .appendAudit event => event.installationID = installationID →
      ∀ shown ∈ first, shown.timestamp < event.timestamp
  | _ => True

/-- The repository at the time of each page; any calls are made between two of them that
append later events only. -/
def Continues (installationID : String) (limit : Int) (states : Nat → MemoryRepository) : Prop :=
  ∀ first, (states 0).listAudit (auditFilter installationID limit none) = .ok first →
    ∀ n, ∃ actions, Run Step (fun _ action => action.Later installationID first) (states n) actions
      (states (n + 1))

structure Extends (installationID : String) (first : List AuditEvent) (m next : MemoryRepository) :
    Prop where
  added : ∃ more, next.audits = m.audits ++ more ∧ ∀ event ∈ more,
    event.installationID = installationID → ∀ shown ∈ first, shown.timestamp < event.timestamp

theorem Move.extends {start : MemoryRepository} {action : Action}
    (later : action.Later installationID first) (moved : Move m action next)
    (before : Extends installationID first start m) : Extends installationID first start next := by
  obtain ⟨more, audits, all⟩ := before.added
  cases moved with
  | @appendAudit event valid fresh =>
    refine ⟨more ++ [event], by simp [audits], fun other member => ?_⟩
    rcases List.mem_append.mp member with old | new
    · exact all other old
    · rw [List.mem_singleton.mp new]
      exact later
  | createAsset _ | updateAsset _ | deleteAsset | putCredentialEnvelope | createJob _
  | updateJob _ => exact ⟨more, audits, all⟩

theorem Continues.extends {limit : Int} {states : Nat → MemoryRepository}
    (continues : Continues installationID limit states)
    (read : (states 0).listAudit (auditFilter installationID limit none) = .ok first) (n : Nat) :
    Extends installationID first (states 0) (states n) := by
  induction n with
  | zero => exact ⟨[], by simp, by simp⟩
  | succ n ih =>
    obtain ⟨actions, ran⟩ := continues first read n
    exact ran.keeps (fun _ _ _ may stepped => stepped.move.extends may) ih

theorem Extends.behind (more : Extends installationID first m next) {newest : AuditEvent}
    (shown : newest ∈ first) (notNewer : last.timestamp ≤ newest.timestamp) :
    ((eventsOf installationID next.audits).filter fun event =>
        decide (auditRank last < auditRank event)) =
      (eventsOf installationID m.audits).filter fun event =>
        decide (auditRank last < auditRank event) := by
  obtain ⟨added, audits, later⟩ := more.added
  have none : ((eventsOf installationID added).filter fun event =>
      decide (auditRank last < auditRank event)) = [] := by
    refine List.filter_eq_nil_iff.mpr fun event listed => ?_
    simp only [eventsOf, List.mem_filter, beq_iff_eq] at listed
    have newer := later event listed.1 listed.2 newest shown
    rw [decide_eq_true_iff, auditRank_lt_iff]
    omega
  rw [audits, eventsOf, List.filter_append, List.filter_append]
  change _ ++ (eventsOf installationID added).filter _ = _
  rw [none, List.append_nil]
  rfl

theorem collect_listAudit (sound : Sound m) (identifier : identifierPattern installationID = true)
    (limit : Int) (nonzero : ∀ event ∈ m.audits, event.installationID = installationID →
      event.timestamp ≠ zeroTime) {states : Nat → MemoryRepository} (start : states 0 = m)
    (continues : Continues installationID limit states) :
    ∃ events : List AuditEvent,
      events.Perm (eventsOf installationID m.audits) ∧
      events.Pairwise (fun one other => auditLess one other = true) ∧
      ∀ fuel, events.length < fuel →
        collect (fun n last => (states n).listAudit (auditFilter installationID limit last)) fuel 0
          none = some (.ok events) := by
  subst start
  let whole := sorted auditLess (eventsOf installationID (states 0).audits)
  have distinct := distinct_ranks sound installationID
  have ordered : whole.Pairwise fun one other => auditRank one < auditRank other :=
    pairwise_sorted auditLess_eq distinct
  have first : (states 0).listAudit (auditFilter installationID limit none) =
      .ok (whole.take (normalizeLimit limit).toNat) := listAudit_first (states 0) identifier limit
  have next : ∀ n, ∀ last ∈ whole,
      (states n).listAudit (auditFilter installationID limit (some last)) =
        .ok ((whole.filter fun event => decide (auditRank last < auditRank event)).take
          (normalizeLimit limit).toNat) := by
    intro n last listed
    have stored := mem_sorted.mp listed
    simp only [eventsOf, List.mem_filter, beq_iff_eq] at stored
    -- the newest event is on the first page, and no cursor is newer
    obtain ⟨newest, shown, notNewer⟩ : ∃ newest ∈ whole.take (normalizeLimit limit).toNat,
        last.timestamp ≤ newest.timestamp := by
      have some' := normalizeLimit_pos limit
      cases listing : whole with
      | nil =>
        rw [listing] at listed
        cases listed
      | cons newest rest =>
        obtain ⟨more, filled⟩ := Nat.exists_eq_succ_of_ne_zero some'.ne'
        refine ⟨newest, by simp [filled], ?_⟩
        rw [listing] at listed ordered
        rcases List.mem_cons.mp listed with rfl | behind
        · exact le_rfl
        · have after := (List.pairwise_cons.mp ordered).1 last behind
          rw [auditRank_lt_iff] at after
          omega
    rw [listAudit_next (states n) identifier (sound.audits last stored.1)
      (nonzero last stored.1 stored.2),
      (continues.extends first n).behind shown notNewer, sorted_filter auditLess_eq distinct]
  refine ⟨whole, perm_sorted auditLess _, ?_, fun fuel enough => ?_⟩
  · refine ordered.imp fun {one other} before => ?_
    rw [auditLess_eq, decide_eq_true_eq]
    exact before
  · exact collect_eq (normalizeLimit_pos limit) ordered first next enough

/-- Reading page after page, to the first empty page, gives every record of an installation
once: its events with the newest first and ties by descending ID, although later events are
appended meanwhile, and its assets and jobs by ascending ID. -/
theorem pages_have_every_record_once (installation : InstallationID) (limit : Int)
    {actions : List Action} {m : MemoryRepository}
    (reached : Run Step anyAction newMemoryRepository actions m) :
    ((∀ event ∈ m.audits, event.installationID = installation.val →
        event.timestamp ≠ zeroTime) →
      ∀ states : Nat → MemoryRepository, states 0 = m →
        Continues installation.val limit states →
        ∃ events : List AuditEvent, events.Perm (eventsOf installation.val m.audits) ∧
          events.Pairwise (fun one other => other.timestamp < one.timestamp ∨
            other.timestamp = one.timestamp ∧ other.id < one.id) ∧
          ∀ fuel, events.length < fuel →
            collect (fun n last => (states n).listAudit (auditFilter installation.val limit last))
              fuel 0 none = some (.ok events)) ∧
    (∀ ranged : Nat → List Asset, (∀ n, m.assets.Enumerates (ranged n)) →
      ∃ assets : List Asset, assets.Pairwise (fun one other => one.id < other.id) ∧
        (∀ asset, asset ∈ assets ↔ asset.installationID = installation.val ∧
          m.getAsset (bytes installation.val) (bytes asset.id) = .ok asset) ∧
        ∀ fuel, assets.length < fuel →
          collect (fun n last => MemoryRepository.listAssets (ranged n) installation.val limit
            (afterLast Asset.id last)) fuel 0 none = some (.ok assets)) ∧
    (∀ ranged : Nat → List Job, (∀ n, m.jobs.Enumerates (ranged n)) →
      ∃ jobs : List Job, jobs.Pairwise (fun one other => one.id < other.id) ∧
        (∀ job, job ∈ jobs ↔ job.installationID = installation.val ∧
          m.getJob (bytes installation.val) (bytes job.id) = .ok job) ∧
        ∀ fuel, jobs.length < fuel →
          collect (fun n last => MemoryRepository.listJobs (ranged n) installation.val limit
            (afterLast Job.id last)) fuel 0 none = some (.ok jobs)) := by
  have sound := Run.sound reached
  refine ⟨fun nonzero states start continues => ?_,
    fun ranged all => collect_listAssets sound installation.property limit all,
    fun ranged all => collect_listJobs sound installation.property limit all⟩
  obtain ⟨events, perm, ordered, read⟩ :=
    collect_listAudit sound installation.property limit nonzero start continues
  refine ⟨events, perm, ordered.imp fun {one other} less => ?_, read⟩
  rw [auditLess_eq, decide_eq_true_iff, auditRank_lt_iff] at less
  exact less

def login (id : String) (timestamp : Int) : AuditEvent where
  installationID := "inst_1"
  id := id
  timestamp := timestamp
  actor := "admin@example.com"
  role := "admin"
  action := "session.created"
  targetType := "session"
  targetID := ""
  outcome := "success"
  requestID := ""
  jobID := ""
  details := none

def server (id : String) : Asset :=
  ⟨"inst_1", id, "server", "192.0.2.1", 22, "root", some ∅, none, 1, 0, 0⟩

def daily (id : String) : Job := { backup 1 with id := id }

/-- Two assets and two jobs. -/
def pairs : MemoryRepository where
  assets := (Keyed.empty.put (server "asset_1")).put (server "asset_2")
  credentials := .empty
  jobs := (Keyed.empty.put (daily "job_1")).put (daily "job_2")
  audits := []

theorem get_pair {α : Type} {parts : α → List Bytes} {one other : α}
    (apart : parts other ≠ parts one) :
    ((Keyed.empty : Records parts).put one).get (composite (parts other)) = none := by
  rw [Keyed.get_put, if_neg (composite_injective.ne apart), Keyed.get_empty]

theorem create_fresh {α : Type} {parts : α → List Bytes} {record : α} {table : Records parts}
    (fresh : table.get (composite (parts record)) = none) :
    create record table = .ok (table.put record) := by
  simp only [create, fresh]
  rfl

theorem run_pairs : Run Step anyAction newMemoryRepository
    [.createAsset (server "asset_1"), .createAsset (server "asset_2"), .createJob (daily "job_1"),
      .createJob (daily "job_2")] pairs := by
  have assets : validateAsset (server "asset_1") = .ok () ∧
      validateAsset (server "asset_2") = .ok () := by decide +kernel
  have jobs : validateJob (daily "job_1") = .ok () ∧ validateJob (daily "job_2") = .ok () := by
    decide +kernel
  have created {m : MemoryRepository} {asset : Asset} (valid : validateAsset asset = .ok ())
      (fresh : m.assets.get (composite (assetParts (cloneAsset asset))) = none) :
      Step m (.createAsset asset) { m with assets := m.assets.put (cloneAsset asset) } := by
    simp only [Step, MemoryRepository.call, MemoryRepository.createAsset, valid,
      create_fresh fresh]
    rfl
  have queued {m : MemoryRepository} {job : Job} (valid : validateJob job = .ok ())
      (fresh : m.jobs.get (composite (jobParts job)) = none) :
      Step m (.createJob job) { m with jobs := m.jobs.put job } := by
    simp only [Step, MemoryRepository.call, MemoryRepository.createJob, valid, create_fresh fresh]
    rfl
  have ran : Run Step anyAction newMemoryRepository _ _ :=
    Run.start.take _ trivial (created assets.1 (Keyed.get_empty _))
  have ran := ran.take _ trivial (created assets.2 (get_pair (by decide)))
  have ran := ran.take _ trivial (queued jobs.1 (Keyed.get_empty _))
  have ran := ran.take _ trivial (queued jobs.2 (get_pair (by decide)))
  exact ran

theorem enumerates_pair {α : Type} {parts : α → List Bytes} {one other : α}
    (apart : parts other ≠ parts one) :
    (((Keyed.empty : Records parts).put one).put other).Enumerates [other, one] :=
  (Keyed.enumerates_empty.put (Keyed.get_empty _)).put (get_pair apart)

theorem find_of_mem {α : Type} {parts : α → List Bytes} {table : Records parts} {records : List α}
    {record : α} (all : table.Enumerates records) (stored : record ∈ records) :
    find (parts record) table = .ok record :=
  (orError_eq_ok _ _ _).mpr ((all.mem_iff record).mp stored)

def logins (audits : List AuditEvent) : MemoryRepository := { pairs with audits := audits }

theorem step_login {id : String} {timestamp : Int} {audits : List AuditEvent}
    (identifier : identifierPattern id = true)
    (fresh : ∀ existing ∈ audits, ¬ (existing.installationID = "inst_1" ∧ existing.id = id)) :
    Step (logins audits) (.appendAudit (login id timestamp))
      (logins (audits ++ [login id timestamp])) := by
  have named : identifierPattern "inst_1" = true := by decide
  have valid : validateAudit (login id timestamp) = .ok () := by
    simp only [validateAudit, login, validateIdentifier, named, identifier]
    rfl
  simp only [Step, MemoryRepository.call, MemoryRepository.appendAudit, valid]
  have checked : (ensure (∀ existing ∈ (logins audits).audits,
      ¬ (existing.installationID = (login id timestamp).installationID ∧
        existing.id = (login id timestamp).id)) Failure.conflict) = .ok () := by
    rw [ensure_eq_ok]
    exact fresh
  rw [checked]
  rfl

def twoLogins : MemoryRepository := logins [login "event_1" 5, login "event_2" 5]

theorem run_twoLogins : ∃ actions, Run Step anyAction newMemoryRepository actions twoLogins := by
  have first : Step pairs (.appendAudit (login "event_1" 5)) (logins [login "event_1" 5]) :=
    step_login (by decide) (by simp)
  have second : Step (logins [login "event_1" 5]) (.appendAudit (login "event_2" 5)) twoLogins :=
    step_login (by decide) (by simp [login])
  exact ⟨_, (run_pairs.take _ trivial first).take _ trivial second⟩

def laterLogin : Nat → MemoryRepository
  | 0 => twoLogins
  | _ + 1 => logins (twoLogins.audits ++ [login "event_3" 6])

theorem continues_laterLogin : Continues "inst_1" 1 laterLogin := by
  intro first read n
  cases n with
  | succ n => exact ⟨[], .start⟩
  | zero =>
    have appended : Step twoLogins (.appendAudit (login "event_3" 6))
        (logins (twoLogins.audits ++ [login "event_3" 6])) :=
      step_login (by decide) (by simp [login])
    have later : (Action.appendAudit (login "event_3" 6)).Later "inst_1" first := by
      rintro - shown listed
      rw [show laterLogin 0 = twoLogins from rfl, listAudit_first twoLogins (by decide) 1] at read
      cases read
      have stored := mem_sorted.mp (List.mem_of_mem_take listed)
      simp only [eventsOf, twoLogins, logins, List.mem_filter, List.mem_cons, List.not_mem_nil,
        or_false] at stored
      rcases stored.1 with rfl | rfl <;> decide
    have ran : Run Step (fun _ action => action.Later "inst_1" first) twoLogins
        ([] ++ [.appendAudit (login "event_3" 6)])
        (logins (twoLogins.audits ++ [login "event_3" 6])) := Run.start.take _ later appended
    exact ⟨_, ran⟩

/-- A third event is appended after the first page, and the pages meet the assets and jobs
in descending order. -/
theorem two_logins_read_once :
    (∃ events : List AuditEvent, events.Perm [login "event_1" 5, login "event_2" 5] ∧
      collect (fun n last => (laterLogin n).listAudit (auditFilter "inst_1" 1 last)) 3 0 none =
        some (.ok events)) ∧
    (∃ assets : List Asset, server "asset_1" ∈ assets ∧ server "asset_2" ∈ assets ∧
      ∃ fuel, collect (fun _ last => MemoryRepository.listAssets
        [server "asset_2", server "asset_1"] "inst_1" 1 (afterLast Asset.id last)) fuel 0 none =
          some (.ok assets)) ∧
    ∃ jobs : List Job, daily "job_1" ∈ jobs ∧ daily "job_2" ∈ jobs ∧
      ∃ fuel, collect (fun _ last => MemoryRepository.listJobs
        [daily "job_2", daily "job_1"] "inst_1" 1 (afterLast Job.id last)) fuel 0 none =
          some (.ok jobs) := by
  have nonzero : ∀ event ∈ twoLogins.audits, event.installationID = "inst_1" →
      event.timestamp ≠ zeroTime := by
    simp only [twoLogins, logins, List.mem_cons, List.not_mem_nil, or_false]
    rintro event (rfl | rfl) - <;> decide
  obtain ⟨actions, ran⟩ := run_twoLogins
  obtain ⟨audits, assets, jobs⟩ :=
    pages_have_every_record_once ⟨"inst_1", by decide⟩ 1 ran
  obtain ⟨events, perm, -, read⟩ := audits nonzero laterLogin rfl continues_laterLogin
  have servers : twoLogins.assets.Enumerates [server "asset_2", server "asset_1"] :=
    @enumerates_pair _ assetParts (server "asset_1") (server "asset_2") (by decide)
  have dailies : twoLogins.jobs.Enumerates [daily "job_2", daily "job_1"] :=
    @enumerates_pair _ jobParts (daily "job_1") (daily "job_2") (by decide)
  obtain ⟨assets, -, listed, readAssets⟩ := assets _ fun _ => servers
  obtain ⟨jobs, -, queued, readJobs⟩ := jobs _ fun _ => dailies
  have asset (id : String) (stored : server id ∈ [server "asset_2", server "asset_1"]) :
      server id ∈ assets := by
    have found : (find (assetParts (server id)) twoLogins.assets).map cloneAsset =
        .ok (server id) := by
      rw [find_of_mem servers stored]
      rfl
    exact (listed _).mpr ⟨rfl, found⟩
  have job (id : String) (stored : daily id ∈ [daily "job_2", daily "job_1"]) :
      daily id ∈ jobs := by
    have found : find (jobParts (daily id)) twoLogins.jobs = .ok (daily id) :=
      find_of_mem dailies stored
    exact (queued _).mpr ⟨rfl, found⟩
  exact ⟨⟨events, perm, read 3 (by rw [perm.length_eq]; decide)⟩,
    ⟨assets, asset _ (.tail _ (.head _)), asset _ (.head _), _, readAssets _ (Nat.lt_succ_self _)⟩,
    jobs, job _ (.tail _ (.head _)), job _ (.head _), _, readJobs _ (Nat.lt_succ_self _)⟩

end VpsManager.Persistence.Repository

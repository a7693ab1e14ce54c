import VpsManager.Control.Plane

namespace VpsManager.Control

open Go Checks

/-- `sort.Slice`: any order in which no record is less than an earlier one. The
order of ranging over a map decides between equal ones. -/
def sortSlice {α : Type} (less : α → α → Bool) (ranged : List α) : List α :=
  ranged.mergeSort fun first second => !less second first

section Sorting

variable {α : Type} {time : α → Int}

/-- Two lists of the same records that differ at most in the order of records with
equal times. -/
structure SameButTies (time : α → Int) (one other : List α) : Prop where
  perm : one.Perm other
  times : one.map time = other.map time

theorem pairwise_sortSlice (less : α → α → Bool) (ranged : List α)
    (byTime : ∀ first second, less first second = decide (time first < time second)) :
    (sortSlice less ranged).Pairwise fun first second => time first ≤ time second := by
  have sorted : (sortSlice less ranged).Pairwise
      fun first second => (!less second first) = true := by
    apply List.pairwise_mergeSort
    · intro a b c
      simp only [byTime, Bool.not_eq_true', decide_eq_false_iff_not]
      omega
    · intro a b
      simp only [byTime, Bool.or_eq_true, Bool.not_eq_true', decide_eq_false_iff_not]
      omega
  refine sorted.imp ?_
  intro first second ordered
  simpa [byTime] using ordered

/-- Filtered lists with the same members, both sorted by time. -/
theorem sameButTies_filter (less : α → α → Bool) (shown : α → Bool) {one other : List α}
    (byTime : ∀ first second, less first second = decide (time first < time second))
    (nodup : one.Nodup) (nodup' : other.Nodup)
    (same : ∀ record, shown record = true → (record ∈ one ↔ record ∈ other)) :
    SameButTies time ((sortSlice less one).filter shown) ((sortSlice less other).filter shown) := by
  have perm : ((sortSlice less one).filter shown).Perm ((sortSlice less other).filter shown) := by
    refine (List.perm_ext_iff_of_nodup ?_ ?_).mpr ?_
    · exact ((List.mergeSort_perm one _).nodup_iff.mpr nodup).filter _
    · exact ((List.mergeSort_perm other _).nodup_iff.mpr nodup').filter _
    · intro record
      simp only [List.mem_filter, sortSlice, List.mem_mergeSort]
      exact and_congr_left fun isShown => same record isShown
  have ordered : ∀ records : List α,
      (((sortSlice less records).filter shown).map time).Pairwise (· ≤ ·) := fun records =>
    List.pairwise_map.mpr ((pairwise_sortSlice less records byTime).filter shown)
  refine ⟨perm, ?_⟩
  exact (perm.map time).eq_of_pairwise (fun _ _ _ _ => Int.le_antisymm) (ordered one)
    (ordered other)

end Sorting

/-- The order in which the lists range over the stored hosts and jobs. -/
structure Memory.RangeOrder (m : Memory) where
  hosts : List Host
  jobs : List Job
  allHosts : m.hosts.Enumerates hosts
  allJobs : m.jobs.Enumerates jobs

namespace Memory

variable (m : Memory)

def listHosts (order : m.RangeOrder) : List Host :=
  sortSlice (fun first second => first.createdAt < second.createdAt) order.hosts

def listJobs (order : m.RangeOrder) : List Job :=
  sortSlice (fun first second => second.createdAt < first.createdAt) order.jobs

end Memory

inductive ByID
  | getHost
  | getCredential
  | getJob
  | cancelJob
  deriving DecidableEq, Repr

inductive ScopedRequest
  | listHosts
  | listJobs
  | byID (kind : ByID) (id : String)
  deriving DecidableEq, Repr

def ScopedRequest.permission : ScopedRequest → Permission
  | .listHosts | .byID .getHost _ => .hostsRead
  | .byID .getCredential _ => .credentialsManage
  | .listJobs | .byID .getJob _ => .jobsRead
  | .byID .cancelJob _ => .jobsCancel

inductive Body
  | hosts (items : List Host)
  | host (host : Host)
  | credential (metadata : CredentialMetadata)
  | jobs (items : List Job)
  | job (job : Job)

structure Response where
  status : Nat
  body : Body

section Handlers

variable (m : Memory) (cancels : List String) (principal : Principal)

def listHosts (order : m.RangeOrder) : Response :=
  ⟨200, .hosts ((m.listHosts order).filter fun host => canAccessHost principal host.id)⟩

def getHost (hostID : String) : Except ApiError Response := do
  checkHostScope principal hostID
  let host ← (m.getHost hostID).mapError writeStoreError
  return ⟨200, .host host⟩

def getCredential (hostID : String) : Except ApiError Response := do
  checkHostScope principal hostID
  let credential ← (m.getCredential hostID).mapError writeStoreError
  return ⟨200, .credential credential.metadata⟩

def listJobs (order : m.RangeOrder) : Response :=
  ⟨200, .jobs ((m.listJobs order).filter fun job => canAccessHost principal job.hostID)⟩

/-- A job is read before the host it belongs to is known. -/
def scopedJob (jobID : String) : Except ApiError Job := do
  let job ← (m.getJob jobID).mapError writeStoreError
  checkHostScope principal job.hostID
  return job

def getJob (jobID : String) : Except ApiError Response := do
  let job ← scopedJob m principal jobID
  return ⟨200, .job job⟩

def cancelJob (jobID : String) : Except ApiError Response := do
  let job ← scopedJob m principal jobID
  ensure (job.state = .queued ∨ job.state = .running)
    ⟨409, "job_terminal", "job is already in a terminal state"⟩
  ensure (job.id ∈ cancels) ⟨409, "job_not_cancellable", "job can no longer be cancelled"⟩
  return ⟨202, .job job⟩

/-- The answer to a request of an authenticated principal. -/
def respond (order : m.RangeOrder) (request : ScopedRequest) : Except ApiError Response := do
  require principal request.permission
  match request with
  | .listHosts => return listHosts m principal order
  | .listJobs => return listJobs m principal order
  | .byID .getHost id => getHost m principal id
  | .byID .getCredential id => getCredential m principal id
  | .byID .getJob id => getJob m principal id
  | .byID .cancelJob id => cancelJob m cancels principal id

end Handlers

/-- The same response, apart from the order of records with equal times. -/
inductive Body.Same : Body → Body → Prop
  | hosts {one other : List Host} (same : SameButTies Host.createdAt one other) :
      Body.Same (.hosts one) (.hosts other)
  | jobs {one other : List Job} (same : SameButTies Job.createdAt one other) :
      Body.Same (.jobs one) (.jobs other)
  | equal (body : Body) : Body.Same body body

inductive SameResponse : Except ApiError Response → Except ApiError Response → Prop
  | ok {status : Nat} {one other : Body} (same : one.Same other) :
      SameResponse (.ok ⟨status, one⟩) (.ok ⟨status, other⟩)
  | error (error : ApiError) : SameResponse (.error error) (.error error)

theorem SameResponse.refl (response : Except ApiError Response) :
    SameResponse response response := by
  cases response with
  | ok response => exact .ok (.equal response.body)
  | error error => exact .error error

theorem SameResponse.of_eq {one other : Except ApiError Response} (same : one = other) :
    SameResponse one other := same ▸ .refl one

/-- Two servers hold the same hosts, credentials and jobs of the hosts the
principal may see, and the same of these jobs can be cancelled. -/
structure AgreeInScope (principal : Principal) (m m' : Memory) (cancels cancels' : List String) :
    Prop where
  hosts : ∀ id, canAccessHost principal id = true → m.hosts.get id = m'.hosts.get id
  credentials : ∀ id, canAccessHost principal id = true →
    m.credentials.get id = m'.credentials.get id
  jobs : ∀ job, canAccessHost principal job.hostID = true →
    (m.jobs.get job.id = some job ↔ m'.jobs.get job.id = some job)
  cancels : ∀ job, canAccessHost principal job.hostID = true → m.jobs.get job.id = some job →
    (job.id ∈ cancels ↔ job.id ∈ cancels')

/-- The object a request names does not exist or belongs to a host out of
scope. -/
def Hidden (m : Memory) (principal : Principal) : ByID → String → Prop
  | .getHost, id => canAccessHost principal id = false ∨ m.hosts.get id = none
  | .getCredential, id => canAccessHost principal id = false ∨ m.credentials.get id = none
  | .getJob, id | .cancelJob, id =>
    ∀ job, m.jobs.get id = some job → canAccessHost principal job.hostID = false

section Scoped

variable {m m' : Memory} {principal : Principal} {cancels cancels' : List String}

theorem scopedJob_eq_ok {jobID : String} {job : Job} :
    scopedJob m principal jobID = .ok job ↔
      m.jobs.get jobID = some job ∧ canAccessHost principal job.hostID = true := by
  simp only [scopedJob, Memory.getJob, checkHostScope, bind_eq_ok, mapError_eq_ok, orError_eq_ok,
    ensure_eq_ok, pure_eq_ok]
  constructor
  · rintro ⟨job, found, _, accessible, rfl⟩
    exact ⟨found, accessible⟩
  · rintro ⟨found, accessible⟩
    exact ⟨job, found, (), accessible, rfl⟩

theorem scopedJob_hidden {jobID : String}
    (hidden : ∀ job, m.jobs.get jobID = some job → canAccessHost principal job.hostID = false) :
    scopedJob m principal jobID = .error ⟨404, "not_found", "resource not found"⟩ := by
  unfold scopedJob Memory.getJob checkHostScope
  cases found : m.jobs.get jobID with
  | none => rfl
  | some job =>
    simp only [orError, Except.mapError, ensure, bind, Except.bind, hidden job found]
    rfl

theorem scopedJob_same (agree : AgreeInScope principal m m' cancels cancels') (jobID : String) :
    scopedJob m principal jobID = scopedJob m' principal jobID := by
  by_cases shown : ∃ job, m.jobs.get jobID = some job ∧ canAccessHost principal job.hostID = true
  · obtain ⟨job, found, accessible⟩ := shown
    have sameID := Keyed.key_of_get found
    subst sameID
    rw [scopedJob_eq_ok.mpr ⟨found, accessible⟩,
      scopedJob_eq_ok.mpr ⟨(agree.jobs job accessible).mp found, accessible⟩]
  · rw [scopedJob_hidden, scopedJob_hidden]
    · intro job found
      have sameID := Keyed.key_of_get found
      subst sameID
      by_contra accessible
      have inScope : canAccessHost principal job.hostID = true := by simpa using accessible
      exact shown ⟨job, (agree.jobs job inScope).mpr found, inScope⟩
    · intro job found
      by_contra accessible
      exact shown ⟨job, found, by simpa using accessible⟩

theorem cancelJob_same (agree : AgreeInScope principal m m' cancels cancels') (jobID : String) :
    cancelJob m cancels principal jobID = cancelJob m' cancels' principal jobID := by
  unfold cancelJob
  rw [← scopedJob_same agree jobID]
  cases read : scopedJob m principal jobID with
  | error error => rfl
  | ok job =>
    obtain ⟨found, accessible⟩ := scopedJob_eq_ok.mp read
    have sameID := Keyed.key_of_get found
    subst sameID
    simp only [bind, Except.bind, ensure, agree.cancels job accessible found]

theorem getHost_same (agree : AgreeInScope principal m m' cancels cancels') (hostID : String) :
    getHost m principal hostID = getHost m' principal hostID := by
  unfold getHost checkHostScope ensure Memory.getHost
  split
  · rename_i accessible
    rw [agree.hosts hostID accessible]
  · rfl

theorem getCredential_same (agree : AgreeInScope principal m m' cancels cancels')
    (hostID : String) : getCredential m principal hostID = getCredential m' principal hostID := by
  unfold getCredential checkHostScope ensure Memory.getCredential
  split
  · rename_i accessible
    rw [agree.credentials hostID accessible]
  · rfl

theorem listHosts_same (agree : AgreeInScope principal m m' cancels cancels')
    (order : m.RangeOrder) (order' : m'.RangeOrder) :
    SameButTies Host.createdAt
      ((m.listHosts order).filter fun host => canAccessHost principal host.id)
      ((m'.listHosts order').filter fun host => canAccessHost principal host.id) := by
  refine sameButTies_filter _ _ (fun _ _ => rfl) order.allHosts.nodup order'.allHosts.nodup ?_
  intro host accessible
  rw [order.allHosts.mem_iff, order'.allHosts.mem_iff, agree.hosts host.id accessible]

theorem listJobs_same (agree : AgreeInScope principal m m' cancels cancels')
    (order : m.RangeOrder) (order' : m'.RangeOrder) :
    SameButTies Job.createdAt
      ((m.listJobs order).filter fun job => canAccessHost principal job.hostID)
      ((m'.listJobs order').filter fun job => canAccessHost principal job.hostID) := by
  -- sorted by the negated time, since the newest come first
  have reversed := sameButTies_filter
    (fun first second : Job => decide (second.createdAt < first.createdAt))
    (fun job => canAccessHost principal job.hostID)
    (fun first second => by rw [decide_eq_decide, Int.neg_lt_neg_iff])
    order.allJobs.nodup order'.allJobs.nodup
    (fun job accessible => by
      rw [order.allJobs.mem_iff, order'.allJobs.mem_iff, agree.jobs job accessible])
  refine ⟨reversed.perm, ?_⟩
  have times := congrArg (List.map fun t => -t) reversed.times
  simp only [List.map_map, Function.comp_def, Int.neg_neg] at times
  exact times

/-- A request for something that is hidden is answered as one for something that
does not exist. -/
theorem respond_hidden {kind : ByID} {id : String} (order : m.RangeOrder)
    (hidden : Hidden m principal kind id) :
    respond m cancels principal order (.byID kind id) =
      (do
        require principal (ScopedRequest.byID kind id).permission
        .error ⟨404, "not_found", "resource not found"⟩) := by
  cases kind with
  | getHost =>
    simp only [respond, getHost, checkHostScope, ensure, Memory.getHost, orError]
    rcases hidden with outOfScope | missing
    · simp [outOfScope, bind, Except.bind]
    · rw [missing]
      split <;> rfl
  | getCredential =>
    simp only [respond, getCredential, checkHostScope, ensure, Memory.getCredential, orError]
    rcases hidden with outOfScope | missing
    · simp [outOfScope, bind, Except.bind]
    · rw [missing]
      split <;> rfl
  | getJob =>
    simp only [respond, getJob, scopedJob_hidden hidden]
    rfl
  | cancelJob =>
    simp only [respond, cancelJob, scopedJob_hidden hidden]
    rfl

theorem respond_same (agree : AgreeInScope principal m m' cancels cancels')
    (order : m.RangeOrder) (order' : m'.RangeOrder) (request : ScopedRequest) :
    SameResponse (respond m cancels principal order request)
      (respond m' cancels' principal order' request) := by
  unfold respond
  cases require principal request.permission with
  | error error => exact .error error
  | ok _ =>
    cases request with
    | listHosts => exact .ok (.hosts (listHosts_same agree order order'))
    | listJobs => exact .ok (.jobs (listJobs_same agree order order'))
    | byID kind id =>
      cases kind with
      | getHost => exact .of_eq (getHost_same agree id)
      | getCredential => exact .of_eq (getCredential_same agree id)
      | getJob =>
        refine .of_eq ?_
        show getJob m principal id = getJob m' principal id
        rw [getJob, getJob, scopedJob_same agree]
      | cancelJob => exact .of_eq (cancelJob_same agree id)

end Scoped

/-- A principal gets the same answers from two servers that agree on the hosts in
its scope, whatever else they hold, and cannot tell an ID out of scope from one
that does not exist, be it on one server or on two. -/
theorem scope_hides_other_hosts (principal : Principal) (m m' : Memory)
    (cancels cancels' : List String) (order : m.RangeOrder) (order' : m'.RangeOrder)
    (agree : AgreeInScope principal m m' cancels cancels') :
    (∀ request, SameResponse (respond m cancels principal order request)
      (respond m' cancels' principal order' request)) ∧
      ∀ kind id id', Hidden m principal kind id → Hidden m' principal kind id' →
        respond m cancels principal order (.byID kind id) =
          respond m' cancels' principal order' (.byID kind id') := by
  refine ⟨respond_same agree order order', ?_⟩
  intro kind id id' hidden hidden'
  rw [respond_hidden order hidden, respond_hidden order' hidden']
  cases kind <;> rfl

def scopedOperator : Principal := ⟨"olga", .operator, false, ["host_1"], "session_1"⟩

def listedHost (id : String) (createdAt : Int) : Host where
  id := id
  name := "web"
  address := "vps.example"
  port := 22
  username := "deploy"
  labels := none
  hostKey := none
  version := 1
  createdAt := createdAt
  updatedAt := createdAt

def oneHost : Memory := { Memory.newMemory with hosts := .single (listedHost "host_1" 0) }

def twoHosts : Memory :=
  { oneHost with hosts := (Keyed.single (listedHost "host_1" 0)).put (listedHost "host_2" 1) }

def oneHostOrder : oneHost.RangeOrder where
  hosts := [listedHost "host_1" 0]
  jobs := []
  allHosts := Keyed.enumerates_empty.put (Keyed.get_empty _)
  allJobs := Keyed.enumerates_empty

def twoHostsOrder : twoHosts.RangeOrder where
  hosts := [listedHost "host_2" 1, listedHost "host_1" 0]
  jobs := []
  allHosts := oneHostOrder.allHosts.put rfl
  allJobs := Keyed.enumerates_empty

theorem hosts_agree_in_scope : AgreeInScope scopedOperator oneHost twoHosts [] ["job_2"] := by
  refine ⟨?_, fun _ _ => rfl, fun _ _ => Iff.rfl, ?_⟩
  · intro id accessible
    have same : id = "host_1" := by simpa [canAccessHost, scopedOperator] using accessible
    subst same
    rfl
  · intro job _ found
    exact absurd ((Keyed.get_empty job.id).symm.trans found) nofun

/-- The second host does not show in the list, and asking for it gives what asking
for a third one gives, which neither server has. -/
theorem second_host_hidden :
    SameResponse (respond oneHost [] scopedOperator oneHostOrder .listHosts)
        (respond twoHosts ["job_2"] scopedOperator twoHostsOrder .listHosts) ∧
      respond oneHost [] scopedOperator oneHostOrder (.byID .getHost "host_3") =
        respond twoHosts ["job_2"] scopedOperator twoHostsOrder (.byID .getHost "host_2") := by
  obtain ⟨same, hidden⟩ := scope_hides_other_hosts scopedOperator oneHost twoHosts [] ["job_2"]
    oneHostOrder twoHostsOrder hosts_agree_in_scope
  exact ⟨same .listHosts, hidden .getHost "host_3" "host_2" (.inl rfl) (.inl rfl)⟩

end VpsManager.Control

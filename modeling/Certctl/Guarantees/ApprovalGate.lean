import Certctl.Guarantees.JobSamples
import Certctl.Source.Jobs.Decisions
import Certctl.Source.Jobs.Footprints

/-!
The approval gate over the life of a job. Many calls move the status of a job and one of
them looks at the approval request. A job that was created behind the gate leaves it by
`Approve`, by `ApproveJob`, which does not look at the request, and by way of Failed: the
timeout reaper fails it and the retry puts it back to Pending. The discipline rules out the
last two.
-/
namespace Certctl.Guarantees.ApprovalGate

open Lib Source Source.Jobs

inductive GateCall where
  | triggerRenewal (certID actor : String) (force : Bool)
  | approve (requestID decidedBy note : String)
  | reject (requestID decidedBy note : String)
  | expireStale (before : Time)
  | approveJob (id actor : String)
  | rejectJob (id reason : String)
  | reapTimedOutJobs (csrTTL approvalTTL : Time)
  | retryFailedJobs
  | claimPendingJobs (jobType : Option JobType) (limit : Int)
  | getPendingWork (agentID : String)

def gateBody (env : Env) : GateCall → Service
  | .triggerRenewal certID actor force => triggerRenewal env certID actor force
  | .approve requestID decidedBy note => approve env requestID decidedBy note
  | .reject requestID decidedBy note => reject requestID decidedBy note
  | .expireStale before => expireStale before
  | .approveJob id actor => approveJob env id actor
  | .rejectJob id reason => rejectJob id reason
  | .reapTimedOutJobs csrTTL approvalTTL => reapTimedOutJobs csrTTL approvalTTL
  | .retryFailedJobs => retryFailedJobs
  | .claimPendingJobs jobType limit => claimPendingJobs jobType limit
  | .getPendingWork agentID => getPendingWork agentID

abbrev GatePool := Pool Op.Result DB Reply GateCall

def gateStep (env : Env) : GatePool → Move GateCall Choice → Option GatePool :=
  poolStep (exec env) (gateBody env)

/-- The run begins with no call under way; the jobs created from then on are recorded. -/
def GateInit (s : GatePool) : Prop := s.tasks = [] ∧ s.store.created = []

/-- The job was created in AwaitingApproval. -/
def gated (db : DB) (id : String) : Bool :=
  db.created.any (fun job => decide (job.id = id) && decide (job.status = .awaitingApproval))

/-- The request for the job was approved, and not by the one who asked. -/
def approvedFor (db : DB) (id : String) : Bool :=
  db.approvals.rows.any (fun req => decide (req.jobID = id) && decide (req.state = .approved) &&
    req.decidedBy.any (fun decider => decide (decider ≠ req.requestedBy)))

def released : JobStatus → Bool
  | .pending | .running | .awaitingCSR | .completed => true
  | _ => false

/-- A job from behind the gate is released only with the approval. -/
def GateHolds (db : DB) : Prop :=
  ∀ id row, db.jobs.get? id = some row → gated db id = true → released row.status = true →
    approvedFor db id = true

/-- The job may go on: it is not behind the gate, or it has the approval. -/
def clear (db : DB) (id : String) : Bool := !gated db id || approvedFor db id

/-- `ApproveJob` looks at no job that still waits for its request to be approved, and no
such job is Failed when the retry lists. -/
def gateMay : GateCall → List (Event Op.Result) → DB → Op → Choice → Bool
  | .approveJob id _, _, db, .query (.getJob _), _ => clear db id
  | .retryFailedJobs, _, db, .query (.listByStatus _), _ =>
    db.jobs.rows.all (fun job => decide (job.status ≠ .failed) || clear db job.id)
  | _, _, _, _, _ => true

section Rely

variable {db : DB} {id : String}

theorem gated_iff :
    gated db id = true ↔ ∃ job ∈ db.created, job.id = id ∧ job.status = .awaitingApproval := by
  simp [gated]

variable {db' : DB} {c : Choice} {q : Query} {jobID : String}

theorem approvedFor_iff :
    approvedFor db jobID = true ↔ ∃ id req, db.approvals.get? id = some req ∧ req.jobID = jobID ∧
      req.state = .approved ∧ ∃ decider, req.decidedBy = some decider ∧
        decider ≠ req.requestedBy := by
  simp only [approvedFor, List.any_eq_true, Bool.and_eq_true, decide_eq_true_eq,
    Option.any_eq_true]
  constructor
  · rintro ⟨req, member, ⟨linked, approved⟩, decider, decided, other⟩
    exact ⟨req.id, req, Table.get?_of_mem member, linked, approved, decider, decided, other⟩
  · rintro ⟨id, req, found, linked, approved, decider, decided, other⟩
    exact ⟨req, Table.get?_mem found, ⟨linked, approved⟩, decider, decided, other⟩

theorem clear_iff : clear db id = true ↔ (gated db id = true → approvedFor db id = true) := by
  unfold clear
  cases gated db id <;> simp

theorem approvedFor_kept (kept : RequestsKept db db')
    (approved : approvedFor db jobID = true) : approvedFor db' jobID = true := by
  obtain ⟨id, req, found, linked, state, decided⟩ := approvedFor_iff.mp approved
  obtain ⟨req', found', progress⟩ := kept id req found
  rw [progress.settled (by simp [state])] at found'
  exact approvedFor_iff.mpr ⟨id, req, found', linked, state, decided⟩

/-- The recorded jobs are in the table, and the gate holds. -/
structure GateInv (db : DB) : Prop where
  present : ∀ job ∈ db.created, (db.jobs.get? job.id).isSome
  holds : GateHolds db

structure GateRely (db db' : DB) : Prop where
  kept : RequestsKept db db'
  jobs : ∀ id, (db.jobs.get? id).isSome → (db'.jobs.get? id).isSome
  gates : ∀ id, (db.jobs.get? id).isSome → gated db' id = true → gated db id = true
  holds : GateInv db → GateInv db'

theorem GateRely.refl (db : DB) : GateRely db db :=
  ⟨.refl db, fun _ present => present, fun _ _ same => same, fun holds => holds⟩

theorem GateRely.trans (a b c : DB) (first : GateRely a b) (second : GateRely b c) :
    GateRely a c :=
  ⟨first.kept.trans second.kept, fun id present => second.jobs id (first.jobs id present),
    fun id present later =>
      first.gates id present (second.gates id (first.jobs id present) later),
    fun holds => second.holds (first.holds holds)⟩

/-- A status write that releases a job needs the job to be clear. -/
def Harmless (db : DB) : Op → Prop
  | .query (.updateStatus id status _) => released status = true → clear db id = true
  | .query (.updateJob image) => released image.status = false
  | _ => True

variable {env : Env} {value : q.Value}

section

variable (performed : perform env db c q = .ok (db', value))

include performed

/-- A job in the table is gated after a query only if it was before. -/
theorem perform_gates (present : (db.jobs.get? id).isSome) (later : gated db' id = true) :
    gated db id = true := by
  obtain same | ⟨job, -, created, absent, -⟩ := perform_created performed
  · simpa [gated, same] using later
  · obtain ⟨old, member, keyed, waits⟩ := gated_iff.mp later
    rw [created] at member
    rcases mem_snoc member with before | rfl
    · exact gated_iff.mpr ⟨old, before, keyed, waits⟩
    · rw [keyed] at absent
      simp [absent] at present

theorem perform_jobs_present (present : (db.jobs.get? id).isSome) : (db'.jobs.get? id).isSome := by
  obtain ⟨row, found⟩ := Option.isSome_iff_exists.mp present
  obtain ⟨row', now, -⟩ := perform_job performed found
  simp [now]

theorem perform_gateHolds (harmless : Harmless db (.query q)) (inv : GateInv db) : GateInv db' := by
  have kept := perform_requestsKept performed
  refine ⟨?_, ?_⟩
  · intro job member
    obtain same | ⟨new, -, created, -, stored⟩ := perform_created performed
    · exact perform_jobs_present performed (inv.present job (same ▸ member))
    · rw [created] at member
      rcases mem_snoc member with before | rfl
      · exact perform_jobs_present performed (inv.present job before)
      · simp [stored]
  · intro id row' found' isGated isReleased
    cases found : db.jobs.get? id with
    | none =>
      -- A new job: recorded as gated means created in AwaitingApproval.
      obtain ⟨job, member, keyed, waits⟩ := gated_iff.mp isGated
      have unknown : job ∉ db.created := by
        intro old
        have stored := inv.present job old
        simp [keyed, found] at stored
      obtain same | ⟨new, isQuery, created, -, -⟩ := perform_created performed
      · exact absurd (same ▸ member) unknown
      · cases (perform_job_new performed found found').symm.trans isQuery
        rw [created] at member
        rcases mem_snoc member with before | rfl
        · exact absurd before unknown
        · rw [waits] at isReleased
          cases isReleased
    | some row =>
      have before := perform_gates performed (by simp [found]) isGated
      obtain ⟨after, now, way⟩ := perform_job performed found
      cases found'.symm.trans now
      obtain rfl | ⟨status, errMsg, rfl, rfl⟩ | ⟨image, rfl, -, rfl⟩ | ⟨-, isPending, rfl⟩ := way
      · exact approvedFor_kept kept (inv.holds id _ found before isReleased)
      · exact approvedFor_kept kept (clear_iff.mp (harmless isReleased) before)
      · have blocked : released image.status = false := harmless
        rw [show (overwrite image row).status = image.status from rfl, blocked] at isReleased
        cases isReleased
      · exact approvedFor_kept kept (inv.holds id row found before (by simp [isPending, released]))

end

theorem gateRely_of_harmless (o : Op) (harmless : Harmless db o) (c : Choice) :
    GateRely db (exec env db o c).1 := by
  refine exec_rely GateRely (.refl db) o ?_
  intro q db' value isQuery performed
  subst isQuery
  exact ⟨perform_requestsKept performed, fun _ => perform_jobs_present performed,
    fun _ => perform_gates performed, perform_gateHolds performed harmless⟩

end Rely

section Calls

variable {env : Env}

abbrev Allowed (call : GateCall) (log : List (Event Op.Result)) (db : DB) (o : Op) (c : Choice) :
    Prop := gateMay call log db o c = true

abbrev Gated (env : Env) (call : GateCall) (p : Service) (log : List (Event Op.Result)) (db : DB) :
    Prop :=
  Within (exec env) GateRely Allowed (fun _ _ _ _ => True) call p log db

theorem harmless_of_read (db : DB) (o : Op) (read : o.isWrite = false) : Harmless db o := by
  unfold Harmless
  split
  · cases read
  · cases read
  · trivial

variable {call : GateCall} {p : Service}

theorem gated_of_harmless
    (all : p.All (fun o => ∀ db, Harmless db o)) (log : List (Event Op.Result)) (db : DB) :
    Gated env call p log db :=
  within_of_all (all.mono fun o harmless _ s c _ => gateRely_of_harmless o (harmless s) c)
    (fun _ _ _ => trivial) log db

theorem gated_of_clear (ids : List String)
    (all : p.All (fun o => ∀ db, (∀ id ∈ ids, clear db id = true) → Harmless db o))
    (log : List (Event Op.Result)) {db : DB}
    (known : ∀ id ∈ ids, (db.jobs.get? id).isSome ∧ clear db id = true) :
    Gated env call p log db := by
  refine Within.given (K := fun db => ∀ id ∈ ids, (db.jobs.get? id).isSome ∧ clear db id = true)
    ?_ known ?_
  · intro s t moved holds id member
    -- a job in the table that may go on may still go on later
    obtain ⟨present, isClear⟩ := holds id member
    rw [clear_iff] at isClear ⊢
    refine ⟨moved.jobs id present, fun later => ?_⟩
    exact approvedFor_kept moved.kept (isClear (moved.gates id present later))
  · refine within_of_all (all.mono fun o harmless _ s c allowed => ?_) (fun _ _ _ => trivial) log db
    exact gateRely_of_harmless o (harmless s fun id member => (allowed.2 id member).2) c

theorem approve_gated (call : GateCall) (requestID decidedBy note : String)
    (log : List (Event Op.Result)) (db : DB) :
    Gated env call (approve env requestID decidedBy note) log db := by
  refine approve_within GateRely.refl (fun _ _ moved => moved.kept) (fun _ _ _ => trivial)
    requestID decidedBy note ?_ ?_ ?_ log db
  · exact fun _ s c at_ note' _ _ => gateRely_of_harmless
      (.query (.decidePending requestID .approved decidedBy at_ note')) trivial c
  · exact fun _ s c profile _ => gateRely_of_harmless (.query (.updateProfile profile)) trivial c
  · intro _ s c jobID granted _
    obtain ⟨req, found, approved, decided, other, linked⟩ := granted
    refine gateRely_of_harmless (.query (.updateStatus jobID .pending "")) (fun _ => ?_) c
    exact clear_iff.mpr fun _ =>
      approvedFor_iff.mpr ⟨requestID, req, found, linked, approved, decidedBy, decided, other⟩

theorem approveJob_gated (id actor : String) (db : DB) :
    Gated env (.approveJob id actor) (approveJob env id actor) [] db := by
  refine within_read rfl GateRely.refl fun s c r _ allowed returned => ?_
  cases r with
  | error e => trivial
  | ok job =>
    have found := getJob_ok returned
    dsimp only
    split
    · trivial
    refine gated_of_clear [id] ?_ _ ?_
    · refine checkNotSelf_all (fun o read _ db _ => harmless_of_read db o read) job actor
        (fun _ _ => trivial) ?_
      simp only [forall_except, query, Program.All]
      refine ⟨fun _ => trivial, fun _ => ⟨?_, fun _ => trivial, fun _ => trivial⟩⟩
      exact fun db known _ => known id List.mem_cons_self
    · intro id' member
      rw [List.mem_singleton.mp member]
      exact ⟨by simp [found], allowed⟩

theorem retryFailedJobs_gated (db : DB) : Gated env .retryFailedJobs retryFailedJobs [] db := by
  refine within_read rfl GateRely.refl fun s c r _ allowed returned => ?_
  cases r with
  | error e => trivial
  | ok jobs =>
    refine gated_of_clear (jobs.map Job.id) ?_ _ ?_
    · refine retryLoop_all (fun o read _ db _ => harmless_of_read db o read) jobs ?_
      exact fun job member _ db known _ => known job.id (List.mem_map_of_mem member)
    · intro id member
      obtain ⟨job, listed, rfl⟩ := List.mem_map.mp member
      obtain ⟨found, failed⟩ := listByStatus_ok returned job listed
      refine ⟨by simp [found], ?_⟩
      have passed := List.all_eq_true.mp allowed job (Table.get?_mem found)
      simpa [failed] using passed

theorem gateBody_gated (off : env.bypass = false) (call : GateCall) (db : DB) :
    Gated env call (gateBody env call) [] db := by
  have reads : ∀ o : Op, o.isWrite = false → o.readsCerts = false → ∀ db, Harmless db o :=
    fun o read _ db => harmless_of_read db o read
  have cancels : ∀ jobID errMsg db,
      Harmless db (.query (.updateStatus jobID .cancelled errMsg)) :=
    fun _ _ _ isReleased => by cases isReleased
  cases call with
  | approve requestID decidedBy note => exact approve_gated _ requestID decidedBy note [] db
  | approveJob id actor => exact approveJob_gated id actor db
  | retryFailedJobs => exact retryFailedJobs_gated db
  | triggerRenewal certID actor force =>
    refine gated_of_harmless (triggerRenewal_all reads cancels (fun _ _ _ => trivial)
      (fun on => by simp [off] at on) certID actor force ?_ ?_ ?_) [] db
    · exact fun _ => trivial
    · exact fun _ _ => trivial
    · exact fun _ _ => trivial
  | reject requestID decidedBy note =>
    exact gated_of_harmless (reject_all reads cancels _ _ _ fun _ _ _ => trivial) [] db
  | expireStale before =>
    exact gated_of_harmless (expireStale_all reads cancels before fun _ => trivial) [] db
  | rejectJob id reason =>
    exact gated_of_harmless (rejectJob_all reads id reason (cancels id)) [] db
  | reapTimedOutJobs csrTTL approvalTTL =>
    exact gated_of_harmless (reapTimedOutJobs_all reads csrTTL approvalTTL fun _ _ _ => rfl) [] db
  | claimPendingJobs jobType limit =>
    exact gated_of_harmless (claimPendingJobs_all jobType limit fun _ => trivial) [] db
  | getPendingWork agentID =>
    exact gated_of_harmless (getPendingWork_all reads agentID fun _ => trivial) [] db

theorem gateObligations (off : env.bypass = false) :
    Obligations (exec env) (gateBody env) GateRely Allowed (fun _ _ _ _ => True) GateInv
      (fun s m => disciplined gateMay s m = true) where
  refl := .refl
  trans := .trans
  settled := fun _ _ _ _ _ _ _ => trivial
  keeps := fun _ _ moved => moved.holds
  opens := fun s call _ _ => gateBody_gated off call s.store
  meets := fun _ _ _ _ _ _ _ => may_of_disciplined

end Calls

/-- In every state of a disciplined run, a job that was created in AwaitingApproval and has
gone on has its own request approved by someone other than the requester. -/
theorem gate_holds (env : Env) (off : env.bypass = false) (s : GatePool)
    (reached : ReachableUnder (gateStep env) GateInit (fun s m => disciplined gateMay s m) s) :
    GateHolds s.store := by
  refine (covered_of_reachable (gateObligations off) (fun _ initial => initial.1) ?_
    reached).store.holds
  intro s initial
  refine ⟨?_, ?_⟩
  · intro job member
    rw [initial.2] at member
    cases member
  · intro id row _ isGated
    simp [gated, initial.2] at isGated

theorem gated_init : GateInit ⟨.gated, []⟩ := ⟨rfl, rfl⟩

def timeChoice (now : Time) : Choice := { Choice.plain with now }

def jobStatusIs (id : String) (status : JobStatus) (s : GatePool) : Bool :=
  decide ((s.store.jobs.get? id).map Job.status = some status)

/-- The gated job is Pending with its request undecided. -/
def slippedThrough (s : GatePool) : Bool :=
  jobStatusIs "job-1" .pending s && gated s.store "job-1" && !approvedFor s.store "job-1"

theorem not_gateHolds_of_slipped {s : GatePool} (slipped : slippedThrough s = true) :
    ¬ GateHolds s.store := by
  simp only [slippedThrough, jobStatusIs, Bool.and_eq_true, decide_eq_true_eq,
    Option.map_eq_some_iff, Bool.not_eq_true'] at slipped
  obtain ⟨⟨⟨row, found, isPending⟩, isGated⟩, unapproved⟩ := slipped
  intro holds
  have approved := holds "job-1" row found isGated (by simp [isPending, released])
  rw [unapproved] at approved
  cases approved

/-- The timeout reaper fails the waiting job and the retry puts it back to Pending: no one
has approved anything. -/
theorem gate_bypassed_by_retry : ∃ s : GatePool,
    Reachable (gateStep .plain) GateInit s ∧ ¬ GateHolds s.store := by
  obtain ⟨s, reached, slipped⟩ := exists_reached_of_replay (gateStep .plain) gated_init
    (gatedRenewal (.triggerRenewal "mc-1" "alice" false) ++
      [.start (.reapTimedOutJobs 10 10), .step 1 (timeChoice 100), .step 1 .plain, .step 1 .plain,
        .start .retryFailedJobs, .step 2 .plain, .step 2 (timeChoice (100 * day)), .step 2 .plain])
    (fun s => slippedThrough s) (by decide +kernel)
  exact ⟨s, reached, not_gateHolds_of_slipped slipped⟩

/-- The way out by a second person. -/
theorem gate_opened_by_approve : ∃ s : GatePool,
    jobStatusIs "job-1" .pending s = true ∧ GateHolds s.store := by
  obtain ⟨s, reached, isPending⟩ := exists_reachable_of_replay (gateStep .plain)
    (disciplined gateMay) gated_init
    (gatedRenewal (.triggerRenewal "mc-1" "alice" false) ++
      [.start (.approve "ar-1" "bob" "")] ++ List.replicate 5 (.step 1 .plain))
    (fun s => jobStatusIs "job-1" .pending s) (by decide +kernel)
  exact ⟨s, isPending, gate_holds .plain rfl s reached⟩

end Certctl.Guarantees.ApprovalGate

import Certctl.Guarantees.JobSamples
import Certctl.Source.Jobs.Footprints
import Certctl.Source.Jobs.Processing

/-!
How often a job is claimed. A claim adds one to the attempts in the table; the retry looks at
the attempts in the row it has listed, and the reapers write back the attempts of the row
they have listed. The count of claims stays below the attempts in the table as long as these
writes find the attempts as they were listed.
-/
namespace Certctl.Guarantees.BoundedAttempts

open Lib Source Source.Jobs

/-- A processing failure of an agent comes as a report. -/
inductive AttemptCall where
  | claimPendingJobs (jobType : Option JobType) (limit : Int)
  | getPendingWork (agentID : String)
  | processPendingJobs
  | reportFailure (jobID errMsg : String)
  | retryFailedJobs
  | reapTimedOutJobs (csrTTL approvalTTL : Time)
  | reapJobsWithOfflineAgents (agentTTL : Time)

def attemptBody (env : Env) : AttemptCall → Service
  | .claimPendingJobs jobType limit => claimPendingJobs jobType limit
  | .getPendingWork agentID => getPendingWork agentID
  | .processPendingJobs => processPendingJobs env
  | .reportFailure jobID errMsg => reportJobStatus jobID .failed errMsg
  | .retryFailedJobs => retryFailedJobs
  | .reapTimedOutJobs csrTTL approvalTTL => reapTimedOutJobs csrTTL approvalTTL
  | .reapJobsWithOfflineAgents agentTTL => reapJobsWithOfflineAgents agentTTL

abbrev AttemptPool := Pool Op.Result DB Reply AttemptCall

def attemptStep (env : Env) : AttemptPool → Move AttemptCall Choice → Option AttemptPool :=
  poolStep (exec env) (attemptBody env)

/-- The claims are counted from the beginning of the run. -/
def AttemptInit (s : AttemptPool) : Prop :=
  s.tasks = [] ∧ s.store.claimed = [] ∧
    ∀ id row, s.store.jobs.get? id = some row → 0 ≤ row.attempts

/-- The row of the job in the list the retry works on. -/
def lists (id : String) : Event Op.Result → Option Job
  | ⟨.query (.listByStatus _), .ok jobs⟩ => jobs.find? (fun job => decide (job.id = id))
  | _ => none

def attemptsAre (db : DB) (id : String) (attempts : Int) : Bool :=
  (db.jobs.get? id).all (fun row => decide (row.attempts = attempts))

/-- The attempts are as the retry has listed them. -/
def attemptsListed (log : List (Event Op.Result)) (db : DB) (id : String) : AttemptCall → Bool
  | .retryFailedJobs => (log.findSome? (lists id)).all (fun job => attemptsAre db id job.attempts)
  | _ => true

/-- The writes of the retry and of the reapers find the attempts as they were listed. -/
def attemptMay (call : AttemptCall) (log : List (Event Op.Result)) (db : DB) (o : Op)
    (_ : Choice) : Bool :=
  match o with
  | .query (.updateStatus id _ _) => attemptsListed log db id call
  | .query (.updateJob image) => attemptsAre db image.id image.attempts
  | _ => true

section Rely

/-- The claims so far are within the attempts and within the bound, and a job that has been
claimed is only Pending again with attempts left. -/
structure WithinBound (claims : Nat) (row : Job) : Prop where
  counted : (claims : Int) ≤ row.attempts
  bounded : (claims : Int) ≤ max 1 row.maxAttempts
  left : row.status = .pending → 0 < claims → row.attempts < row.maxAttempts

structure AttemptInv (db : DB) : Prop where
  unclaimed : ∀ id, db.jobs.get? id = none → db.claimed.count id = 0
  rows : ∀ id row, db.jobs.get? id = some row → WithinBound (db.claimed.count id) row

structure AttemptRely (db db' : DB) : Prop where
  limit : ∀ id row, db.jobs.get? id = some row →
    ∃ row', db'.jobs.get? id = some row' ∧ row'.maxAttempts = row.maxAttempts
  holds : AttemptInv db → AttemptInv db'

theorem AttemptRely.refl (db : DB) : AttemptRely db db :=
  ⟨fun _ row found => ⟨row, found, rfl⟩, fun inv => inv⟩

theorem AttemptRely.trans (a b c : DB) (first : AttemptRely a b) (second : AttemptRely b c) :
    AttemptRely a c := by
  refine ⟨?_, fun inv => second.holds (first.holds inv)⟩
  intro id row found
  obtain ⟨row', found', same⟩ := first.limit id row found
  obtain ⟨row'', found'', same'⟩ := second.limit id row' found'
  exact ⟨row'', found'', same'.trans same⟩

/-- What a write has to find. -/
def Counted (db : DB) : Op → Prop
  | .query (.updateStatus id status _) => status = .pending →
      ∀ row, db.jobs.get? id = some row → row.attempts < row.maxAttempts
  | .query (.updateJob image) => image.status ≠ .pending ∧
      ∀ row, db.jobs.get? image.id = some row →
        row.attempts = image.attempts ∧ row.maxAttempts = image.maxAttempts
  | .query (.createJob new) => 0 ≤ new.attempts
  | _ => True

variable {row : Job} {q : Query}

theorem WithinBound.claimed {claims : Nat} (bound : WithinBound claims row)
    (isPending : row.status = .pending) (now : Time) :
    WithinBound (claims + 1) (markClaimed now row) := by
  have counted := bound.counted
  refine ⟨?_, ?_, fun stillPending => by cases stillPending⟩
  · simp only [markClaimed]
    omega
  · simp only [markClaimed]
    by_cases first : claims = 0
    · omega
    · have left := bound.left isPending (Nat.pos_of_ne_zero first)
      omega

variable {env : Env} {db db' : DB} {c : Choice} {value : q.Value}

theorem perform_limit (performed : perform env db c q = .ok (db', value))
    (counted : Counted db (.query q)) {id : String} (found : db.jobs.get? id = some row) :
    ∃ row', db'.jobs.get? id = some row' ∧ row'.maxAttempts = row.maxAttempts := by
  obtain ⟨row', now, way⟩ := perform_job performed found
  refine ⟨row', now, ?_⟩
  obtain rfl | ⟨status, errMsg, -, rfl⟩ | ⟨image, rfl, rfl, rfl⟩ | ⟨-, -, rfl⟩ := way
  · rfl
  · rfl
  · exact (counted.2 row found).2.symm
  · rfl

theorem perform_attempts (performed : perform env db c q = .ok (db', value))
    (counted : Counted db (.query q)) (inv : AttemptInv db) : AttemptInv db' := by
  refine ⟨?_, ?_⟩
  · intro id absent'
    cases found : db.jobs.get? id with
    | none => rw [perform_claimed_absent performed found, inv.unclaimed id found]
    | some row =>
      obtain ⟨row', found', -⟩ := perform_limit performed counted found
      rw [absent'] at found'
      cases found'
  · intro id row' found'
    cases found : db.jobs.get? id with
    | none =>
      rw [perform_claimed_absent performed found, inv.unclaimed id found]
      have isNew := perform_job_new performed found found'
      subst isNew
      have fresh : 0 ≤ row'.attempts := counted
      exact ⟨by simpa using fresh, by simp, fun _ claimed => by simp at claimed⟩
    | some row =>
      have bound := inv.rows id row found
      obtain ⟨after, now, way⟩ := perform_job_counted performed found
      cases found'.symm.trans now
      obtain ⟨same, rfl | ⟨status, errMsg, rfl, rfl⟩ | ⟨image, rfl, rfl, rfl⟩⟩ |
        ⟨more, -, isPending, rfl⟩ := way
      · rw [same]
        exact bound
      · rw [same]
        exact ⟨bound.counted, bound.bounded, fun isPending _ => counted isPending row found⟩
      · rw [same]
        obtain ⟨attempts, limit⟩ := counted.2 row found
        refine ⟨?_, ?_, fun isPending => absurd isPending counted.1⟩
        · simpa only [overwrite, attempts] using bound.counted
        · simpa only [overwrite, limit] using bound.bounded
      · rw [more]
        exact bound.claimed isPending c.now

theorem attemptRely_of_counted (o : Op) (counted : Counted db o) (c : Choice) :
    AttemptRely db (exec env db o c).1 := by
  refine exec_rely AttemptRely (.refl db) o ?_
  intro q db' value isQuery performed
  subst isQuery
  exact ⟨fun _ _ found => perform_limit performed counted found, perform_attempts performed counted⟩

end Rely

section Calls

variable {env : Env} {call : AttemptCall}

abbrev Allowed (call : AttemptCall) (log : List (Event Op.Result)) (db : DB) (o : Op) (c : Choice) :
    Prop := attemptMay call log db o c = true

abbrev Bounded (env : Env) (call : AttemptCall) (p : Service) (log : List (Event Op.Result))
    (db : DB) : Prop :=
  Within (exec env) AttemptRely Allowed (fun _ _ _ _ => True) call p log db

theorem counted_of_read (db : DB) (o : Op) (read : o.isWrite = false) : Counted db o := by
  unfold Counted
  split
  · cases read
  · cases read
  · cases read
  · trivial

theorem bounded_of_counted {p : Service} (all : p.All (fun o => ∀ db, Counted db o))
    (log : List (Event Op.Result)) (db : DB) : Bounded env call p log db :=
  within_of_all (all.mono fun o counted _ s c _ => attemptRely_of_counted o (counted s) c)
    (fun _ _ _ => trivial) log db

/-- The listed jobs are in the table with the limit they were listed with. -/
def SameLimits (jobs : List Job) (db : DB) : Prop :=
  ∀ job ∈ jobs, ∃ row, db.jobs.get? job.id = some row ∧ row.maxAttempts = job.maxAttempts

variable {jobs : List Job} {db : DB}

theorem SameLimits.stable (db db' : DB) (moved : AttemptRely db db')
    (same : SameLimits jobs db) : SameLimits jobs db' := by
  intro job member
  obtain ⟨row, found, limit⟩ := same job member
  obtain ⟨row', found', limit'⟩ := moved.limit job.id row found
  exact ⟨row', found', limit'.trans limit⟩

theorem sameLimits_of_listed
    (listed : ∀ job ∈ jobs, db.jobs.get? job.id = some job) : SameLimits jobs db :=
  fun job member => ⟨job, listed job member, rfl⟩

theorem reapLoop_bounded (errMsg : Job → Option String) (jobs : List Job)
    (log : List (Event Op.Result)) (same : SameLimits jobs db) :
    Bounded env call (reapLoop errMsg jobs) log db := by
  refine Within.given SameLimits.stable same ?_
  refine within_of_all (reapLoop_all errMsg jobs ?_) (fun _ _ _ => trivial) log db
  intro job member text _ log s c allowed
  refine attemptRely_of_counted (.query (.updateJob _)) ⟨by simp, fun row found => ?_⟩ c
  obtain ⟨row', found', limit⟩ := allowed.2 job member
  rw [found] at found'
  cases found'
  have attempts : row.attempts = job.attempts := by
    simpa [Allowed, attemptMay, attemptsAre, found] using allowed.1
  exact ⟨attempts, limit⟩

/-- The retry writes to jobs it has listed with attempts left. -/
def RetriesListed (jobs : List Job) (log : List (Event Op.Result)) : Op → Prop
  | .query (.updateStatus id _ _) => ∃ job ∈ jobs, job.id = id ∧
      log.findSome? (lists id) = some job ∧ job.attempts < job.maxAttempts
  | o => o.isWrite = false

theorem retryLoop_listed (all jobs : List Job) (among : ∀ job ∈ jobs, job ∈ all)
    (log : List (Event Op.Result)) (listed : ∀ job ∈ all, log.findSome? (lists job.id) = some job) :
    (retryLoop jobs).AllFrom (RetriesListed all) log := by
  induction jobs generalizing log with
  | nil => trivial
  | cons job rest ih =>
    obtain ⟨member, others⟩ := List.forall_mem_cons.mp among
    have later := ih others
    unfold retryLoop
    split
    · exact later log listed
    next left =>
      refine ⟨rfl, fun now => ?_⟩
      dsimp only
      split
      · refine ⟨⟨job, member, rfl, listed job member, by omega⟩, fun r => later _ ?_⟩
        exact listed
      · exact later _ listed

theorem retryFailedJobs_bounded (db : DB) : Bounded env .retryFailedJobs retryFailedJobs [] db := by
  refine retryFailedJobs_within (fun _ _ _ => trivial) AttemptRely.refl (fun s jobs listed => ?_) db
  have rows : ∀ job ∈ jobs, s.jobs.get? job.id = some job := fun job member => (listed job member).1
  refine Within.given SameLimits.stable (sameLimits_of_listed rows) ?_
  refine within_of_allFrom ((retryLoop_listed jobs jobs (fun _ member => member) _ ?_).mono ?_)
    (fun _ _ _ => trivial) s
  · intro job member
    simp [lists, Table.find?_of_rows rows member]
  · intro log o retries s' c' allowed
    refine attemptRely_of_counted o ?_ c'
    unfold RetriesListed at retries
    split at retries
    next id status errMsg =>
      intro _ row found
      obtain ⟨job, member, rfl, listed, left⟩ := retries
      obtain ⟨row', found', limit⟩ := allowed.2 job member
      rw [found] at found'
      cases found'
      have attempts : row.attempts = job.attempts := by
        simpa [Allowed, attemptMay, attemptsListed, listed, attemptsAre, found] using allowed.1
      omega
    · exact counted_of_read s' o retries

theorem reapTimedOutJobs_bounded (csrTTL approvalTTL : Time) (db : DB) :
    Bounded env call (reapTimedOutJobs csrTTL approvalTTL) [] db :=
  reapTimedOutJobs_within (fun _ _ _ => trivial) AttemptRely.refl
    (fun _ _ jobs listed => reapLoop_bounded _ jobs _
      (sameLimits_of_listed fun job member => (listed job member).1)) db

theorem reapJobsWithOfflineAgents_bounded (agentTTL : Time) (db : DB) :
    Bounded env call (reapJobsWithOfflineAgents agentTTL) [] db :=
  reapJobsWithOfflineAgents_within (fun _ _ _ => trivial) AttemptRely.refl
    (fun _ _ jobs errMsg listed => reapLoop_bounded errMsg jobs _
      (sameLimits_of_listed fun job member => (listed job member).1)) db

theorem processJob_bounded (job : Job) (log : List (Event Op.Result)) (db : DB) :
    Bounded env call (processJob env job) log db := by
  refine bounded_of_counted (processJob_conforms.all ?_) log db
  intro a b o moves db
  obtain ⟨status, errMsg, rfl, -, written⟩ | ⟨new, rfl, -, -, fresh, -⟩ | ⟨apart, -⟩ :=
    processing_cases moves
  · intro isPending
    subst isPending
    cases written
  · exact fresh.ge
  · unfold Counted
    split
    · cases apart
    · cases apart
    · cases apart
    · trivial

theorem attemptBody_bounded (call : AttemptCall) (db : DB) :
    Bounded env call (attemptBody env call) [] db := by
  have reads : ∀ o : Op, o.isWrite = false → o.readsCerts = false → ∀ db, Counted db o :=
    fun o read _ db => counted_of_read db o read
  cases call with
  | claimPendingJobs jobType limit =>
    exact bounded_of_counted (claimPendingJobs_all jobType limit fun _ => trivial) [] db
  | getPendingWork agentID =>
    exact bounded_of_counted (getPendingWork_all reads agentID fun _ => trivial) [] db
  | processPendingJobs =>
    refine within_query fun s c _ _ =>
      ⟨attemptRely_of_counted (.query (.claimPendingJobs none env.claimLimit)) trivial c, ?_⟩
    simp only [forall_except]
    exact ⟨fun _ _ => trivial, fun jobs _ => fanOut_within (fun _ _ _ => trivial)
      (fun job db => processJob_bounded job [] db) jobs _ _⟩
  | reportFailure jobID errMsg =>
    refine bounded_of_counted (reportJobStatus_all reads jobID .failed errMsg ?_) [] db
    exact fun _ isPending => by cases isPending
  | retryFailedJobs => exact retryFailedJobs_bounded db
  | reapTimedOutJobs csrTTL approvalTTL => exact reapTimedOutJobs_bounded csrTTL approvalTTL db
  | reapJobsWithOfflineAgents agentTTL => exact reapJobsWithOfflineAgents_bounded agentTTL db

theorem attemptObligations : Obligations (exec env) (attemptBody env) AttemptRely Allowed
    (fun _ _ _ _ => True) AttemptInv (fun s m => disciplined attemptMay s m = true) where
  refl := .refl
  trans := .trans
  settled := fun _ _ _ _ _ _ _ => trivial
  keeps := fun _ _ moved => moved.holds
  opens := fun s call _ _ => attemptBody_bounded call s.store
  meets := fun _ _ _ _ _ _ _ => may_of_disciplined

end Calls

/-- In every state of a disciplined run a job has been claimed at most `max(1, max_attempts)`
times. -/
theorem claims_bounded (env : Env) (s : AttemptPool)
    (reached : ReachableUnder (attemptStep env) AttemptInit
      (fun s m => disciplined attemptMay s m) s)
    (id : String) (row : Job) (found : s.store.jobs.get? id = some row) :
    (s.store.claimed.count id : Int) ≤ max 1 row.maxAttempts := by
  have covered : Covered (exec env) AttemptRely Allowed (fun _ _ _ _ => True) AttemptInv s := by
    refine covered_of_reachable attemptObligations (fun _ initial => initial.1) ?_ reached
    rintro s ⟨-, uncounted, sound⟩
    refine ⟨fun id _ => by simp [uncounted], fun id row found => ?_⟩
    rw [uncounted]
    exact ⟨by simpa using sound id row found, by simp, fun _ claimed => by simp at claimed⟩
  exact (covered.store.rows id row found).bounded

/-- A Failed job with one attempt that has not been made. -/
def failedJobPool : AttemptPool :=
  ⟨{ DB.empty with jobs := ⟨[{ newJob "job-1" "mc-1" .renewal .failed 0 0 with
      maxAttempts := 1 }], by decide⟩ }, []⟩

theorem failedJobPool_init : AttemptInit failedJobPool := by
  refine ⟨rfl, rfl, ?_⟩
  intro id row found
  have member := Table.get?_mem found
  rw [show failedJobPool.store.jobs.rows = [{ newJob "job-1" "mc-1" .renewal .failed 0 0 with
    maxAttempts := 1 }] from rfl, List.mem_singleton] at member
  subst member
  decide

def later : Choice := { Choice.plain with now := day }

def claimsOf (n : Nat) (s : AttemptPool) : Bool :=
  decide (s.store.claimed.count "job-1" = n) &&
    (s.store.jobs.get? "job-1").any (fun row => decide (row.maxAttempts = 1))

/-- Two retries list the job; the second writes after the first one's claim has failed. -/
theorem claimed_twice : ∃ s : AttemptPool, Reachable (attemptStep .plain) AttemptInit s ∧
    ∃ row, s.store.jobs.get? "job-1" = some row ∧
      ¬ ((s.store.claimed.count "job-1" : Int) ≤ max 1 row.maxAttempts) :=
  exists_reached_of_replay (attemptStep .plain) failedJobPool_init
    [.start .retryFailedJobs, .step 0 .plain, .start .retryFailedJobs, .step 1 .plain,
      .step 0 later, .step 0 .plain, .start (.claimPendingJobs none 0), .step 2 .plain,
      .start (.reportFailure "job-1" "no route"), .step 3 .plain, .step 3 .plain,
      .step 1 later, .step 1 .plain, .start (.claimPendingJobs none 0), .step 4 .plain]
    _ (by decide +kernel)

/-- One retry and one claim. -/
theorem claimed_once : ∃ s : AttemptPool, claimsOf 1 s = true ∧
    ∃ row, s.store.jobs.get? "job-1" = some row ∧
      (s.store.claimed.count "job-1" : Int) ≤ max 1 row.maxAttempts := by
  obtain ⟨s, reached, once⟩ := exists_reachable_of_replay (attemptStep .plain)
    (disciplined attemptMay) failedJobPool_init
    [.start .retryFailedJobs, .step 0 .plain, .step 0 later, .step 0 .plain,
      .start (.claimPendingJobs none 0), .step 1 .plain]
    (fun s => claimsOf 1 s ∧ ∃ row, s.store.jobs.get? "job-1" = some row ∧ True)
    (by decide +kernel)
  obtain ⟨once, row, found, -⟩ := once
  exact ⟨s, once, row, found, claims_bounded .plain s reached "job-1" row found⟩

end Certctl.Guarantees.BoundedAttempts

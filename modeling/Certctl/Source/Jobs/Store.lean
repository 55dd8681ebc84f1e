import Certctl.Lib.Program
import Certctl.Source.Inventory
import Certctl.Source.Jobs.Types
import Certctl.Source.Revocations

/-!
The tables behind the job services, and the repository calls as queries. A query runs as
one step. It may fail by a choice of the surroundings, and a write that fails may have been
carried out all the same. A claim takes the rows that no other transaction has locked; the
locked ones are part of the choice. Where a list is ordered by a time, a tie goes to the
row stored first. Foreign keys are not part of the model.

Source: internal/repository/postgres/approval.go, certificate.go, job.go, profile.go,
target.go; internal/service/renewal.go.
-/
namespace Certctl.Source.Jobs

open Lib

/-- Besides the tables the state records every job ever inserted and, once for each claim,
the claimed job; no query reads these two. -/
structure DB where
  jobs : Table Job.id
  approvals : Table ApprovalRequest.id
  inventory : Inventory
  revocations : Revocations
  profiles : Table (fun p : Profile => p.id)
  targets : Table Target.id
  mappings : List (String × String)
  agents : Table Agent.id
  owners : Table Owner.id
  created : List Job
  claimed : List String

def DB.empty : DB :=
  ⟨.empty _, .empty _, .empty, .empty _, .empty _, .empty _, [], .empty _, .empty _, [], []⟩

/-- The columns a profile repository carries between the table and the service: all of
them, or those the statements of the Postgres repository name, which leave
`requires_approval` out. -/
inductive ProfileColumns where
  | all | postgres

def ProfileColumns.read : ProfileColumns → Profile → Profile
  | .all, row => row
  | .postgres, row => { row with requiresApproval := false }

/-- The row after an update; the Postgres statement does not name `acme_auth_mode` either. -/
def ProfileColumns.write : ProfileColumns → Profile → Profile → Profile
  | .all, image, row => { image with id := row.id }
  | .postgres, image, row =>
    { image with
      id := row.id
      requiresApproval := row.requiresApproval
      acmeAuthMode := row.acmeAuthMode }

theorem ProfileColumns.write_id (columns : ProfileColumns) (image row : Profile) :
    (columns.write image row).id = row.id := by
  cases columns <;> rfl

/-- What is fixed for a deployment: the wiring of the services, the registered issuers, and
the code the model takes as given (the owner column of a certificate, the filter of the
certificate list, the decoding of a profile payload, the check of a request against a
profile, the fingerprint of a certificate, the case table of Unicode). -/
structure Env where
  keygenMode : KeygenMode
  bypass : Bool
  tx : Bool
  jobRepo : Bool
  approvalSvc : Bool
  profileRepo : Bool
  ownerCheck : Bool
  profileEditApply : Bool
  profileColumns : ProfileColumns
  claimLimit : Int
  issuers : List String
  ownerOf : ManagedCertificate → String
  selects : BulkRenewalCriteria → ManagedCertificate → Bool
  decodeProfile : List UInt8 → Except String Profile
  validateCSR : String → Option Profile → Except String Unit
  fingerprint : String → String
  unicode : UnicodeCase

/-- What is open at each step: whether the call fails, and then whether its write was
carried out; the time; a generated identifier; the rows other transactions have locked;
and what the key generator and the issuer answer. -/
structure Choice where
  fault : Option (String × Bool)
  now : Time
  id : String
  locked : List String
  key : Except String String
  issuance : Except String Issuance
  renewalInfo : Except String (Option Time)

/-- Nothing fails, and the issuer is not asked. -/
def Choice.plain : Choice := ⟨none, 0, "", [], .ok "", .error "", .ok none⟩

inductive Query where
  | getJob (id : String)
  | createJob (job : Job)
  | updateJob (job : Job)
  | updateStatus (id : String) (status : JobStatus) (errMsg : String)
  | listByStatus (status : JobStatus)
  | listByCertificate (certID : String)
  | claimPendingJobs (jobType : Option JobType) (limit : Int)
  | claimPendingByAgentID (agentID : String)
  | listTimedOutAwaitingJobs (csrCutoff approvalCutoff : Time)
  | listJobsWithOfflineAgents (agentCutoff : Time)
  | createApproval (req : ApprovalRequest)
  | getApproval (id : String)
  | listPendingApprovals (perPage : Int)
  /-- The conditional update of `UpdateState`; it returns the rows affected. -/
  | decidePending (id : String) (state : ApprovalState) (decidedBy : String) (decidedAt : Time)
      (note : Option String)
  | expireStale (before : Time)
  | getCertificate (id : String)
  | updateCertificate (cert : ManagedCertificate)
  | getExpiringCertificates (before : Time)
  | listCertificates (criteria : BulkRenewalCriteria)
  | getLatestVersion (certID : String)
  | createVersion (version : CertificateVersion)
  /-- The version, the certificate and the audit row in one transaction. -/
  | commitRenewal (version : CertificateVersion) (cert : ManagedCertificate)
  /-- The certificate, the revocation row and the audit row in one transaction. -/
  | commitRevocation (cert : ManagedCertificate) (row : CertificateRevocation)
  | createRevocation (row : CertificateRevocation)
  | getProfile (id : String)
  | updateProfile (profile : Profile)
  | getTarget (id : String)
  | targetsByCertificate (certID : String)
  | getAgent (id : String)
  | getOwner (id : String)

/-- A certificate comes with its target IDs from the junction table. -/
@[reducible] def Query.Value : Query → Type
  | .getJob _ => Job
  | .createJob _ | .updateJob _ | .updateStatus .. => Unit
  | .listByStatus _ | .listByCertificate _ | .claimPendingJobs .. | .claimPendingByAgentID _
  | .listTimedOutAwaitingJobs .. | .listJobsWithOfflineAgents _ => List Job
  | .createApproval _ => Unit
  | .getApproval _ => ApprovalRequest
  | .listPendingApprovals _ => List ApprovalRequest
  | .decidePending .. | .expireStale _ => Nat
  | .getCertificate _ => ManagedCertificate × List String
  | .updateCertificate _ => Unit
  | .getExpiringCertificates _ | .listCertificates _ => List ManagedCertificate
  | .getLatestVersion _ => CertificateVersion
  | .createVersion _ | .commitRenewal .. | .commitRevocation .. | .createRevocation _ => Unit
  | .getProfile _ => Profile
  | .updateProfile _ => Unit
  | .getTarget _ => Target
  | .targetsByCertificate _ => List Target
  | .getAgent _ => Agent
  | .getOwner _ => Owner

/-- The text a repository puts before the driver's error. -/
def Query.context : Query → String
  | .getJob _ => "failed to query job: "
  | .createJob _ => "failed to create job: "
  | .updateJob _ => "failed to update job: "
  | .updateStatus .. => "failed to update job status: "
  | .listByStatus _ => "failed to query jobs by status: "
  | .listByCertificate _ => "failed to query jobs for certificate: "
  | .claimPendingJobs .. => "failed to query claimable jobs: "
  | .claimPendingByAgentID _ => "failed to query pending deployment jobs for agent (direct): "
  | .listTimedOutAwaitingJobs .. => "failed to query timed-out awaiting jobs: "
  | .listJobsWithOfflineAgents _ => "failed to query jobs with offline agents: "
  | .createApproval _ => "insert approval request: "
  | .getApproval _ => "scan approval row: "
  | .listPendingApprovals _ => "list approval requests: "
  | .decidePending .. => "update approval state: "
  | .expireStale _ => "expire stale approvals: "
  | .getCertificate _ => "failed to query certificate: "
  | .updateCertificate _ => "failed to update certificate: "
  | .getExpiringCertificates _ => "failed to query expiring certificates: "
  | .listCertificates _ => "failed to query certificates: "
  | .getLatestVersion _ => "failed to get latest certificate version: "
  | .createVersion _ => "failed to create certificate version: "
  | .commitRenewal .. | .commitRevocation .. => ""
  | .createRevocation _ => "failed to create revocation record: "
  | .getProfile _ => "failed to query profile: "
  | .updateProfile _ => "failed to update profile: "
  | .getTarget _ => "failed to query target: "
  | .targetsByCertificate _ => "failed to query targets for certificate: "
  | .getAgent _ => "failed to query agent: "
  | .getOwner _ => "failed to query owner: "

/-- The clock, a new identifier, key material, a call to an issuer connector, or a
repository call. -/
inductive Op where
  | now
  | newID
  | generateKey
  | createCSR
  | issue
  | renewalInfo
  | query (q : Query)

@[reducible] def Op.Result : Op → Type
  | .now => Time
  | .newID => String
  | .generateKey | .createCSR => Except String String
  | .issue => Except String Issuance
  | .renewalInfo => Except String (Option Time)
  | .query q => Except RepoError q.Value

abbrev Service := Program Op.Result Reply

def query (q : Query) (next : Except RepoError q.Value → Service) : Service := .op (.query q) next

def orderBy {α : Type} (key : α → Time) (rows : List α) : List α :=
  rows.insertionSort (fun a b => key a ≤ key b)

def orderByDesc {α : Type} (key : α → Time) (rows : List α) : List α :=
  rows.insertionSort (fun a b => key b ≤ key a)

/-- `ORDER BY started_at ASC NULLS FIRST`. -/
def startedBefore (a b : Job) : Bool :=
  match a.startedAt, b.startedAt with
  | none, _ => true
  | some _, none => false
  | some x, some y => decide (x ≤ y)

/-- The assignments of `UpdateStatus`. -/
def setStatus (now : Time) (status : JobStatus) (errMsg : String) (job : Job) : Job :=
  { job with
    status
    lastError := if errMsg = "" then none else some errMsg
    completedAt := if status.stampsCompletion then some now else job.completedAt }

theorem setStatus_id (now : Time) (status : JobStatus) (errMsg : String) (job : Job) :
    (setStatus now status errMsg job).id = job.id := rfl

/-- All columns of the image but the creation time. -/
def overwrite (image row : Job) : Job := { image with id := row.id, createdAt := row.createdAt }

theorem overwrite_id (image row : Job) : (overwrite image row).id = row.id := rfl

/-- The assignments of a claim. -/
def markClaimed (now : Time) (job : Job) : Job :=
  { job with status := .running, attempts := job.attempts + 1, startedAt := some now }

theorem markClaimed_id (now : Time) (job : Job) : (markClaimed now job).id = job.id := rfl

def settle (state : ApprovalState) (decidedBy : String) (decidedAt : Time)
    (note : Option String) (now : Time) (req : ApprovalRequest) : ApprovalRequest :=
  { req with
    state
    decidedBy := some decidedBy
    decidedAt := some decidedAt
    decisionNote := note
    updatedAt := now }

theorem settle_id (state : ApprovalState) (decidedBy : String) (decidedAt : Time)
    (note : Option String) (now : Time) (req : ApprovalRequest) :
    (settle state decidedBy decidedAt note now req).id = req.id := rfl

def expiryNote : String :=
  "auto-expired by scheduler reaper at CERTCTL_JOB_AWAITING_APPROVAL_TIMEOUT"

namespace DB

/-- The target of the job is bound to an agent. -/
def targetAgent (db : DB) (job : Job) : Option String :=
  job.targetID.bind (fun id => (db.targets.get? id).bind Target.agentID)

/-- A deployment job that is some agent's, directly or through its target. -/
def agentBound (db : DB) (job : Job) : Bool :=
  decide (job.type = .deployment) && (job.agentID.isSome || (db.targetAgent job).isSome)

/-- The rows `ClaimPendingJobs` selects, locked ones skipped. -/
def claimable (db : DB) (locked : List String) (jobType : Option JobType) (limit : Int) :
    List Job :=
  let rows := orderBy Job.scheduledAt (db.jobs.rows.filter (fun job =>
    decide (job.status = .pending) && !db.agentBound job &&
      jobType.all (fun t => decide (job.type = t)) && !locked.contains job.id))
  if limit > 0 then rows.take limit.toNat else rows

/-- The direct branch and the fallback branch of `ClaimPendingByAgentID`. -/
def agentClaimable (db : DB) (locked : List String) (agentID : String) : List Job :=
  orderBy Job.createdAt (db.jobs.rows.filter (fun job =>
    decide (job.agentID = some agentID) && decide (job.status = .pending) &&
      decide (job.type = .deployment) && !locked.contains job.id)) ++
  orderBy Job.createdAt (db.jobs.rows.filter (fun job =>
    decide (job.agentID = none) && decide (job.status = .pending) &&
      decide (job.type = .deployment) && decide (db.targetAgent job = some agentID) &&
      !locked.contains job.id))

/-- The jobs an agent is to submit a request for. -/
def agentCSRJobs (db : DB) (locked : List String) (agentID : String) : List Job :=
  orderBy Job.createdAt (db.jobs.rows.filter (fun job =>
    decide (job.status = .awaitingCSR) &&
      (decide (job.type = .renewal) || decide (job.type = .issuance)) &&
      db.mappings.any (fun m => decide (m.1 = job.certificateID) &&
        decide ((db.targets.get? m.2).bind Target.agentID = some agentID)) &&
      !locked.contains job.id))

/-- The claimed rows become Running. -/
def claim (db : DB) (now : Time) (ids : List String) : DB :=
  { db with
    jobs := db.jobs.updateWhere (fun job => ids.contains job.id) (markClaimed now)
      (markClaimed_id now)
    claimed := db.claimed ++ ids }

/-- The partial unique index: one pending request for a job. -/
def pendingForJob (db : DB) (jobID : String) : Bool :=
  db.approvals.rows.any (fun req => decide (req.jobID = jobID) && decide (req.state = .pending))

/-- The row of the conditional update. -/
def isOpen (id : String) (req : ApprovalRequest) : Bool :=
  decide (req.id = id) && decide (req.state = .pending)

def isStale (before : Time) (req : ApprovalRequest) : Bool :=
  decide (req.state = .pending) && decide (req.createdAt ≤ before)

def settleWhere (db : DB) (p : ApprovalRequest → Bool) (f : ApprovalRequest → ApprovalRequest)
    (keeps : ∀ req, (f req).id = req.id) : DB :=
  { db with approvals := db.approvals.updateWhere p f keeps }

def targetIDs (db : DB) (certID : String) : List String :=
  ((db.mappings.filter (fun m => decide (m.1 = certID))).map Prod.snd).insertionSort (· ≤ ·)

end DB

/-- Zero or out-of-range page sizes become 50. -/
def pageSize (perPage : Int) : Nat := if perPage < 1 ∨ perPage > 500 then 50 else perPage.toNat

/-- The query without faults: the tables after it and what it returns. -/
def perform (env : Env) (db : DB) (c : Choice) : (q : Query) → Except RepoError (DB × q.Value)
  | .getJob id =>
    match db.jobs.get? id with
    | some job => .ok (db, job)
    | none => .error (.other "failed to query job: failed to scan job: sql: no rows in result set")
  | .createJob job =>
    match db.jobs.insert job with
    | some jobs => .ok ({ db with jobs, created := db.created ++ [job] }, ())
    | none => .error (.other "failed to create job: duplicate key")
  | .updateJob job =>
    match db.jobs.update job.id (overwrite job) (overwrite_id job) with
    | some jobs => .ok ({ db with jobs }, ())
    | none => .error (.notFound "job not found: ")
  | .updateStatus id status errMsg =>
    match db.jobs.update id (setStatus c.now status errMsg) (setStatus_id c.now status errMsg) with
    | some jobs => .ok ({ db with jobs }, ())
    | none => .error (.notFound "job not found: ")
  | .listByStatus status =>
    .ok (db, orderByDesc Job.createdAt (db.jobs.rows.filter (fun job =>
      decide (job.status = status))))
  | .listByCertificate certID =>
    .ok (db, orderByDesc Job.createdAt (db.jobs.rows.filter (fun job =>
      decide (job.certificateID = certID))))
  | .claimPendingJobs jobType limit =>
    let taken := db.claimable c.locked jobType limit
    .ok (db.claim c.now (taken.map Job.id), taken.map (fun job => { job with status := .running }))
  | .claimPendingByAgentID agentID =>
    let taken := db.agentClaimable c.locked agentID
    .ok (db.claim c.now (taken.map Job.id),
      taken.map (fun job => { job with status := .running }) ++ db.agentCSRJobs c.locked agentID)
  | .listTimedOutAwaitingJobs csrCutoff approvalCutoff =>
    .ok (db, orderBy Job.createdAt (db.jobs.rows.filter (fun job =>
      decide (job.status = .awaitingCSR ∧ job.createdAt < csrCutoff) ||
        decide (job.status = .awaitingApproval ∧ job.createdAt < approvalCutoff))))
  | .listJobsWithOfflineAgents agentCutoff =>
    .ok (db, (db.jobs.rows.filter (fun job => decide (job.status = .running) &&
      ((job.agentID.bind db.agents.get?).bind Agent.lastHeartbeatAt).any (fun beat =>
        decide (beat < agentCutoff)))).insertionSort (fun a b => startedBefore a b = true))
  | .createApproval req =>
    if req.state = .pending ∧ req.jobID ≠ "" ∧ db.pendingForJob req.jobID then
      .error .alreadyExists
    else
      match db.approvals.insert req with
      | some approvals => .ok ({ db with approvals }, ())
      | none => .error .alreadyExists
  | .getApproval id =>
    match db.approvals.get? id with
    | some req => .ok (db, req)
    | none => .error (.notFound "")
  | .listPendingApprovals perPage =>
    .ok (db, (orderByDesc ApprovalRequest.createdAt (db.approvals.rows.filter (fun req =>
      decide (req.state = .pending)))).take (pageSize perPage))
  | .decidePending id state decidedBy decidedAt note =>
    .ok (db.settleWhere (DB.isOpen id) (settle state decidedBy decidedAt note c.now)
      (settle_id state decidedBy decidedAt note c.now), db.approvals.rows.countP (DB.isOpen id))
  | .expireStale before =>
    .ok (db.settleWhere (DB.isStale before)
      (settle .expired "system-reaper" c.now (some expiryNote) c.now)
      (settle_id .expired "system-reaper" c.now (some expiryNote) c.now),
      db.approvals.rows.countP (DB.isStale before))
  | .getCertificate id =>
    match db.inventory.get id with
    | some cert => .ok (db, (cert, db.targetIDs id))
    | none => .error (.notFound "certificate not found: ")
  | .updateCertificate cert =>
    match db.inventory.update cert with
    | some inventory => .ok ({ db with inventory }, ())
    | none => .error (.notFound "certificate not found: ")
  | .getExpiringCertificates before =>
    .ok (db, orderBy ManagedCertificate.expiresAt (db.inventory.certs.rows.filter (fun cert =>
      decide (cert.expiresAt < before) && decide (cert.status ≠ .archived))))
  | .listCertificates criteria =>
    .ok (db, (db.inventory.certs.rows.filter (env.selects criteria)).take (pageSize 10000))
  | .getLatestVersion certID =>
    match db.inventory.getLatestVersion certID with
    | some version => .ok (db, version)
    | none => .error (.other
        "failed to get latest certificate version: sql: no rows in result set")
  | .createVersion version =>
    match db.inventory.createVersion version with
    | some inventory => .ok ({ db with inventory }, ())
    | none => .error (.other "failed to create certificate version: duplicate key")
  | .commitRenewal version cert =>
    match db.inventory.createVersion version with
    | none => .error (.other
        "failed to create certificate version: failed to create certificate version: duplicate key")
    | some stored =>
      match stored.update cert with
      | some inventory => .ok ({ db with inventory }, ())
      | none => .error (.notFound "failed to update certificate: certificate not found: ")
  | .commitRevocation cert row =>
    match db.inventory.update cert with
    | some inventory =>
      .ok ({ db with inventory, revocations := db.revocations.create row }, ())
    | none => .error (.notFound "failed to update certificate status: certificate not found: ")
  | .createRevocation row => .ok ({ db with revocations := db.revocations.create row }, ())
  | .getProfile id =>
    match db.profiles.get? id with
    | some profile => .ok (db, env.profileColumns.read profile)
    | none => .error (.other
        "failed to query profile: failed to scan profile: sql: no rows in result set")
  | .updateProfile profile =>
    match db.profiles.update profile.id (env.profileColumns.write profile)
      (fun row => env.profileColumns.write_id profile row) with
    | some profiles => .ok ({ db with profiles }, ())
    | none => .error (.notFound "profile not found: ")
  | .getTarget id =>
    match db.targets.get? id with
    | some target => .ok (db, target)
    | none => .error (.notFound "target not found: ")
  | .targetsByCertificate certID =>
    .ok (db, db.targets.rows.filter (fun t =>
      db.mappings.any (fun m => decide (m.1 = certID) && decide (m.2 = t.id))))
  | .getAgent id =>
    match db.agents.get? id with
    | some agent => .ok (db, agent)
    | none => .error (.notFound "agent not found: ")
  | .getOwner id =>
    match db.owners.get? id with
    | some owner => .ok (db, owner)
    | none => .error (.notFound "owner not found: ")

/-- The repository call. -/
def execQuery (env : Env) (db : DB) (q : Query) (c : Choice) : DB × Except RepoError q.Value :=
  match c.fault, perform env db c q with
  | none, .ok (db', value) => (db', .ok value)
  | none, .error e => (db, .error e)
  | some (cause, true), .ok (db', _) => (db', .error (.other (q.context ++ cause)))
  | some (cause, _), _ => (db, .error (.other (q.context ++ cause)))

def exec (env : Env) (db : DB) : (o : Op) → Choice → DB × o.Result
  | .now, c => (db, c.now)
  | .newID, c => (db, c.id)
  | .generateKey, c => (db, c.key)
  | .createCSR, c => (db, c.key)
  | .issue, c => (db, c.issuance)
  | .renewalInfo, c => (db, c.renewalInfo)
  | .query q, c => execQuery env db q c

/-- The three ends of a call: it succeeds, it is carried out and reported as failed, or it
fails and changes nothing. -/
theorem execQuery_outcome (env : Env) (db : DB) (q : Query) (c : Choice) :
    (∃ db' value, c.fault = none ∧ perform env db c q = .ok (db', value) ∧
      execQuery env db q c = (db', .ok value)) ∨
    (∃ db' value cause e, c.fault = some (cause, true) ∧ perform env db c q = .ok (db', value) ∧
      execQuery env db q c = (db', .error e)) ∨
    ∃ e, ((∃ cause, c.fault = some (cause, false)) ∨ ∃ e, perform env db c q = .error e) ∧
      execQuery env db q c = (db, .error e) := by
  unfold execQuery
  cases fault : c.fault with
  | none =>
    cases performed : perform env db c q with
    | ok result => exact .inl ⟨result.1, result.2, rfl, rfl, rfl⟩
    | error e => exact .inr (.inr ⟨e, .inr ⟨e, rfl⟩, rfl⟩)
  | some f =>
    obtain ⟨cause, carried⟩ := f
    cases performed : perform env db c q with
    | error e =>
      cases carried with
      | true => exact .inr (.inr ⟨_, .inr ⟨e, rfl⟩, rfl⟩)
      | false => exact .inr (.inr ⟨_, .inr ⟨e, rfl⟩, rfl⟩)
    | ok result =>
      cases carried with
      | true => exact .inr (.inl ⟨result.1, result.2, cause, _, rfl, rfl, rfl⟩)
      | false => exact .inr (.inr ⟨_, .inl ⟨cause, rfl⟩, rfl⟩)

/-- A call changes nothing, or it leaves what the query leaves; a result is the query's. -/
theorem execQuery_cases (env : Env) (db : DB) (q : Query) (c : Choice) :
    ((execQuery env db q c).1 = db ∧ ∃ e, (execQuery env db q c).2 = .error e) ∨
    ∃ db' value, perform env db c q = .ok (db', value) ∧ (execQuery env db q c).1 = db' ∧
      ((execQuery env db q c).2 = .ok value ∨ ∃ e, (execQuery env db q c).2 = .error e) := by
  obtain ⟨db', value, -, performed, result⟩ | ⟨db', value, cause, e, -, performed, result⟩ |
    ⟨e, -, result⟩ := execQuery_outcome env db q c
  · rw [result]
    exact .inr ⟨db', value, performed, rfl, .inl rfl⟩
  · rw [result]
    exact .inr ⟨db', value, performed, rfl, .inr ⟨e, rfl⟩⟩
  · rw [result]
    exact .inl ⟨rfl, e, rfl⟩

theorem execQuery_ok {env : Env} {db : DB} {q : Query} {c : Choice} {value : q.Value}
    (returned : (execQuery env db q c).2 = .ok value) :
    ∃ db', perform env db c q = .ok (db', value) ∧ (execQuery env db q c).1 = db' := by
  obtain ⟨-, e, failed⟩ | ⟨db', value', performed, store, result | ⟨e, failed⟩⟩ :=
    execQuery_cases env db q c
  · rw [failed] at returned
    cases returned
  · rw [result] at returned
    cases returned
    exact ⟨db', performed, store⟩
  · rw [failed] at returned
    cases returned

end Certctl.Source.Jobs

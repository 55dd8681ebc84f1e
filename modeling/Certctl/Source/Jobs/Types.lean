import Certctl.Source.Domain

/-!
Jobs, approval requests and the other rows the job services work on. The empty string
stands for a missing certificate or job of a request, as in the source. The verification
columns of a job and the metadata of a request are left out: no modelled function reads
them.

Source: internal/domain/approval.go, bulk_renewal.go, job.go, team.go.
-/
namespace Certctl.Source.Jobs

inductive JobType where
  | issuance | renewal | deployment | validation
  | other (text : String)
  deriving DecidableEq

def JobType.text : JobType → String
  | .issuance => "Issuance"
  | .renewal => "Renewal"
  | .deployment => "Deployment"
  | .validation => "Validation"
  | .other text => text

/-- An agent may report any text. -/
inductive JobStatus where
  | pending | awaitingCSR | awaitingApproval | running | completed | failed | cancelled
  | other (text : String)
  deriving DecidableEq

def JobStatus.text : JobStatus → String
  | .pending => "Pending"
  | .awaitingCSR => "AwaitingCSR"
  | .awaitingApproval => "AwaitingApproval"
  | .running => "Running"
  | .completed => "Completed"
  | .failed => "Failed"
  | .cancelled => "Cancelled"
  | .other text => text

/-- The statuses that stamp `completed_at`. -/
def JobStatus.stampsCompletion : JobStatus → Bool
  | .completed | .failed | .cancelled => true
  | _ => false

structure Job where
  id : String
  type : JobType
  certificateID : String
  targetID : Option String
  agentID : Option String
  status : JobStatus
  attempts : Int
  maxAttempts : Int
  lastError : Option String
  scheduledAt : Time
  startedAt : Option Time
  completedAt : Option Time
  createdAt : Time
  deriving DecidableEq

inductive ApprovalKind where
  | certIssuance | profileEdit
  deriving DecidableEq

inductive ApprovalState where
  | pending | approved | rejected | expired
  deriving DecidableEq

def ApprovalState.isTerminal : ApprovalState → Bool
  | .pending => false
  | .approved | .rejected | .expired => true

structure ApprovalRequest where
  id : String
  kind : ApprovalKind
  certificateID : String
  jobID : String
  profileID : String
  requestedBy : String
  state : ApprovalState
  decidedBy : Option String
  decidedAt : Option Time
  decisionNote : Option String
  payload : List UInt8
  createdAt : Time
  updatedAt : Time
  deriving DecidableEq

/-- A profile with the column the approval gate looks at. -/
structure Profile extends CertificateProfile where
  requiresApproval : Bool
  deriving DecidableEq

structure Target where
  id : String
  agentID : Option String

structure Agent where
  id : String
  lastHeartbeatAt : Option Time
  retired : Bool

structure Owner where
  id : String
  name : String
  email : String

/-- The sentinels of the repository layer, and any other error with its text. -/
inductive RepoError where
  | notFound (context : String)
  | alreadyExists
  | other (text : String)

def RepoError.message : RepoError → String
  | .notFound context => context ++ "repository: row not found"
  | .alreadyExists => "repository: row already exists"
  | .other text => text

inductive KeygenMode where
  | agent | server
  deriving DecidableEq

/-- The filter of a bulk renewal. -/
structure BulkRenewalCriteria where
  profileID : String
  ownerID : String
  agentID : String
  issuerID : String
  teamID : String
  certificateIDs : List String

def BulkRenewalCriteria.hasFilter (c : BulkRenewalCriteria) : Bool :=
  decide (c.profileID ≠ "") || decide (c.ownerID ≠ "") || decide (c.agentID ≠ "") ||
    decide (c.issuerID ≠ "") || decide (c.teamID ≠ "")

def BulkRenewalCriteria.isEmpty (c : BulkRenewalCriteria) : Bool :=
  !c.hasFilter && c.certificateIDs.isEmpty

/-- The envelope of a bulk renewal: counters, the jobs by certificate, and the errors by
certificate. -/
structure BulkRenewalResult where
  totalMatched : Nat
  totalEnqueued : Nat
  totalSkipped : Nat
  totalFailed : Nat
  enqueuedJobs : List (String × String)
  errors : List (String × String)
  deriving DecidableEq

/-- What a service call returns. -/
inductive Reply where
  | ok
  | count (n : Nat)
  | jobs (claimed : List Job)
  | bulk (result : BulkRenewalResult)
  | error (message : String)
  deriving DecidableEq

end Certctl.Source.Jobs

import Certctl.Source.Jobs.Approvals
import Certctl.Source.RevocationSvc

/-!
The ways into a renewal (one certificate, in bulk, by expiry), the processing of a renewal
job on the server or with an agent's request, and the revocation, all as calls over the
tables. Every certificate write puts back the whole row as it was read. Reads that only
feed the request to an issuer are left out, and so are alerts, audit rows and
notifications.

Source: internal/service/agent.go, bulk_renewal.go, certificate.go, renewal.go,
revocation_svc.go.
-/
namespace Certctl.Source.Jobs

/-- The first instant of the year 2000. -/
def year2000 : Time := 63082281600 * 1000000000

/-- Certificates that have never been issued get an Issuance job. -/
def renewalJobType (cert : ManagedCertificate) : JobType :=
  if cert.expiresAt = 0 ∨ cert.expiresAt < year2000 then .issuance else .renewal

def newJob (id certID : String) (type : JobType) (status : JobStatus)
    (scheduledAt createdAt : Time) : Job :=
  { id, type, certificateID := certID, targetID := none, agentID := none, status, attempts := 0,
    maxAttempts := 3, lastError := none, scheduledAt, startedAt := none, completedAt := none,
    createdAt }

def ungatedStatus (env : Env) : JobStatus :=
  if env.keygenMode = .agent then .awaitingCSR else .pending

/-- `TriggerRenewal` behind the profile lookup; `gate` is the profile that asks for approval. -/
def enqueueRenewal (env : Env) (cert : ManagedCertificate) (actor : String)
    (gate : Option String) : Service :=
  .op .newID fun id =>
  .op .now fun scheduledAt =>
  .op .now fun createdAt =>
  query (.createJob (newJob id cert.id (renewalJobType cert)
    (if gate.isSome then .awaitingApproval else ungatedStatus env) scheduledAt createdAt)) fun
  | .error e => .done (.error ("failed to create renewal job: " ++ e.message))
  | .ok _ =>
    match gate with
    | none => .done .ok
    | some profileID =>
      requestApproval env cert.id id profileID actor fun
      | .ok _ => .done .ok
      | .error message =>
        query (.updateStatus id .cancelled
          ("approval request creation failed: " ++ message)) fun _ =>
        .done (.error ("failed to create approval request: " ++ message))

def triggerRenewal (env : Env) (certID actor : String) (force : Bool) : Service :=
  query (.getCertificate certID) fun
  | .error e => .done (.error ("failed to fetch certificate: " ++ e.message))
  | .ok (cert, _) =>
    if cert.status = .archived then .done (.error "cannot renew archived certificate")
    else if cert.status = .expired then
      .done (.error "cannot renew expired certificate; reissue instead")
    else if cert.status = .renewalInProgress ∧ force = false then
      .done (.error "certificate renewal already in progress")
    else
      query (.updateCertificate { cert with status := .renewalInProgress }) fun
      | .error e => .done (.error ("failed to update certificate status: " ++ e.message))
      | .ok _ =>
        if env.jobRepo then
          if env.approvalSvc ∧ env.profileRepo ∧ cert.certificateProfileID ≠ "" then
            query (.getProfile cert.certificateProfileID) fun
            | .error _ => enqueueRenewal env cert actor none
            | .ok profile =>
              enqueueRenewal env cert actor
                (if profile.requiresApproval then some profile.id else none)
          else enqueueRenewal env cert actor none
        else .done .ok

def BulkRenewalResult.fail (result : BulkRenewalResult) (certID message : String) :
    BulkRenewalResult :=
  { result with
    totalFailed := result.totalFailed + 1
    errors := result.errors ++ [(certID, message)] }

def BulkRenewalResult.enqueue (result : BulkRenewalResult) (certID jobID : String) :
    BulkRenewalResult :=
  { result with
    totalEnqueued := result.totalEnqueued + 1
    enqueuedJobs := result.enqueuedJobs ++ [(certID, jobID)] }

/-- The statuses a bulk renewal passes over. -/
def bulkSkips : CertificateStatus → Bool
  | .archived | .revoked | .expired | .renewalInProgress => true
  | _ => false

def bulkLoop (env : Env) : List ManagedCertificate → BulkRenewalResult → Service
  | [], result => .done (.bulk result)
  | cert :: rest, result =>
    if bulkSkips cert.status then
      bulkLoop env rest { result with totalSkipped := result.totalSkipped + 1 }
    else
      query (.updateCertificate { cert with status := .renewalInProgress }) fun
      | .error e => bulkLoop env rest
          (result.fail cert.id ("failed to update certificate status: " ++ e.message))
      | .ok _ =>
        .op .newID fun id =>
        .op .now fun scheduledAt =>
        .op .now fun createdAt =>
        query (.createJob (newJob id cert.id (renewalJobType cert) (ungatedStatus env) scheduledAt
          createdAt)) fun
        | .error e => bulkLoop env rest
            (result.fail cert.id ("failed to create renewal job: " ++ e.message))
        | .ok _ => bulkLoop env rest (result.enqueue cert.id id)

/-- Certificates that are not found drop out. -/
def fetchCertificates (next : List ManagedCertificate → Service) :
    List String → List ManagedCertificate → Service
  | [], found => next found
  | id :: rest, found =>
    query (.getCertificate id) fun
    | .error _ => fetchCertificates next rest found
    | .ok (cert, _) => fetchCertificates next rest (found ++ [cert])

def bulkRenew (env : Env) (criteria : BulkRenewalCriteria) : Service :=
  let enqueueAll (certs : List ManagedCertificate) : Service :=
    bulkLoop env certs ⟨certs.length, 0, 0, 0, [], []⟩
  if criteria.isEmpty then .done (.error "at least one filter criterion is required")
  else if criteria.hasFilter then
    query (.listCertificates criteria) fun
    | .error e => .done (.error ("failed to resolve certificates: " ++ e.message))
    | .ok certs =>
      if criteria.certificateIDs.isEmpty then enqueueAll certs
      else enqueueAll (certs.filter (fun cert => criteria.certificateIDs.contains cert.id))
  else fetchCertificates enqueueAll criteria.certificateIDs []

def day : Time := 24 * 3600 * 1000000000

/-- The statuses the expiry check passes over. -/
def expirySkips : CertificateStatus → Bool
  | .renewalInProgress | .archived | .revoked | .failed | .expired => true
  | _ => false

/-- The copy in hand changes even where the write fails. -/
def updateCertExpiryStatus (cert : ManagedCertificate) (left : Time)
    (next : ManagedCertificate → Service) : Service :=
  let newStatus := if left ≤ 0 then .expired else .expiring
  if cert.status = newStatus then next cert
  else if cert.status = .renewalInProgress ∨ cert.status = .archived ∨ cert.status = .revoked then
    next cert
  else
    .op .now fun now =>
    query (.updateCertificate { cert with status := newStatus, updatedAt := now }) fun _ =>
    next { cert with status := newStatus, updatedAt := now }

/-- The issuer may say that it is too early. -/
def askRenewalInfo (certID : String) (next : Bool → Service) : Service :=
  query (.getLatestVersion certID) fun
  | .error _ => next false
  | .ok version =>
    if version.pemChain = "" then next false
    else
      .op .renewalInfo fun
      | .error _ | .ok none => next false
      | .ok (some windowStart) => .op .now fun now => next (decide (now < windowStart))

def hasActiveRenewal (jobs : List Job) : Bool :=
  jobs.any (fun job => decide (job.type = .renewal) &&
    (decide (job.status = .pending) || decide (job.status = .running)))

/-- The check looks for running jobs only if it can list them. -/
def blocksRenewal : Except RepoError (List Job) → Bool
  | .ok jobs => hasActiveRenewal jobs
  | .error _ => false

def checkLoop (env : Env) : List ManagedCertificate → Service
  | [] => .done .ok
  | cert :: rest =>
    if expirySkips cert.status then checkLoop env rest
    else
      .op .now fun now =>
      updateCertExpiryStatus cert (cert.expiresAt - now) fun cert =>
      if cert.issuerID ∉ env.issuers then checkLoop env rest
      else
        askRenewalInfo cert.id fun early =>
        if early then checkLoop env rest
        else
          query (.listByCertificate cert.id) fun existing =>
          if blocksRenewal existing then checkLoop env rest
          else
            .op .newID fun id =>
            .op .now fun scheduledAt =>
            .op .now fun createdAt =>
            query (.createJob (newJob id cert.id .renewal .pending scheduledAt createdAt)) fun
            | .error _ => checkLoop env rest
            | .ok _ =>
              query (.updateCertificate { cert with status := .renewalInProgress }) fun _ =>
              checkLoop env rest

def checkExpiringCertificates (env : Env) : Service :=
  .op .now fun now =>
  query (.getExpiringCertificates (now + 31 * day)) fun
  | .error e => .done (.error ("failed to fetch expiring certificates: " ++ e.message))
  | .ok expiring => checkLoop env expiring

def failJob (jobID errMsg : String) (next : Service) : Service :=
  query (.updateStatus jobID .failed errMsg) fun _ => next

/-- The agents of the targets, where the target can be read. -/
def resolveTargets (next : List (String × Option String) → Service) :
    List String → List (String × Option String) → Service
  | [], found => next found
  | id :: rest, found =>
    query (.getTarget id) fun
    | .error _ => resolveTargets next rest (found ++ [(id, none)])
    | .ok target => resolveTargets next rest (found ++ [(id, target.agentID)])

def createJobsFor (certID : String) (next : Service) : List (String × Option String) → Service
  | [] => next
  | (targetID, agentID) :: rest =>
    .op .newID fun id =>
    .op .now fun scheduledAt =>
    .op .now fun createdAt =>
    query (.createJob { newJob id certID .deployment .pending scheduledAt createdAt with
      targetID := some targetID, agentID }) fun _ =>
    createJobsFor certID next rest

def createDeploymentJobs (certID : String) (targetIDs : List String) (next : Service) : Service :=
  if targetIDs.isEmpty then
    query (.targetsByCertificate certID) fun
    | .error _ => next
    | .ok targets => createJobsFor certID next (targets.map (fun t => (t.id, t.agentID)))
  else resolveTargets (createJobsFor certID next) targetIDs []

/-- The certificate after an issuance. -/
def renewedImage (now : Time) (issued : Issuance) (cert : ManagedCertificate) :
    ManagedCertificate :=
  { cert with status := .active, expiresAt := issued.notAfter, updatedAt := now }

def issuedVersion (env : Env) (id certID csrPEM : String) (createdAt : Time) (issued : Issuance) :
    CertificateVersion :=
  { id, certificateID := certID, serialNumber := issued.serial, notBefore := issued.notBefore,
    notAfter := issued.notAfter, fingerprintSHA256 := env.fingerprint issued.certPEM,
    pemChain := issued.certPEM ++ "\n" ++ issued.chainPEM, csrPEM, createdAt }

def processRenewalAgentKeygen (job : Job) (cert : ManagedCertificate)
    (next : Except String Unit → Service) : Service :=
  query (.updateStatus job.id .awaitingCSR "") fun
  | .error e => next (.error ("failed to set job to AwaitingCSR: " ++ e.message))
  | .ok _ =>
    .op .now fun now =>
    query (.updateCertificate { cert with status := .renewalInProgress, updatedAt := now }) fun _ =>
    next (.ok ())

/-- The job is marked completed and the deployment jobs follow. -/
def finishRenewal (job : Job) (certID : String) (targetIDs : List String)
    (next : Except String Unit → Service) : Service :=
  query (.updateStatus job.id .completed "") fun
  | .error e => next (.error ("failed to update job status: " ++ e.message))
  | .ok _ => createDeploymentJobs certID targetIDs (next (.ok ()))

def processRenewalServerKeygen (env : Env) (job : Job) (cert : ManagedCertificate)
    (targetIDs : List String) (next : Except String Unit → Service) : Service :=
  .op .generateKey fun
  | .error e => failJob job.id ("key generation failed: " ++ e)
      (next (.error ("failed to generate private key: " ++ e)))
  | .ok keyPEM =>
    .op .createCSR fun
    | .error e => failJob job.id ("CSR generation failed: " ++ e)
        (next (.error ("failed to generate CSR: " ++ e)))
    | .ok _ =>
      .op .issue fun
      | .error e => failJob job.id ("issuer renewal failed: " ++ e)
          (next (.error ("issuer renewal failed: " ++ e)))
      | .ok issued =>
        .op .newID fun id =>
        .op .now fun createdAt =>
        .op .now fun now =>
        let version := issuedVersion env id job.certificateID keyPEM createdAt issued
        if env.tx then
          query (.commitRenewal version (renewedImage now issued cert)) fun
          | .error e => failJob job.id e.message (next (.error e.message))
          | .ok _ => finishRenewal job cert.id targetIDs next
        else
          query (.createVersion version) fun
          | .error e => failJob job.id ("version creation failed: " ++ e.message)
              (next (.error ("failed to create certificate version: " ++ e.message)))
          | .ok _ =>
            query (.updateCertificate (renewedImage now issued cert)) fun
            | .error e => failJob job.id ("cert update failed: " ++ e.message)
                (next (.error ("failed to update certificate: " ++ e.message)))
            | .ok _ => finishRenewal job cert.id targetIDs next

def processRenewalJob (env : Env) (job : Job) (next : Except String Unit → Service) : Service :=
  query (.updateStatus job.id .running "") fun
  | .error e => next (.error ("failed to update job status: " ++ e.message))
  | .ok _ =>
    query (.getCertificate job.certificateID) fun
    | .error e => failJob job.id ("certificate fetch failed: " ++ e.message)
        (next (.error ("failed to fetch certificate: " ++ e.message)))
    | .ok (cert, targetIDs) =>
      if cert.issuerID = "" then
        failJob job.id "certificate has no issuer assigned"
          (next (.error "certificate has no issuer assigned"))
      else if cert.issuerID ∉ env.issuers then
        failJob job.id ("issuer connector not found for " ++ cert.issuerID)
          (next (.error ("issuer connector not found for " ++ cert.issuerID)))
      else if env.keygenMode = .agent then processRenewalAgentKeygen job cert next
      else processRenewalServerKeygen env job cert targetIDs next

/-- The profile is read for its key rules; a failed lookup skips them. -/
def withProfile (env : Env) (cert : ManagedCertificate) (next : Option Profile → Service) :
    Service :=
  if cert.certificateProfileID ≠ "" ∧ env.profileRepo then
    query (.getProfile cert.certificateProfileID) fun
    | .error _ => next none
    | .ok profile => next (some profile)
  else next none

def completeAgentCSRRenewal (env : Env) (job : Job) (cert : ManagedCertificate)
    (targetIDs : List String) (csrPEM : String) (next : Except String Unit → Service) : Service :=
  if cert.issuerID ∉ env.issuers then
    failJob job.id ("issuer connector not found for " ++ cert.issuerID)
      (next (.error ("issuer connector not found for " ++ cert.issuerID)))
  else
    withProfile env cert fun profile =>
    match env.validateCSR csrPEM profile with
    | .error e => failJob job.id ("CSR validation failed: " ++ e)
        (next (.error ("CSR validation failed: " ++ e)))
    | .ok () =>
      query (.updateStatus job.id .running "") fun
      | .error e => next (.error ("failed to update job status: " ++ e.message))
      | .ok _ =>
        .op .issue fun
        | .error e => failJob job.id ("issuer signing failed: " ++ e)
            (next (.error ("issuer signing failed: " ++ e)))
        | .ok issued =>
          .op .newID fun id =>
          .op .now fun createdAt =>
          query (.createVersion (issuedVersion env id cert.id csrPEM createdAt issued)) fun
          | .error e => failJob job.id ("version creation failed: " ++ e.message)
              (next (.error ("failed to create certificate version: " ++ e.message)))
          | .ok _ =>
            .op .now fun now =>
            query (.updateCertificate (renewedImage now issued cert)) fun
            | .error e => failJob job.id ("cert update failed: " ++ e.message)
                (next (.error ("failed to update certificate: " ++ e.message)))
            | .ok _ => finishRenewal job cert.id targetIDs next

/-- `GetAwaitingCSRJobs`; an error counts as none. -/
def awaitingCSRJobs : Except RepoError (List Job) → List Job
  | .ok jobs => jobs.filter (fun job => decide (job.status = .awaitingCSR))
  | .error _ => []

/-- A request without a job is signed directly; a failed certificate write is only logged. -/
def signDirectly (env : Env) (cert : ManagedCertificate) (csrPEM : String) : Service :=
  if cert.issuerID ∈ env.issuers then
    withProfile env cert fun profile =>
    match env.validateCSR csrPEM profile with
    | .error e => .done (.error ("CSR validation failed: " ++ e))
    | .ok () =>
      .op .issue fun
      | .error e => .done (.error ("issuer signing failed: " ++ e))
      | .ok issued =>
        .op .newID fun id =>
        .op .now fun createdAt =>
        query (.createVersion (issuedVersion env id cert.id csrPEM createdAt issued)) fun
        | .error e => .done (.error ("failed to store certificate version: " ++ e.message))
        | .ok _ =>
          .op .now fun now =>
          query (.updateCertificate (renewedImage now issued cert)) fun _ => .done .ok
  else .done .ok

def submitCSR (env : Env) (agentID certID csrPEM : String) : Service :=
  query (.getAgent agentID) fun
  | .error e => .done (.error ("failed to fetch agent: " ++ e.message))
  | .ok _ =>
    if csrPEM = "" then .done (.error "invalid CSR: empty")
    else if certID = "" then .done .ok
    else
      query (.getCertificate certID) fun
      | .error e => .done (.error ("failed to fetch certificate: " ++ e.message))
      | .ok (cert, targetIDs) =>
        query (.listByCertificate certID) fun jobs =>
        match awaitingCSRJobs jobs with
        | job :: _ =>
          completeAgentCSRRenewal env job cert targetIDs csrPEM fun
          | .error e => .done (.error ("failed to complete agent CSR renewal: " ++ e))
          | .ok () => .done .ok
        | [] => signDirectly env cert csrPEM

/-- With a transactor the certificate and the revocation row commit together; without one
the failure to store the row is only logged. -/
def revokeCertificateWithActor (env : Env) (certID reason actor : String) : Service :=
  query (.getCertificate certID) fun
  | .error e => .done (.error ("failed to fetch certificate: " ++ e.message))
  | .ok (cert, _) =>
    if cert.status = .revoked then .done (.error "certificate is already revoked")
    else if cert.status = .archived then .done (.error "cannot revoke archived certificate")
    else
      let reason := if reason = "" then "unspecified" else reason
      if isValidRevocationReason reason then
        query (.getLatestVersion certID) fun
        | .error e => .done (.error ("failed to get certificate version: " ++ e.message))
        | .ok version =>
          .op .now fun now =>
          .op .newID fun rowID =>
          if env.tx then
            query (.commitRevocation (revokedImage now reason cert)
              (revocationRow now rowID reason actor cert version)) fun
            | .error e => .done (.error e.message)
            | .ok _ => .done .ok
          else
            query (.updateCertificate (revokedImage now reason cert)) fun
            | .error e => .done (.error ("failed to update certificate status: " ++ e.message))
            | .ok _ =>
              query (.createRevocation (revocationRow now rowID reason actor cert version)) fun _ =>
              .done .ok
      else .done (.error ("invalid revocation reason: " ++ reason))

end Certctl.Source.Jobs

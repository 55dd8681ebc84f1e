import Certctl.Source.Jobs.Effects

/-!
The operations each service can ask for, whatever the results it gets: reads, and the
writes that are listed. What is shown of the listed writes holds for the service.
-/
namespace Certctl.Source.Jobs

open Lib

/-- The certificate lookups. -/
def Op.readsCerts : Op → Bool
  | .query (.getCertificate _) | .query (.getExpiringCertificates _)
  | .query (.listCertificates _) => true
  | _ => false

def Query.readsJobs : Query → Bool
  | .getJob _ | .listByStatus _ | .listByCertificate _ | .listTimedOutAwaitingJobs ..
  | .listJobsWithOfflineAgents _ => true
  | _ => false

def Op.onJobs : Op → Bool
  | .query q => q.writesJobs || q.readsJobs
  | _ => false

variable {p : Op → Prop} {env : Env}
  (reads : ∀ o : Op, o.isWrite = false → o.readsCerts = false → p o)
  (cancels : ∀ jobID errMsg, p (.query (.updateStatus jobID .cancelled errMsg)))
  (requests : ∀ req : ApprovalRequest, req.state = .pending → p (.query (.createApproval req)))
  (bypasses : env.bypass = true → ∀ id note (next : Except String Unit → Service),
    (∀ r, (next r).All p) → (approveInternal env id "system-bypass" note next).All p)

theorem all_query {q : Query} {next : Except RepoError q.Value → Service} (asks : p (.query q))
    (fails : ∀ e, (next (.error e)).All p) (rest : ∀ value, (next (.ok value)).All p) :
    (query q next).All p :=
  ⟨asks, forall_except.mpr ⟨fails, rest⟩⟩

theorem answer_all {α : Type} (r : Except String α) : (answer r).All p := by
  cases r with
  | error e => trivial
  | ok value => trivial

section Approvals

variable {next : Except String Unit → Service}

include reads

theorem updateState_all {id decidedBy note : String} {state : ApprovalState} {decidedAt : Time}
    {next : Except RepoError Unit → Service}
    (decides : ∀ note, p (.query (.decidePending id state decidedBy decidedAt note)))
    (rest : ∀ r, (next r).All p) : (updateState id state decidedBy decidedAt note next).All p := by
  refine all_query (decides _) (fun _ => rest _) fun rows => ?_
  dsimp only
  split
  · refine all_query (reads _ rfl rfl) (fun _ => rest _) fun existing => ?_
    dsimp only
    split
    · exact rest _
    · exact rest _
  · exact rest _

omit reads in
theorem applyProfileEdit_all (req : ApprovalRequest)
    (applies : ∀ profile : Profile, profile.id = req.profileID →
      p (.query (.updateProfile profile)))
    (rest : ∀ r, (next r).All p) : (applyProfileEdit env req next).All p := by
  unfold applyProfileEdit
  cases env.decodeProfile req.payload with
  | error e => exact rest _
  | ok edited => exact all_query (applies _ rfl) (fun _ => rest _) fun _ => rest _

theorem approveInternal_all (requestID decidedBy note : String)
    (decides : ∀ at_ note, p (.query (.decidePending requestID .approved decidedBy at_ note)))
    (applies : ∀ profile, p (.query (.updateProfile profile)))
    (resumes : ∀ jobID, p (.query (.updateStatus jobID .pending "")))
    (rest : ∀ r, (next r).All p) : (approveInternal env requestID decidedBy note next).All p := by
  refine ⟨reads _ rfl rfl, fun now => all_query (reads _ rfl rfl) (fun _ => rest _) fun req => ?_⟩
  dsimp only
  split
  · exact rest _
  · refine updateState_all reads (decides now) (forall_except.mpr ⟨fun _ => rest _, fun _ => ?_⟩)
    dsimp only
    split
    · split
      · exact applyProfileEdit_all req (fun profile _ => applies profile)
          (forall_except.mpr ⟨fun _ => rest _, fun _ => rest _⟩)
      · exact rest _
    · exact all_query (resumes _) (fun _ => rest _) fun _ => rest _

include cancels in
theorem reject_all (requestID decidedBy note : String)
    (decides : ∀ at_ note, p (.query (.decidePending requestID .rejected decidedBy at_ note))) :
    (reject requestID decidedBy note).All p := by
  refine all_query (reads _ rfl rfl) (fun _ => trivial) fun req => ?_
  dsimp only
  split
  · trivial
  · split
    · trivial
    · exact ⟨reads _ rfl rfl, fun now => updateState_all reads (decides now) (forall_except.mpr
        ⟨fun _ => trivial, fun _ => all_query (cancels _ _) (fun _ => trivial) fun _ => trivial⟩)⟩

omit reads in
include cancels in
theorem cancelExpired_all (reply : Reply) (reqs : List ApprovalRequest) :
    (cancelExpired reply reqs).All p := by
  induction reqs with
  | nil => trivial
  | cons req rest ih => exact ⟨cancels _ _, fun _ => ih⟩

include cancels in
theorem expireStale_all (before : Time) (expires : p (.query (.expireStale before))) :
    (expireStale before).All p := by
  refine all_query (reads _ rfl rfl) (fun _ => trivial) fun pending => ?_
  dsimp only
  split
  · trivial
  · exact all_query expires (fun _ => trivial) fun count => cancelExpired_all cancels _ _

include requests bypasses in
/-- With the bypass on, the request is approved on the spot. -/
theorem requestApproval_all (certID jobID profileID requestedBy : String)
    {next : Except String String → Service} (rest : ∀ r, (next r).All p) :
    (requestApproval env certID jobID profileID requestedBy next).All p := by
  unfold requestApproval
  split
  · exact rest _
  · refine ⟨reads _ rfl rfl, fun _ => ⟨reads _ rfl rfl, fun _ =>
      all_query (requests _ rfl) (fun _ => rest _) fun _ => ?_⟩⟩
    dsimp only
    split
    next on => exact bypasses on _ _ _ (forall_except.mpr ⟨fun _ => rest _, fun _ => rest _⟩)
    next => exact rest _

include requests in
/-- With the bypass off, a request is all that is written. -/
theorem requestProfileEditApproval_all (off : env.bypass = false) (profileID requestedBy : String)
    (payload : List UInt8) {next : Except String String → Service} (rest : ∀ r, (next r).All p) :
    (requestProfileEditApproval env profileID requestedBy payload next).All p := by
  unfold requestProfileEditApproval
  split
  · exact rest _
  · split
    · exact rest _
    · simp only [off]
      exact ⟨reads _ rfl rfl, fun _ => ⟨reads _ rfl rfl, fun _ =>
        all_query (requests _ rfl) (fun _ => rest _) fun _ => rest _⟩⟩

end Approvals

section Jobs

include reads

include cancels requests bypasses in
theorem enqueueRenewal_all (cert : ManagedCertificate) (actor : String) (gate : Option String)
    (creates : ∀ id status scheduledAt createdAt, p (.query (.createJob
      (newJob id cert.id (renewalJobType cert) status scheduledAt createdAt)))) :
    (enqueueRenewal env cert actor gate).All p := by
  refine ⟨reads _ rfl rfl, fun id => ⟨reads _ rfl rfl, fun _ => ⟨reads _ rfl rfl, fun _ =>
    all_query (creates _ _ _ _) (fun _ => trivial) fun _ => ?_⟩⟩⟩
  cases gate with
  | none => trivial
  | some profileID =>
    exact requestApproval_all reads requests bypasses _ _ _ _ (forall_except.mpr
      ⟨fun _ => all_query (cancels _ _) (fun _ => trivial) fun _ => trivial, fun _ => trivial⟩)

omit reads in
/-- Behind the mark, a renewal is enqueued without a look at certificates. -/
theorem enqueueRenewal_apart (cert : ManagedCertificate) (actor : String) (gate : Option String) :
    (enqueueRenewal env cert actor gate).All (fun o =>
      o.readsCerts = false ∧ o.certImage = none) := by
  have reads : ∀ o : Op, o.isWrite = false → o.readsCerts = false →
      o.readsCerts = false ∧ o.certImage = none :=
    fun _ read apart => ⟨apart, certImage_of_read read⟩
  refine enqueueRenewal_all reads (fun _ _ => ⟨rfl, rfl⟩) (fun _ _ => ⟨rfl, rfl⟩) ?_ cert actor
    gate (fun _ _ _ _ => ⟨rfl, rfl⟩)
  intro _ id note next rest
  exact approveInternal_all reads id _ note (fun _ _ => ⟨rfl, rfl⟩) (fun _ => ⟨rfl, rfl⟩)
    (fun _ => ⟨rfl, rfl⟩) rest

include cancels requests bypasses in
theorem triggerRenewal_all (certID actor : String) (force : Bool)
    (lookup : p (.query (.getCertificate certID)))
    (marks : ∀ cert : ManagedCertificate, p (.query (.updateCertificate
      { cert with status := .renewalInProgress })))
    (creates : ∀ job, p (.query (.createJob job))) :
    (triggerRenewal env certID actor force).All p := by
  have enqueues : ∀ cert gate, (enqueueRenewal env cert actor gate).All p := fun cert gate =>
    enqueueRenewal_all reads cancels requests bypasses cert actor gate fun _ _ _ _ => creates _
  refine all_query lookup (fun _ => trivial) fun found => ?_
  dsimp only
  split
  · trivial
  split
  · trivial
  split
  · trivial
  refine all_query (marks _) (fun _ => trivial) fun _ => ?_
  dsimp only
  split
  · split
    · exact all_query (reads _ rfl rfl) (fun _ => enqueues _ _) fun _ => enqueues _ _
    · exact enqueues _ _
  · trivial

theorem checkNotSelf_all (job : Job) (actor : String) {next : Except String Unit → Service}
    (lookup : p (.query (.getCertificate job.certificateID))) (rest : ∀ r, (next r).All p) :
    (checkNotSelf env job actor next).All p := by
  unfold checkNotSelf
  split
  · exact rest _
  refine all_query lookup (fun _ => rest _) fun found => ?_
  dsimp only
  split
  · exact rest _
  refine all_query (reads _ rfl rfl) (fun _ => rest _) fun owner => ?_
  dsimp only
  split
  · exact rest _
  · exact rest _

theorem rejectJob_all (id reason : String)
    (cancels : ∀ errMsg, p (.query (.updateStatus id .cancelled errMsg))) :
    (rejectJob id reason).All p := by
  refine all_query (reads _ rfl rfl) (fun _ => trivial) fun job => ?_
  dsimp only
  split
  · trivial
  · exact all_query (cancels _) (fun _ => trivial) fun _ => trivial

omit reads in
theorem reapLoop_all (errMsg : Job → Option String) (jobs : List Job)
    (reaps : ∀ job ∈ jobs, ∀ text, errMsg job = some text →
      p (.query (.updateJob { job with status := .failed, lastError := some text }))) :
    (reapLoop errMsg jobs).All p := by
  induction jobs with
  | nil => trivial
  | cons job rest ih =>
    obtain ⟨here, later⟩ := List.forall_mem_cons.mp reaps
    unfold reapLoop
    split
    · exact ih later
    next text given => exact ⟨here text given, fun _ => ih later⟩

theorem reapTimedOutJobs_all (csrTTL approvalTTL : Time)
    (reaps : ∀ (job : Job) text, p (.query (.updateJob { job with
      status := .failed, lastError := some text }))) :
    (reapTimedOutJobs csrTTL approvalTTL).All p := by
  exact ⟨reads _ rfl rfl, fun _ => all_query (reads _ rfl rfl) (fun _ => trivial) fun jobs =>
    reapLoop_all _ jobs fun job _ text _ => reaps job text⟩

theorem retryLoop_all (jobs : List Job)
    (retries : ∀ job ∈ jobs, job.attempts < job.maxAttempts →
      p (.query (.updateStatus job.id .pending ""))) :
    (retryLoop jobs).All p := by
  induction jobs with
  | nil => trivial
  | cons job rest ih =>
    obtain ⟨here, others⟩ := List.forall_mem_cons.mp retries
    have later := ih others
    unfold retryLoop
    split
    · exact later
    next left =>
      refine ⟨reads _ rfl rfl, fun now => ?_⟩
      dsimp only
      split
      · exact ⟨here (by omega), fun _ => later⟩
      · exact later

omit reads in
theorem claimPendingJobs_all (jobType : Option JobType) (limit : Int)
    (claims : p (.query (.claimPendingJobs jobType limit))) :
    (claimPendingJobs jobType limit).All p := by
  exact all_query claims (fun _ => trivial) fun _ => trivial

theorem getPendingWork_all (agentID : String)
    (claims : p (.query (.claimPendingByAgentID agentID))) : (getPendingWork agentID).All p := by
  exact all_query (reads _ rfl rfl) (fun _ => trivial) fun _ =>
    all_query claims (fun _ => trivial) fun _ => trivial

theorem reportJobStatus_all (jobID : String) (status : JobStatus) (errMsg : String)
    (reports : p (.query (.updateStatus jobID status errMsg))) :
    (reportJobStatus jobID status errMsg).All p := by
  exact all_query (reads _ rfl rfl) (fun _ => trivial) fun _ =>
    all_query reports (fun _ => trivial) fun _ => trivial

end Jobs

section Renewals

variable {job : Job} {cert : ManagedCertificate} {next : Except String Unit → Service}

/-- What a direct signing may ask for once the certificate has been read. -/
structure Signs (p : Op → Prop) (cert : ManagedCertificate) : Prop where
  read : ∀ o : Op, o.isWrite = false → o.readsCerts = false → p o
  version : ∀ version, p (.query (.createVersion version))
  image : ∀ now issued, p (.query (.updateCertificate (renewedImage now issued cert)))

/-- What the processing of a renewal job may ask for. -/
structure Renews (p : Op → Prop) (job : Job) (cert : ManagedCertificate) : Prop
    extends Signs p cert where
  status : ∀ status errMsg, p (.query (.updateStatus job.id status errMsg))
  deploy : ∀ new : Job, new.type = .deployment → p (.query (.createJob new))
  mark : ∀ now, p (.query (.updateCertificate
    { cert with status := .renewalInProgress, updatedAt := now }))
  commit : ∀ version now issued, p (.query (.commitRenewal version (renewedImage now issued cert)))

/-- What holds of the rest of a service and passes from what follows an operation to the
operation, for those that the creation of deployment jobs asks for. -/
structure Places (holds : Service → Prop) : Prop where
  read : ∀ o next, o.isWrite = false → o.onJobs = false → o.readsCerts = false →
    (∀ r, holds (next r)) → holds (.op o next)
  deploy : ∀ new : Job, ∀ next, new.type = .deployment → new.status = .pending →
    new.attempts = 0 → (∀ r, holds (next r)) → holds (query (.createJob new) next)

section Places

variable {holds : Service → Prop} (may : Places holds)

include may

theorem Places.createJobsFor (certID : String) {next : Service} (rest : holds next)
    (targets : List (String × Option String)) : holds (createJobsFor certID next targets) := by
  induction targets with
  | nil => exact rest
  | cons target targets ih =>
    exact may.read _ _ rfl rfl rfl fun _ => may.read _ _ rfl rfl rfl fun _ =>
      may.read _ _ rfl rfl rfl fun _ => may.deploy _ _ rfl rfl rfl fun _ => ih

theorem Places.resolveTargets {next : List (String × Option String) → Service}
    (rest : ∀ found, holds (next found)) (ids : List String)
    (found : List (String × Option String)) : holds (resolveTargets next ids found) := by
  induction ids generalizing found with
  | nil => exact rest found
  | cons id ids ih =>
    exact may.read _ _ rfl rfl rfl (forall_except.mpr ⟨fun _ => ih _, fun _ => ih _⟩)

theorem Places.createDeploymentJobs (certID : String) (targetIDs : List String) {next : Service}
    (rest : holds next) : holds (createDeploymentJobs certID targetIDs next) := by
  unfold Jobs.createDeploymentJobs
  split
  · exact may.read _ _ rfl rfl rfl
      (forall_except.mpr ⟨fun _ => rest, fun _ => may.createJobsFor certID rest _⟩)
  · exact may.resolveTargets (may.createJobsFor certID rest) targetIDs []

end Places

/-- What the end of a renewal job may ask for. -/
structure Deploys (p : Op → Prop) (job : Job) : Prop where
  read : ∀ o : Op, o.isWrite = false → o.readsCerts = false → p o
  deploy : ∀ new : Job, new.type = .deployment → p (.query (.createJob new))
  status : ∀ status errMsg, p (.query (.updateStatus job.id status errMsg))

theorem Renews.deploys (may : Renews p job cert) : Deploys p job :=
  ⟨may.read, may.deploy, may.status⟩

theorem finishRenewal_all (may : Deploys p job) (certID : String) (targetIDs : List String)
    (rest : ∀ r, (next r).All p) : (finishRenewal job certID targetIDs next).All p := by
  have places : Places (Program.All p) :=
    ⟨fun o _ read _ certs later => ⟨may.read o read certs, later⟩,
      fun new _ isDeployment _ _ later => ⟨may.deploy new isDeployment, later⟩⟩
  exact all_query (may.status _ _) (fun _ => rest _) fun _ =>
    places.createDeploymentJobs certID targetIDs (rest _)

theorem processRenewalAgentKeygen_all (may : Renews p job cert) (rest : ∀ r, (next r).All p) :
    (processRenewalAgentKeygen job cert next).All p := by
  exact all_query (may.status _ _) (fun _ => rest _) fun _ => ⟨may.read _ rfl rfl, fun _ =>
    ⟨may.mark _, fun _ => rest _⟩⟩

theorem processRenewalServerKeygen_all (may : Renews p job cert) (targetIDs : List String)
    (rest : ∀ r, (next r).All p) :
    (processRenewalServerKeygen env job cert targetIDs next).All p := by
  have fails : ∀ errMsg r, (failJob job.id errMsg (next r)).All p :=
    fun errMsg r => ⟨may.status _ _, fun _ => rest r⟩
  have finishes := finishRenewal_all may.deploys cert.id targetIDs rest
  simp only [processRenewalServerKeygen, Program.All, forall_except]
  refine ⟨may.read _ rfl rfl, fun _ => fails _ _, fun keyPEM => ⟨may.read _ rfl rfl,
    fun _ => fails _ _, fun _ => ⟨may.read _ rfl rfl, fun _ => fails _ _, fun issued =>
    ⟨may.read _ rfl rfl, fun id => ⟨may.read _ rfl rfl, fun createdAt =>
    ⟨may.read _ rfl rfl, fun now => ?_⟩⟩⟩⟩⟩⟩
  split
  · exact all_query (may.commit _ _ _) (fun _ => fails _ _) fun _ => finishes
  · exact all_query (may.version _) (fun _ => fails _ _) fun _ =>
      all_query (may.image _ _) (fun _ => fails _ _) fun _ => finishes

theorem withProfile_all (may : Signs p cert) {next : Option Profile → Service}
    (rest : ∀ profile, (next profile).All p) : (withProfile env cert next).All p := by
  unfold withProfile
  split
  · exact all_query (may.read _ rfl rfl) (fun _ => rest _) fun _ => rest _
  · exact rest _

theorem completeAgentCSRRenewal_all (may : Renews p job cert) (targetIDs : List String)
    (csrPEM : String) (rest : ∀ r, (next r).All p) :
    (completeAgentCSRRenewal env job cert targetIDs csrPEM next).All p := by
  have fails : ∀ errMsg r, (failJob job.id errMsg (next r)).All p :=
    fun errMsg r => ⟨may.status _ _, fun _ => rest r⟩
  unfold completeAgentCSRRenewal
  split
  · exact fails _ _
  refine withProfile_all may.toSigns fun profile => ?_
  split
  · exact fails _ _
  refine all_query (may.status _ _) (fun _ => rest _) fun _ => ⟨may.read _ rfl rfl,
    forall_except.mpr ⟨fun _ => fails _ _, fun issued =>
      ⟨may.read _ rfl rfl, fun id => ⟨may.read _ rfl rfl, fun createdAt => ?_⟩⟩⟩⟩
  exact all_query (may.version _) (fun _ => fails _ _) fun _ => ⟨may.read _ rfl rfl, fun now =>
    all_query (may.image _ _) (fun _ => fails _ _) fun _ =>
      finishRenewal_all may.deploys cert.id targetIDs rest⟩

theorem signDirectly_all (may : Signs p cert) (csrPEM : String) :
    (signDirectly env cert csrPEM).All p := by
  unfold signDirectly
  split
  · refine withProfile_all may fun profile => ?_
    split
    · trivial
    exact ⟨may.read _ rfl rfl, forall_except.mpr ⟨fun _ => trivial, fun issued =>
      ⟨may.read _ rfl rfl, fun id => ⟨may.read _ rfl rfl, fun createdAt =>
      all_query (may.version _) (fun _ => trivial) fun _ =>
      ⟨may.read _ rfl rfl, fun now => ⟨may.image _ _, fun _ => trivial⟩⟩⟩⟩⟩⟩
  · trivial

include reads

theorem updateCertExpiryStatus_all (left : Time) {next : ManagedCertificate → Service}
    (writes : ∀ image : ManagedCertificate, image.id = cert.id →
      p (.query (.updateCertificate image)))
    (rest : ∀ image : ManagedCertificate, image.id = cert.id → (next image).All p) :
    (updateCertExpiryStatus cert left next).All p := by
  unfold updateCertExpiryStatus
  extract_lets newStatus
  split
  · exact rest cert rfl
  split
  · exact rest cert rfl
  · exact ⟨reads _ rfl rfl, fun now => ⟨writes _ rfl, fun _ => rest _ rfl⟩⟩

theorem askRenewalInfo_all (certID : String) {next : Bool → Service}
    (rest : ∀ early, (next early).All p) : (askRenewalInfo certID next).All p := by
  refine all_query (reads _ rfl rfl) (fun _ => rest _) fun version => ?_
  dsimp only
  split
  · exact rest _
  simp only [Program.All, forall_except]
  refine ⟨reads _ rfl rfl, fun _ => rest _, fun windowStart => ?_⟩
  split
  · exact rest _
  · exact rest _
  · exact ⟨reads _ rfl rfl, fun _ => rest _⟩

/-- The certificates the check writes are those it was given and did not pass over. -/
theorem checkLoop_all (certs : List ManagedCertificate)
    (creates : ∀ new, p (.query (.createJob new)))
    (writes : ∀ cert ∈ certs, expirySkips cert.status = false →
      ∀ image : ManagedCertificate, image.id = cert.id → p (.query (.updateCertificate image))) :
    (checkLoop env certs).All p := by
  induction certs with
  | nil => trivial
  | cons cert rest ih =>
    obtain ⟨here, others⟩ := List.forall_mem_cons.mp writes
    have later := ih others
    unfold checkLoop
    split
    · exact later
    next kept =>
      have own := here (by simpa using kept)
      refine ⟨reads _ rfl rfl, fun now =>
        updateCertExpiryStatus_all reads _ own fun held same => ?_⟩
      split
      · exact later
      refine askRenewalInfo_all reads held.id fun early => ?_
      split
      · exact later
      refine ⟨reads _ rfl rfl, fun existing => ?_⟩
      dsimp only
      split
      · exact later
      refine ⟨reads _ rfl rfl, fun id => ⟨reads _ rfl rfl, fun _ => ⟨reads _ rfl rfl, fun _ =>
        all_query (creates _) (fun _ => later) fun _ => ⟨own _ same, fun _ => later⟩⟩⟩⟩

theorem revokeCertificateWithActor_all (certID reason actor : String)
    (lookup : p (.query (.getCertificate certID)))
    (commits : ∀ now reason cert row,
      p (.query (.commitRevocation (revokedImage now reason cert) row)))
    (writes : ∀ now reason cert, p (.query (.updateCertificate (revokedImage now reason cert))))
    (rows : ∀ row, p (.query (.createRevocation row))) :
    (revokeCertificateWithActor env certID reason actor).All p := by
  refine all_query lookup (fun _ => trivial) fun found => ?_
  dsimp only
  split
  · trivial
  split
  · trivial
  generalize (if reason = "" then "unspecified" else reason) = given
  split
  · refine all_query (reads _ rfl rfl) (fun _ => trivial) fun version => ⟨reads _ rfl rfl,
      fun now => ⟨reads _ rfl rfl, fun rowID => ?_⟩⟩
    split
    · exact all_query (commits _ _ _ _) (fun _ => trivial) fun _ => trivial
    · exact all_query (writes _ _ _) (fun _ => trivial) fun _ => ⟨rows _, fun _ => trivial⟩
  · trivial

end Renewals

end Certctl.Source.Jobs

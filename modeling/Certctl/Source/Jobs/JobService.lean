import Certctl.Source.Jobs.Renewals

/-!
The job service: claiming and processing, retries, the two reapers, cancellation, and the
approval of a job by hand; the agents' reports too. Claimed jobs are processed beside one
another, so that any bound on their number is one of the orders covered.

Source: internal/service/agent.go, deployment.go, job.go.
-/
namespace Certctl.Source.Jobs

open Lib

/-- The checks of `ProcessDeploymentJob` on the agent of the target; the heartbeat must be
within five minutes. -/
def agentProblem (agentID : String) (agent : Agent) (now : Time) : Option (String × String) :=
  if agent.retired then some ("assigned agent is retired", "agent " ++ agentID ++ " is retired")
  else if agent.lastHeartbeatAt.any (fun beat => decide (now - beat > 300 * 1000000000)) then
    some ("agent is offline", "agent " ++ agentID ++ " is offline")
  else none

def processDeploymentJob (job : Job) (next : Except String Unit → Service) : Service :=
  query (.updateStatus job.id .running "") fun
  | .error e => next (.error ("failed to update job status: " ++ e.message))
  | .ok _ =>
    query (.getCertificate job.certificateID) fun
    | .error e => failJob job.id ("certificate fetch failed: " ++ e.message)
        (next (.error ("failed to fetch certificate: " ++ e.message)))
    | .ok _ =>
      if job.targetID.getD "" = "" then
        failJob job.id "target_id not found in job" (next (.error "target_id not found in job"))
      else
        query (.getTarget (job.targetID.getD "")) fun
        | .error e => failJob job.id ("target fetch failed: " ++ e.message)
            (next (.error ("failed to fetch target: " ++ e.message)))
        | .ok target =>
          query (.getAgent (target.agentID.getD "")) fun
          | .error e => failJob job.id ("agent fetch failed: " ++ e.message)
              (next (.error ("failed to fetch agent: " ++ e.message)))
          | .ok agent =>
            .op .now fun now =>
            match agentProblem (target.agentID.getD "") agent now with
            | some (errMsg, message) => failJob job.id errMsg (next (.error message))
            | none => next (.ok ())

/-- Deployment jobs with an agent are left to the agent. -/
def shouldSkipJob (job : Job) : Bool :=
  decide (job.type = .deployment) && job.agentID.any (fun agentID => decide (agentID ≠ ""))

def processJob (env : Env) (job : Job) : Service :=
  match job.type with
  | .renewal | .issuance => processRenewalJob env job answer
  | .deployment => processDeploymentJob job answer
  | .validation => .done (.error "validation job processing not yet implemented")
  | .other text => .done (.error ("unknown job type: " ++ text))

def fanOut (env : Env) : List Job → Service
  | [] => .done .ok
  | job :: rest =>
    if shouldSkipJob job then fanOut env rest else .fork (processJob env job) (fanOut env rest)

def processPendingJobs (env : Env) : Service :=
  query (.claimPendingJobs none env.claimLimit) fun
  | .error e => .done (.error ("failed to claim pending jobs: " ++ e.message))
  | .ok jobs => fanOut env jobs

/-- `ClaimPendingJobs` by itself. -/
def claimPendingJobs (jobType : Option JobType) (limit : Int) : Service :=
  query (.claimPendingJobs jobType limit) fun
  | .error e => .done (.error e.message)
  | .ok jobs => .done (.jobs jobs)

def getPendingWork (agentID : String) : Service :=
  query (.getAgent agentID) fun
  | .error e => .done (.error ("failed to fetch agent: " ++ e.message))
  | .ok _ =>
    query (.claimPendingByAgentID agentID) fun
    | .error e => .done (.error e.message)
    | .ok jobs => .done (.jobs jobs)

/-- A minute since the last run, or since the creation where there was none. -/
def retryDue (now : Time) (job : Job) : Bool :=
  decide (60 * 1000000000 ≤ now - job.startedAt.getD job.createdAt)

def retryLoop : List Job → Service
  | [] => .done .ok
  | job :: rest =>
    if job.attempts ≥ job.maxAttempts then retryLoop rest
    else
      .op .now fun now =>
      if retryDue now job then
        query (.updateStatus job.id .pending "") fun _ => retryLoop rest
      else retryLoop rest

def retryFailedJobs : Service :=
  query (.listByStatus .failed) fun
  | .error e => .done (.error ("failed to fetch failed jobs: " ++ e.message))
  | .ok jobs => retryLoop jobs

/-- The listed copies are written back as Failed. -/
def reapLoop (errMsg : Job → Option String) : List Job → Service
  | [] => .done .ok
  | job :: rest =>
    match errMsg job with
    | none => reapLoop errMsg rest
    | some text =>
      query (.updateJob { job with status := .failed, lastError := some text }) fun _ =>
      reapLoop errMsg rest

def reapJobsWithOfflineAgents (agentTTL : Time) : Service :=
  if agentTTL ≤ 0 then
    .done (.error ("ReapJobsWithOfflineAgents: agentTTL must be positive, got " ++
      durationText agentTTL))
  else
    .op .now fun now =>
    query (.listJobsWithOfflineAgents (now - agentTTL)) fun
    | .error e => .done (.error ("list jobs with offline agents: " ++ e.message))
    | .ok jobs => reapLoop
        (fun _ => some ("agent offline (no heartbeat for >" ++ durationText agentTTL ++ ")"))
        jobs

def timeoutText (csrTTL approvalTTL : Time) (job : Job) : Option String :=
  match job.status with
  | .awaitingCSR => some ("timed out in AwaitingCSR after " ++ durationText csrTTL)
  | .awaitingApproval =>
    some ("timed out in AwaitingApproval after " ++ durationText approvalTTL)
  | _ => none

def reapTimedOutJobs (csrTTL approvalTTL : Time) : Service :=
  .op .now fun now =>
  query (.listTimedOutAwaitingJobs (now - csrTTL) (now - approvalTTL)) fun
  | .error e => .done (.error ("failed to fetch timed-out jobs: " ++ e.message))
  | .ok jobs => reapLoop (timeoutText csrTTL approvalTTL) jobs

def cancelJob (jobID : String) : Service :=
  query (.getJob jobID) fun
  | .error e => .done (.error ("failed to fetch job: " ++ e.message))
  | .ok job =>
    if job.status ≠ .pending ∧ job.status ≠ .running then
      .done (.error ("cannot cancel job with status " ++ job.status.text))
    else
      query (.updateStatus jobID .cancelled "cancelled by user") fun
      | .error e => .done (.error ("failed to cancel job: " ++ e.message))
      | .ok _ => .done .ok

def selfApproval : String :=
  "self-approval forbidden: actor is the owner of the certificate"

/-- The approver may not be the owner; where the owner cannot be found out, anyone may. -/
def checkNotSelf (env : Env) (job : Job) (actor : String) (next : Except String Unit → Service) :
    Service :=
  if actor = "" ∨ env.ownerCheck = false ∨ job.certificateID = "" then next (.ok ())
  else
    query (.getCertificate job.certificateID) fun
    | .error _ => next (.ok ())
    | .ok (cert, _) =>
      if env.ownerOf cert = "" then next (.ok ())
      else
        query (.getOwner (env.ownerOf cert)) fun
        | .error _ => next (.ok ())
        | .ok owner =>
          if toLower env.unicode owner.name = toLower env.unicode actor ∨
              toLower env.unicode owner.email = toLower env.unicode actor then
            next (.error selfApproval)
          else next (.ok ())

def approveJob (env : Env) (id actor : String) : Service :=
  query (.getJob id) fun
  | .error e => .done (.error ("job not found: " ++ e.message))
  | .ok job =>
    if job.status ≠ .awaitingApproval then
      .done (.error ("cannot approve job with status " ++ job.status.text ++
        " (must be AwaitingApproval)"))
    else
      checkNotSelf env job actor fun
      | .error e => .done (.error e)
      | .ok () =>
        query (.updateStatus id .pending "") fun
        | .error e => .done (.error ("failed to approve job: " ++ e.message))
        | .ok _ => .done .ok

def rejectJob (id reason : String) : Service :=
  query (.getJob id) fun
  | .error e => .done (.error ("job not found: " ++ e.message))
  | .ok job =>
    if job.status ≠ .awaitingApproval then
      .done (.error ("cannot reject job with status " ++ job.status.text ++
        " (must be AwaitingApproval)"))
    else
      query (.updateStatus id .cancelled
        (if reason = "" then "rejected by user" else "rejected: " ++ reason)) fun
      | .error e => .done (.error ("failed to reject job: " ++ e.message))
      | .ok _ => .done .ok

def reportJobStatus (jobID : String) (status : JobStatus) (errMsg : String) : Service :=
  query (.getJob jobID) fun
  | .error e => .done (.error ("failed to fetch job: " ++ e.message))
  | .ok _ =>
    query (.updateStatus jobID status errMsg) fun
    | .error e => .done (.error ("failed to update job status: " ++ e.message))
    | .ok _ => .done .ok

end Certctl.Source.Jobs

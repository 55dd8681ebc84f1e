import Certctl.Source.Jobs.JobService

/-!
The agents and their deployment targets: heartbeats, the sweep of stale agents, retirement
with its cascade, and the creation and update of targets. A repository call runs as one step;
it may fail by a choice of the surroundings, and a write that fails may have been carried out
all the same. Audit events are left out, as no modelled function reads them.

Source: internal/repository/postgres/agent.go, target.go; internal/domain/connector.go;
internal/service/agent.go, agent_retire.go, target.go.
-/
namespace Certctl.Source.Fleet

open Lib
open Jobs (RepoError)

inductive AgentStatus where
  | online | offline | degraded
  deriving DecidableEq

structure Agent where
  id : String
  name : String
  hostname : String
  status : AgentStatus
  lastHeartbeatAt : Option Time
  registeredAt : Time
  apiKeyHash : String
  os : String
  architecture : String
  ipAddress : String
  version : String
  retiredAt : Option Time
  retiredReason : Option String
  deriving DecidableEq

def Agent.isRetired (a : Agent) : Bool := a.retiredAt.isSome

structure AgentMetadata where
  os : String
  architecture : String
  hostname : String
  ipAddress : String
  version : String

structure DeploymentTarget where
  id : String
  name : String
  type : String
  agentID : String
  config : String
  encryptedConfig : String
  enabled : Bool
  lastTestedAt : Option Time
  testStatus : String
  source : String
  createdAt : Time
  updatedAt : Time
  retiredAt : Option Time
  retiredReason : Option String

structure DB where
  agents : Table Agent.id
  targets : Table DeploymentTarget.id
  /-- Certificate and target. -/
  mappings : List (String × String)
  jobs : Table Jobs.Job.id

/-- The columns of an agent that the job queries read. -/
def Agent.toJobs (a : Agent) : Jobs.Agent := ⟨a.id, a.lastHeartbeatAt, a.isRetired⟩

/-- The tables as the job service sees them. -/
def DB.toJobs (db : DB) : Jobs.DB :=
  { Jobs.DB.empty with
    jobs := db.jobs
    agents := ⟨db.agents.rows.map Agent.toJobs, by
      rw [List.map_map]
      exact db.agents.unique⟩ }

theorem DB.toJobs_agent (db : DB) (id : String) :
    db.toJobs.agents.get? id = (db.agents.get? id).map Agent.toJobs :=
  List.find?_map

def sentinelAgentIDs : List String :=
  ["server-scanner", "cloud-aws-sm", "cloud-azure-kv", "cloud-gcp-sm"]

def isSentinelAgent (id : String) : Bool := sentinelAgentIDs.contains id

structure AgentDependencyCounts where
  activeTargets : Nat
  activeCertificates : Nat
  pendingJobs : Nat
  deriving DecidableEq

def AgentDependencyCounts.hasDependencies (d : AgentDependencyCounts) : Bool :=
  decide (d.activeTargets > 0) || decide (d.activeCertificates > 0) || decide (d.pendingJobs > 0)

inductive Query where
  | getAgent (id : String)
  | listAgents
  | updateAgent (agent : Agent)
  | updateHeartbeat (id : String) (metadata : Option AgentMetadata)
  | softRetire (id : String) (retiredAt : Time) (reason : String)
  | retireAgentWithCascade (id : String) (retiredAt : Time) (reason : String)
  | countActiveTargets (agentID : String)
  | countActiveCertificates (agentID : String)
  | countPendingJobs (agentID : String)
  | getTarget (id : String)
  | createTarget (target : DeploymentTarget)
  | updateTarget (target : DeploymentTarget)

@[reducible] def Query.Value : Query → Type
  | .getAgent _ => Agent
  | .listAgents => List Agent
  | .updateAgent _ | .updateHeartbeat .. | .softRetire .. | .retireAgentWithCascade .. => Unit
  | .countActiveTargets _ | .countActiveCertificates _ | .countPendingJobs _ => Nat
  | .getTarget _ => DeploymentTarget
  | .createTarget _ | .updateTarget _ => Unit

/-- The text a repository puts before the driver's error. -/
def Query.context : Query → String
  | .getAgent _ => "failed to query agent: "
  | .listAgents => "failed to query agents: "
  | .updateAgent _ => "failed to update agent: "
  | .updateHeartbeat .. => "failed to update heartbeat: "
  | .softRetire .. => "failed to soft-retire agent: "
  | .retireAgentWithCascade .. => "failed to retire agent in cascade: "
  | .countActiveTargets _ => "failed to count active targets for agent: "
  | .countActiveCertificates _ => "failed to count active certificates for agent: "
  | .countPendingJobs _ => "failed to count pending jobs for agent: "
  | .getTarget _ => "failed to query target: "
  | .createTarget _ => "failed to create target: "
  | .updateTarget _ => "failed to update target: "

/-- The assignments of `AgentRepository.Update`: every column of the image but the
registration time and the two of the retirement. -/
def Agent.overwrite (image row : Agent) : Agent :=
  { image with
    id := row.id
    registeredAt := row.registeredAt
    retiredAt := row.retiredAt
    retiredReason := row.retiredReason }

theorem Agent.overwrite_id (image row : Agent) : (image.overwrite row).id = row.id := rfl

/-- `CASE WHEN $n = '' THEN column ELSE $n END`. -/
def unlessEmpty (reported column : String) : String := if reported = "" then column else reported

/-- The assignments of `UpdateHeartbeat`. -/
def Agent.beat (now : Time) (metadata : Option AgentMetadata) (row : Agent) : Agent :=
  match metadata with
  | none => { row with lastHeartbeatAt := some now }
  | some m =>
    { row with
      lastHeartbeatAt := some now
      hostname := unlessEmpty m.hostname row.hostname
      os := unlessEmpty m.os row.os
      architecture := unlessEmpty m.architecture row.architecture
      ipAddress := unlessEmpty m.ipAddress row.ipAddress
      version := unlessEmpty m.version row.version }

theorem Agent.beat_id (now : Time) (metadata : Option AgentMetadata) (row : Agent) :
    (row.beat now metadata).id = row.id := by
  cases metadata <;> rfl

def Agent.retire (retiredAt : Time) (reason : String) (row : Agent) : Agent :=
  { row with retiredAt := some retiredAt, retiredReason := some reason }

theorem Agent.retire_id (retiredAt : Time) (reason : String) (row : Agent) :
    (row.retire retiredAt reason).id = row.id := rfl

def DeploymentTarget.retire (retiredAt : Time) (reason : String) (row : DeploymentTarget) :
    DeploymentTarget :=
  { row with retiredAt := some retiredAt, retiredReason := some reason }

theorem DeploymentTarget.retire_id (retiredAt : Time) (reason : String) (row : DeploymentTarget) :
    (row.retire retiredAt reason).id = row.id := rfl

/-- The assignments of `TargetRepository.Update`. -/
def DeploymentTarget.overwrite (image row : DeploymentTarget) : DeploymentTarget :=
  { image with
    id := row.id
    createdAt := row.createdAt
    retiredAt := row.retiredAt
    retiredReason := row.retiredReason }

theorem DeploymentTarget.overwrite_id (image row : DeploymentTarget) :
    (image.overwrite row).id = row.id := rfl

namespace DB

/-- `WHERE id = $1 AND retired_at IS NULL`. -/
def isActiveAgent (id : String) (row : Agent) : Bool :=
  decide (row.id = id) && decide (row.retiredAt = none)

/-- `WHERE agent_id = $1 AND retired_at IS NULL`. -/
def isActiveTarget (agentID : String) (row : DeploymentTarget) : Bool :=
  decide (row.agentID = agentID) && decide (row.retiredAt = none)

def retireAgent (db : DB) (id : String) (retiredAt : Time) (reason : String) : DB :=
  { db with
    agents := db.agents.updateWhere (isActiveAgent id) (Agent.retire retiredAt reason)
      (Agent.retire_id retiredAt reason) }

def retireTargets (db : DB) (agentID : String) (retiredAt : Time) (reason : String) : DB :=
  { db with
    targets := db.targets.updateWhere (isActiveTarget agentID)
      (DeploymentTarget.retire retiredAt reason) (DeploymentTarget.retire_id retiredAt reason) }

/-- The certificates deployed through an active target of the agent. -/
def activeCertificates (db : DB) (agentID : String) : List String :=
  ((db.mappings.filter (fun m => (db.targets.get? m.2).any (isActiveTarget agentID))).map
    Prod.fst).eraseDups

def isPending (agentID : String) (job : Jobs.Job) : Bool :=
  decide (job.agentID = some agentID) && (decide (job.status = .pending) ||
    decide (job.status = .awaitingCSR) || decide (job.status = .awaitingApproval) ||
    decide (job.status = .running))

end DB

def errNoAgent : RepoError := .notFound "agent not found: "

def errNoTarget : RepoError := .notFound "target not found: "

def errTargetExists : RepoError :=
  .other ("failed to create target: pq: duplicate key value violates unique constraint " ++
    "\"deployment_targets_pkey\"")

/-- The foreign key of `deployment_targets.agent_id`. -/
def errForeignKey (q : Query) : RepoError :=
  .other (q.context ++ "pq: insert or update on table \"deployment_targets\" violates " ++
    "foreign key constraint \"deployment_targets_agent_id_fkey\"")

/-- The query without faults: the tables after it and what it returns. -/
def perform (db : DB) (now : Time) : (q : Query) → Except RepoError (DB × q.Value)
  | .getAgent id =>
    match db.agents.get? id with
    | some agent => .ok (db, agent)
    | none => .error errNoAgent
  | .listAgents =>
    .ok (db, Jobs.orderByDesc Agent.registeredAt (db.agents.rows.filter (fun a =>
      decide (a.retiredAt = none))))
  | .updateAgent image =>
    match db.agents.update image.id image.overwrite image.overwrite_id with
    | some agents => .ok ({ db with agents }, ())
    | none => .error errNoAgent
  | .updateHeartbeat id metadata =>
    if db.agents.rows.any (DB.isActiveAgent id) then
      .ok ({ db with
        agents := db.agents.updateWhere (DB.isActiveAgent id) (Agent.beat now metadata)
          (Agent.beat_id now metadata) }, ())
    else .error errNoAgent
  | .softRetire id retiredAt reason => .ok (db.retireAgent id retiredAt reason, ())
  | .retireAgentWithCascade id retiredAt reason =>
    -- The second statement runs whether or not the first one met a row.
    .ok ((db.retireAgent id retiredAt reason).retireTargets id retiredAt reason, ())
  | .countActiveTargets agentID => .ok (db, db.targets.rows.countP (DB.isActiveTarget agentID))
  | .countActiveCertificates agentID => .ok (db, (db.activeCertificates agentID).length)
  | .countPendingJobs agentID => .ok (db, db.jobs.rows.countP (DB.isPending agentID))
  | .getTarget id =>
    match db.targets.get? id with
    | some target => .ok (db, target)
    | none => .error errNoTarget
  | .createTarget target =>
    if (db.agents.get? target.agentID).isSome then
      match db.targets.insert { target with retiredAt := none, retiredReason := none } with
      | some targets => .ok ({ db with targets }, ())
      | none => .error errTargetExists
    else .error (errForeignKey (.createTarget target))
  | .updateTarget image =>
    match db.targets.update image.id image.overwrite image.overwrite_id with
    | none => .error errNoTarget
    | some targets =>
      if (db.agents.get? image.agentID).isSome then .ok ({ db with targets }, ())
      else .error (errForeignKey (.updateTarget image))

/-- What is open at each step: a fault, with whether the write was carried out; the time; a
generated identifier. -/
structure Choice where
  fault : Option (String × Bool)
  now : Time
  id : String

inductive Op where
  | now
  | newID
  | query (q : Query)

@[reducible] def Op.Result : Op → Type
  | .now => Time
  | .newID => String
  | .query q => Except RepoError q.Value

def execQuery (db : DB) (q : Query) (c : Choice) : DB × Except RepoError q.Value :=
  match c.fault, perform db c.now q with
  | none, .ok (db', value) => (db', .ok value)
  | none, .error e => (db, .error e)
  | some (cause, true), .ok (db', _) => (db', .error (.other (q.context ++ cause)))
  | some (cause, _), _ => (db, .error (.other (q.context ++ cause)))

def exec (db : DB) : (o : Op) → Choice → DB × o.Result
  | .now, c => (db, c.now)
  | .newID, c => (db, c.id)
  | .query q, c => execQuery db q c

inductive Reply where
  | ok
  | retired (alreadyRetired cascade : Bool) (retiredAt : Time) (counts : AgentDependencyCounts)
  | error (message : String)
  deriving DecidableEq

abbrev Service := Program Op.Result Reply

def query (q : Query) (next : Except RepoError q.Value → Service) : Service := .op (.query q) next

/-- A call leaves the tables as they are, or as the query leaves them. -/
theorem execQuery_store (db : DB) (q : Query) (c : Choice) :
    (execQuery db q c).1 = db ∨
      ∃ value, perform db c.now q = .ok ((execQuery db q c).1, value) := by
  unfold execQuery
  cases fault : c.fault with
  | none =>
    cases performed : perform db c.now q with
    | ok result => exact .inr ⟨result.2, rfl⟩
    | error e => exact .inl rfl
  | some f =>
    obtain ⟨cause, carried⟩ := f
    cases performed : perform db c.now q with
    | error e => cases carried <;> exact .inl rfl
    | ok result =>
      cases carried with
      | true => exact .inr ⟨result.2, rfl⟩
      | false => exact .inl rfl

/-! ### Agents -/

def errAgentRetired : String := "agent has been retired"

def heartbeat (agentID : String) (metadata : Option AgentMetadata) : Service :=
  query (.getAgent agentID) fun
  | .error e => .done (.error ("failed to fetch agent: " ++ e.message))
  | .ok agent =>
    if agent.isRetired then .done (.error errAgentRetired)
    else
      query (.updateHeartbeat agentID metadata) fun
      | .error e => .done (.error ("failed to update heartbeat: " ++ e.message))
      | .ok _ =>
        if agent.status ≠ .online then
          -- The image is the row as read before the heartbeat was stored.
          query (.updateAgent { agent with status := .online }) fun _ => .done .ok
        else .done .ok

/-- The agent is Online and its last heartbeat is older than the cutoff. -/
def Agent.isStale (cutoff : Time) (a : Agent) : Bool :=
  decide (a.status = .online) && a.lastHeartbeatAt.any (fun beat => decide (beat < cutoff))

def markLoop (cutoff : Time) : List Agent → Service
  | [] => .done .ok
  | agent :: rest =>
    if agent.isStale cutoff then
      query (.updateAgent { agent with status := .offline }) fun _ => markLoop cutoff rest
    else markLoop cutoff rest

def markStaleAgentsOffline (threshold : Time) : Service :=
  query .listAgents fun
  | .error e => .done (.error ("failed to list agents: " ++ e.message))
  | .ok agents => .op .now fun now => markLoop (now - threshold) agents

def errAgentIsSentinel : String := "agent is a reserved sentinel and cannot be retired"

def errForceReasonRequired : String := "force=true requires a non-empty reason"

def errBlockedByDependencies (counts : AgentDependencyCounts) : String :=
  "agent has active downstream dependencies (active_targets=" ++ toString counts.activeTargets ++
    ", active_certificates=" ++ toString counts.activeCertificates ++
    ", pending_jobs=" ++ toString counts.pendingJobs ++ ")"

def collectAgentDependencyCounts (id : String)
    (next : Except String AgentDependencyCounts → Service) : Service :=
  query (.countActiveTargets id) fun
  | .error e => next (.error ("count active targets: " ++ e.message))
  | .ok targets =>
    query (.countActiveCertificates id) fun
    | .error e => next (.error ("count active certificates: " ++ e.message))
    | .ok certs =>
      query (.countPendingJobs id) fun
      | .error e => next (.error ("count pending jobs: " ++ e.message))
      | .ok jobs => next (.ok ⟨targets, certs, jobs⟩)

def retireAgent (id : String) (force : Bool) (reason : String) : Service :=
  if isSentinelAgent id then .done (.error errAgentIsSentinel)
  else
    query (.getAgent id) fun
    | .error e => .done (.error ("failed to fetch agent: " ++ e.message))
    | .ok agent =>
      match agent.retiredAt with
      | some retiredAt => .done (.retired true false retiredAt ⟨0, 0, 0⟩)
      | none =>
        collectAgentDependencyCounts id fun
        | .error e => .done (.error ("failed to collect agent dependency counts: " ++ e))
        | .ok counts =>
          if force ∧ reason = "" then .done (.error errForceReasonRequired)
          else if !force ∧ counts.hasDependencies then
            .done (.error (errBlockedByDependencies counts))
          else
            .op .now fun retiredAt =>
            if force ∧ counts.hasDependencies then
              query (.retireAgentWithCascade id retiredAt reason) fun
              | .error e => .done (.error ("failed to retire agent with cascade: " ++ e.message))
              | .ok _ => .done (.retired false true retiredAt counts)
            else
              query (.softRetire id retiredAt reason) fun
              | .error e => .done (.error ("failed to soft-retire agent: " ++ e.message))
              | .ok _ => .done (.retired false false retiredAt counts)

/-! ### Targets -/

/-- What the target service takes from other packages: the known target types, the check of a
connector config, its encryption, the redaction of its secrets, whether an incoming config
holds a redacted value, and the merge of such a config with the stored target. -/
structure Env where
  validType : String → Bool
  validateConfig : String → String → Except String Unit
  encrypt : String → Except String String
  redact : String → String
  hasRedacted : String → Bool
  merge : String → DeploymentTarget → Except String String

def errAgentNotFound : String := "referenced agent does not exist"

def errInvalidConnectorConfig : String := "invalid connector config"

/-- The zero time of an unset field. -/
def orNow (now t : Time) : Time := if t = 0 then now else t

/-- The defaults of a new target. -/
def withDefaults (now : Time) (newID : String) (t : DeploymentTarget) : DeploymentTarget :=
  let source := if t.source = "" then "database" else t.source
  { t with
    id := if t.id = "" then newID else t.id
    createdAt := orNow now t.createdAt
    updatedAt := orNow now t.updatedAt
    testStatus := if t.testStatus = "" then "untested" else t.testStatus
    source := source
    enabled := if source = "database" ∧ t.enabled = false then true else t.enabled }

def createTarget (env : Env) (target : DeploymentTarget) : Service :=
  if env.validType target.type = false then
    .done (.error ("unsupported target type: " ++ target.type))
  else
    match env.validateConfig target.type target.config with
    | .error e => .done (.error (errInvalidConnectorConfig ++ ": " ++ e))
    | .ok _ =>
      if target.agentID = "" then
        .done (.error (errAgentNotFound ++ ": agent_id is required"))
      else
        query (.getAgent target.agentID) fun
        | .error _ => .done (.error (errAgentNotFound ++ ": " ++ target.agentID))
        | .ok agent =>
          if agent.isRetired then
            .done (.error (errAgentNotFound ++ ": " ++ target.agentID ++ " (retired)"))
          else
            .op .newID fun newID => .op .now fun now =>
            let new := withDefaults now newID target
            let store := fun t => query (.createTarget t) fun
              | .error e => .done (.error ("failed to create target: " ++ e.message))
              | .ok _ => .done .ok
            if new.config ≠ "" then
              match env.encrypt new.config with
              | .error e => .done (.error ("failed to encrypt config: " ++ e))
              | .ok encrypted =>
                store { new with encryptedConfig := encrypted, config := env.redact new.config }
            else store new

/-- Redacted values of an incoming config are taken from the stored target, if it loads. -/
def mergeRedactedConfig (env : Env) (id incoming : String)
    (next : Except String String → Service) : Service :=
  if env.hasRedacted incoming then
    query (.getTarget id) fun
    | .error _ => next (.ok incoming)
    | .ok existing => next (env.merge incoming existing)
  else next (.ok incoming)

def updateTarget (env : Env) (id : String) (target : DeploymentTarget) : Service :=
  .op .now fun now =>
  let image := { target with id := id, updatedAt := now }
  let store := fun t => query (.updateTarget t) fun
    | .error e => .done (.error ("failed to update target: " ++ e.message))
    | .ok _ => .done .ok
  if image.config ≠ "" then
    mergeRedactedConfig env id image.config fun
    | .error e => .done (.error ("failed to merge config: " ++ e))
    | .ok merged =>
      match env.validateConfig image.type merged with
      | .error e => .done (.error (errInvalidConnectorConfig ++ ": " ++ e))
      | .ok _ =>
        match env.encrypt merged with
        | .error e => .done (.error ("failed to encrypt config: " ++ e))
        | .ok encrypted =>
          store { image with encryptedConfig := encrypted, config := env.redact merged }
  else store image

inductive Call where
  | heartbeat (agentID : String) (metadata : Option AgentMetadata)
  | markStaleAgentsOffline (threshold : Time)
  | retireAgent (id : String) (force : Bool) (reason : String)
  | createTarget (target : DeploymentTarget)
  | updateTarget (id : String) (target : DeploymentTarget)

def body (env : Env) : Call → Service
  | .heartbeat agentID metadata => heartbeat agentID metadata
  | .markStaleAgentsOffline threshold => markStaleAgentsOffline threshold
  | .retireAgent id force reason => retireAgent id force reason
  | .createTarget target => createTarget env target
  | .updateTarget id target => updateTarget env id target

abbrev Sys := Pool Op.Result DB Reply Call

/-- One repository call of one of the calls under way, or the begin of a call. -/
def step (env : Env) : Sys → Move Call Choice → Option Sys := poolStep exec (body env)

end Certctl.Source.Fleet

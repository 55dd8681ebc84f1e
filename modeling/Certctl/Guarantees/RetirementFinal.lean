import Certctl.Source.Fleet

/-!
Retirement of agents, in every interleaving of retirements, heartbeats, stale sweeps and
writes of targets. In a run in which no full-row write of an agent meets a retired row, no
cascade meets an agent that is retired already, no plain retirement meets an active target,
and no target is bound to a retired agent, a retired row stays as it is, and a target is
retired exactly when its agent is, with the agent's time and reason.
-/
namespace Certctl.Guarantees.RetirementFinal

open Lib Source Source.Fleet

/-- The row of a retired agent stays. -/
def Frozen (db db' : DB) : Prop :=
  ∀ id row, db.agents.get? id = some row → row.retiredAt ≠ none →
    db'.agents.get? id = some row

/-- A target is retired when its agent is, with the time and the reason of the agent. -/
def Matches (db : DB) (target : DeploymentTarget) : Prop :=
  ∃ agent, db.agents.get? target.agentID = some agent ∧ target.retiredAt = agent.retiredAt ∧
    (target.retiredAt ≠ none → target.retiredReason = agent.retiredReason)

def Consistent (db : DB) : Prop := ∀ id target, db.targets.get? id = some target → Matches db target

def agentActive (db : DB) (id : String) : Bool :=
  (db.agents.get? id).all (fun a => decide (a.retiredAt = none))

/-- What a write finds in the tables:
a full-row write of an agent and a cascade, an active agent; a plain retirement, no active
target of the agent; a new target, an active agent; an update of a target, the agent the
target has, or an active target and an active agent. -/
def steadyOp (db : DB) : Op → Bool
  | .query (.updateAgent image) => agentActive db image.id
  | .query (.retireAgentWithCascade id _ _) => agentActive db id
  | .query (.softRetire id _ _) => !db.targets.rows.any (DB.isActiveTarget id)
  | .query (.createTarget target) => agentActive db target.agentID
  | .query (.updateTarget image) => (db.targets.get? image.id).all (fun row =>
      decide (row.agentID = image.agentID) ||
        (decide (row.retiredAt = none) && agentActive db image.agentID))
  | _ => true

def steady (s : Sys) (m : Move Call Choice) : Bool :=
  disciplined (fun _ _ db o _ => steadyOp db o) s m

/-- No call is under way, and the tables are consistent. -/
def Idle (s : Sys) : Prop := s.tasks = [] ∧ Consistent s.store

section Steps

variable {db db' : DB} {now : Time}

theorem frozen_refl (db : DB) : Frozen db db := fun _ _ found _ => found

/-- From consistent tables to consistent tables, with the retired agents as they were. -/
abbrev Keeps (db db' : DB) : Prop := Consistent db → Frozen db db' ∧ Consistent db'

theorem keeps_refl (db : DB) : Keeps db db := fun consistent => ⟨frozen_refl db, consistent⟩

theorem Frozen.trans {db'' : DB} (first : Frozen db db') (second : Frozen db' db'') :
    Frozen db db'' := fun id row found retired => second id row (first id row found retired) retired

variable {id reason : String} {targets : Table DeploymentTarget.id} {retiredAt : Time}

theorem agentActive_iff :
    agentActive db id = true ↔ ∀ a, db.agents.get? id = some a → a.retiredAt = none := by
  unfold agentActive
  cases db.agents.get? id <;> simp

/-- Agents keep their retirement columns, targets stay: nothing is lost. -/
theorem Consistent.of_agents (consistent : Consistent db) (targets : db'.targets = db.targets)
    (keeps : ∀ id a, db.agents.get? id = some a → ∃ a', db'.agents.get? id = some a' ∧
      a'.retiredAt = a.retiredAt ∧ a'.retiredReason = a.retiredReason) : Consistent db' := by
  intro id target found
  rw [targets] at found
  obtain ⟨a, named, retiredAt, reason⟩ := consistent id target found
  obtain ⟨a', named', sameAt, sameReason⟩ := keeps target.agentID a named
  exact ⟨a', named', retiredAt.trans sameAt.symm,
    fun retired => (reason retired).trans sameReason.symm⟩

/-- The agent rows after a write that only meets active rows with the key. -/
theorem get?_activeWhere {f : Agent → Agent} (keeps : ∀ r, (f r).id = r.id)
    {key : String} {a : Agent} (found : db.agents.get? key = some a) :
    (db.agents.updateWhere (DB.isActiveAgent id) f keeps).get? key =
      some (if key = id ∧ a.retiredAt = none then f a else a) := by
  rw [Table.get?_updateWhere, found, Option.map_some, DB.isActiveAgent, Table.get?_key found]
  simp only [Bool.and_eq_true, decide_eq_true_eq]

theorem keeps_updateAgent {image : Agent} {agents : Table Agent.id}
    (updated : db.agents.update image.id image.overwrite image.overwrite_id = some agents)
    (active : agentActive db image.id = true) : Keeps db { db with agents } := by
  have found := Table.get?_update updated
  refine fun consistent => ⟨?_, ?_⟩
  · intro id row stored retired
    rw [found]
    split
    next same =>
      subst same
      exact absurd (agentActive_iff.mp active row stored) retired
    next => exact stored
  · refine consistent.of_agents rfl fun id a stored => ?_
    rw [found]
    split
    next same =>
      subst same
      rw [stored]
      exact ⟨_, rfl, rfl, rfl⟩
    next => exact ⟨a, stored, rfl, rfl⟩

theorem keeps_updateHeartbeat (id : String) (metadata : Option AgentMetadata) :
    Keeps db { db with
      agents := db.agents.updateWhere (DB.isActiveAgent id) (Agent.beat now metadata)
        (Agent.beat_id now metadata) } := by
  refine fun consistent => ⟨?_, ?_⟩
  · intro key row stored retired
    rw [get?_activeWhere (Agent.beat_id now metadata) stored, if_neg (fun both => retired both.2)]
  · refine consistent.of_agents rfl fun key a stored => ?_
    refine ⟨_, get?_activeWhere (Agent.beat_id now metadata) stored, ?_⟩
    split
    · cases metadata <;> exact ⟨rfl, rfl⟩
    · exact ⟨rfl, rfl⟩

theorem frozen_retireAgent (id : String) (retiredAt : Time) (reason : String) :
    Frozen db (db.retireAgent id retiredAt reason) := by
  intro key row stored retired
  rw [DB.retireAgent, get?_activeWhere (Agent.retire_id retiredAt reason) stored,
    if_neg (fun both => retired both.2)]

section

variable (consistent : Consistent db)

include consistent

/-- A plain retirement that meets no active target of the agent. -/
theorem consistent_softRetire (noTargets : db.targets.rows.any (DB.isActiveTarget id) = false) :
    Consistent (db.retireAgent id retiredAt reason) := by
  intro key target found
  obtain ⟨a, named, sameAt, sameReason⟩ := consistent key target found
  refine ⟨_, get?_activeWhere (Agent.retire_id retiredAt reason) named, ?_⟩
  rw [if_neg]
  · exact ⟨sameAt, sameReason⟩
  · rintro ⟨own, active⟩
    have isActive : DB.isActiveTarget id target = true := by
      simp [DB.isActiveTarget, own, sameAt, active]
    have some : db.targets.rows.any (DB.isActiveTarget id) = true :=
      List.any_eq_true.mpr ⟨target, Table.get?_mem found, isActive⟩
    rw [some] at noTargets
    cases noTargets

/-- A cascade that retires its agent gives the agent's columns to the targets. -/
theorem consistent_cascade (active : agentActive db id = true) :
    Consistent ((db.retireAgent id retiredAt reason).retireTargets id retiredAt reason) := by
  intro key target found
  rw [DB.retireTargets, Table.get?_updateWhere] at found
  obtain ⟨before, stored, changed⟩ := Option.map_eq_some_iff.mp found
  obtain ⟨a, named, sameAt, sameReason⟩ := consistent key before stored
  by_cases own : before.agentID = id
  · -- The agent is active, so its targets are, and both get the stamp.
    have activeAgent : a.retiredAt = none :=
      agentActive_iff.mp active a (own ▸ named)
    have isActive : DB.isActiveTarget id before = true := by
      simp [DB.isActiveTarget, own, sameAt, activeAgent]
    rw [if_pos isActive] at changed
    subst changed
    refine ⟨_, get?_activeWhere (Agent.retire_id retiredAt reason) named, ?_⟩
    rw [if_pos ⟨own, activeAgent⟩]
    exact ⟨rfl, fun _ => rfl⟩
  · have notOwn : ¬ DB.isActiveTarget id before = true := by
      simp [DB.isActiveTarget, own]
    rw [if_neg notOwn] at changed
    subst changed
    refine ⟨_, get?_activeWhere (Agent.retire_id retiredAt reason) named, ?_⟩
    rw [if_neg (fun both => own both.1)]
    exact ⟨sameAt, sameReason⟩

theorem consistent_createTarget {target : DeploymentTarget}
    (exists' : (db.agents.get? target.agentID).isSome = true)
    (inserted : db.targets.insert { target with retiredAt := none, retiredReason := none } =
      some targets) (active : agentActive db target.agentID = true) :
    Consistent { db with targets } := by
  intro key stored found
  rw [Table.get?_insert inserted] at found
  split at found
  next =>
    cases found
    obtain ⟨a, named⟩ := Option.isSome_iff_exists.mp exists'
    exact ⟨a, named, (agentActive_iff.mp active a named).symm, fun retired => absurd rfl retired⟩
  next => exact consistent key stored found

theorem consistent_updateTarget {image : DeploymentTarget}
    (exists' : (db.agents.get? image.agentID).isSome = true)
    (updated : db.targets.update image.id image.overwrite image.overwrite_id = some targets)
    (bound : (db.targets.get? image.id).all (fun row => decide (row.agentID = image.agentID) ||
      (decide (row.retiredAt = none) && agentActive db image.agentID)) = true) :
    Consistent { db with targets } := by
  intro key stored found
  rw [Table.get?_update updated] at found
  split at found
  next =>
    obtain ⟨row, was, rfl⟩ := Option.map_eq_some_iff.mp found
    rw [was, Option.all_some, Bool.or_eq_true, Bool.and_eq_true, decide_eq_true_eq,
      decide_eq_true_eq] at bound
    rcases bound with same | ⟨activeTarget, activeAgent⟩
    · obtain ⟨a, named, columns⟩ := consistent image.id row was
      exact ⟨a, same ▸ named, columns⟩
    · obtain ⟨a, named⟩ := Option.isSome_iff_exists.mp exists'
      refine ⟨a, named, ?_, fun retired => absurd activeTarget retired⟩
      exact activeTarget.trans (agentActive_iff.mp activeAgent a named).symm
  next => exact consistent key stored found

end

theorem perform_keeps {q : Query} {value : q.Value}
    (performed : perform db now q = .ok (db', value)) (allowed : steadyOp db (.query q) = true) :
    Keeps db db' := by
  cases q with
  | getAgent id | getTarget id =>
    simp only [perform] at performed
    split at performed <;> cases performed
    exact keeps_refl db
  | listAgents | countActiveTargets | countActiveCertificates | countPendingJobs =>
    cases performed
    exact keeps_refl db
  | updateAgent image =>
    simp only [perform] at performed
    split at performed
    next agents updated =>
      cases performed
      exact keeps_updateAgent updated allowed
    · cases performed
  | updateHeartbeat id metadata =>
    obtain ⟨-, ⟨⟩⟩ := of_then performed (by simp)
    exact keeps_updateHeartbeat id metadata
  | softRetire id retiredAt reason =>
    cases performed
    exact fun consistent => ⟨frozen_retireAgent id retiredAt reason,
      consistent_softRetire consistent (by simpa [steadyOp] using allowed)⟩
  | retireAgentWithCascade id retiredAt reason =>
    cases performed
    exact fun consistent =>
      ⟨frozen_retireAgent id retiredAt reason, consistent_cascade consistent allowed⟩
  | createTarget target =>
    obtain ⟨exists', performed⟩ := of_then performed (by simp)
    split at performed
    next targets inserted =>
      cases performed
      exact fun consistent =>
        ⟨frozen_refl db, consistent_createTarget consistent exists' inserted allowed⟩
    · cases performed
  | updateTarget image =>
    simp only [perform] at performed
    split at performed
    · cases performed
    next targets updated =>
      obtain ⟨exists', ⟨⟩⟩ := of_then performed (by simp)
      exact fun consistent =>
        ⟨frozen_refl db, consistent_updateTarget consistent exists' updated allowed⟩

theorem exec_keeps {o : Op} {choice : Choice} (allowed : steadyOp db o = true) :
    Keeps db (exec db o choice).1 := by
  cases o with
  | now | newID => exact keeps_refl db
  | query q =>
    rcases execQuery_store db q choice with same | ⟨value, performed⟩
    · rw [exec, same]
      exact keeps_refl db
    · exact perform_keeps performed allowed

end Steps

section Runs

variable {env : Env} {s s' : Sys}

theorem step_keeps {m : Move Call Choice} (taken : step env s m = some s')
    (allowed : steady s m = true) : Keeps s.store s'.store := by
  cases poolStep_effect taken with
  | start | fork => exact keeps_refl _
  | op _ current => exact exec_keeps (may_of_disciplined allowed current)

theorem consistent_of_reachable
    (reached : ReachableUnder (step env) Idle (fun s m => steady s m = true) s) :
    Consistent s.store := by
  refine reached.invariant (I := fun s => Consistent s.store) ?_ ?_
  · exact fun _ idle => idle.2
  · intro s m s' consistent allowed taken
    exact (step_keeps taken allowed consistent).2

theorem keeps_later (run : Later (step env) (fun s m => steady s m = true) s s') :
    Keeps s.store s'.store := by
  induction run with
  | refl => exact keeps_refl _
  | next _ allowed taken ih =>
    intro consistent
    obtain ⟨frozen, consistent'⟩ := ih consistent
    obtain ⟨frozen', consistent''⟩ := step_keeps taken allowed consistent'
    exact ⟨frozen.trans frozen', consistent''⟩

/-- In every run of steady steps a retired agent's row stays as it is, a retired target
carries the time and the reason of its agent, and no active target belongs to a retired
agent. -/
theorem retirement_final
    (reached : ReachableUnder (step env) Idle (fun s m => steady s m = true) s)
    (run : Later (step env) (fun s m => steady s m = true) s s') :
    (∀ id row, s.store.agents.get? id = some row → row.retiredAt ≠ none →
      s'.store.agents.get? id = some row) ∧
    (∀ target ∈ s'.store.targets.rows, target.retiredAt ≠ none →
      ∃ agent, s'.store.agents.get? target.agentID = some agent ∧
        target.retiredAt = agent.retiredAt ∧ target.retiredReason = agent.retiredReason) ∧
    ∀ target ∈ s'.store.targets.rows, ∀ agent,
      s'.store.agents.get? target.agentID = some agent → agent.retiredAt ≠ none →
      target.retiredAt ≠ none := by
  obtain ⟨frozen, consistent⟩ := keeps_later run (consistent_of_reachable reached)
  refine ⟨frozen, ?_, ?_⟩
  · intro target member retired
    obtain ⟨agent, named, sameAt, reason⟩ := consistent _ target (Table.get?_of_mem member)
    exact ⟨agent, named, sameAt, reason retired⟩
  · intro target member agent named retired
    obtain ⟨agent', named', sameAt, -⟩ := consistent _ target (Table.get?_of_mem member)
    rw [named] at named'
    cases named'
    rw [sameAt]
    exact retired

end Runs

section Exhibits

def plainEnv : Env where
  validType _ := true
  validateConfig _ _ := .ok ()
  encrypt config := .ok config
  redact config := config
  hasRedacted _ := false
  merge incoming _ := .ok incoming

def plainAgent (id : String) (status : AgentStatus) (lastHeartbeatAt : Option Time) : Agent where
  id := id
  name := id
  hostname := "host"
  status := status
  lastHeartbeatAt := lastHeartbeatAt
  registeredAt := 0
  apiKeyHash := ""
  os := ""
  architecture := ""
  ipAddress := ""
  version := ""
  retiredAt := none
  retiredReason := none

def plainTarget (id agentID : String) : DeploymentTarget where
  id := id
  name := id
  type := "nginx"
  agentID := agentID
  config := ""
  encryptedConfig := ""
  enabled := true
  lastTestedAt := none
  testStatus := "untested"
  source := "database"
  createdAt := 0
  updatedAt := 0
  retiredAt := none
  retiredReason := none

/-- An agent with a target, and a retired agent without one. -/
def twoAgents : DB where
  agents := ⟨[plainAgent "agent-1" .offline none,
    (plainAgent "agent-2" .offline none).retire 1 "old"], by decide⟩
  targets := ⟨[plainTarget "t-1" "agent-1"], by decide⟩
  mappings := []
  jobs := .empty _

def start : Sys := ⟨twoAgents, []⟩

theorem idle_start : Idle start := by
  refine ⟨rfl, fun id target found => ?_⟩
  have member : target ∈ [plainTarget "t-1" "agent-1"] := Table.get?_mem found
  rw [List.mem_singleton] at member
  subst member
  exact ⟨plainAgent "agent-1" .offline none, rfl, rfl, fun _ => rfl⟩

/-- One step of a call, at a time and without a fault. -/
def stepAt (call : Nat) (now : Time) : Move Call Choice := .step call ⟨none, now, "t-2"⟩

/-- A forced retirement up to its cascade: the agent, three counts and the clock. -/
def upToCascade (call : Nat) (now : Time) : List (Move Call Choice) :=
  List.replicate 5 (stepAt call now)

/-- A forced retirement alone is steady, and the agent and its target are retired for good. -/
theorem cascade_is_final :
    ∃ s s' : Sys, ReachableUnder (step plainEnv) Idle (fun s m => steady s m = true) s ∧
      Later (step plainEnv) (fun s m => steady s m = true) s s' ∧
      (∃ row, s.store.agents.get? "agent-1" = some row ∧ row.retiredAt = some 7 ∧
        s'.store.agents.get? "agent-1" = some row) ∧
      ∃ target agent, s'.store.targets.get? "t-1" = some target ∧ target.retiredAt ≠ none ∧
        s'.store.agents.get? target.agentID = some agent ∧
        target.retiredAt = agent.retiredAt ∧ target.retiredReason = agent.retiredReason := by
  obtain ⟨s, s', reached, run, ⟨row, stored, retiredAt⟩, target, found, retired⟩ :=
    exists_later_of_replay (step plainEnv) steady idle_start
      ([.start (.retireAgent "agent-1" true "decommissioned")] ++ upToCascade 0 7 ++ [stepAt 0 7])
      [.start (.heartbeat "agent-1" none), stepAt 1 8]
      (fun s s' => (∃ row, s.store.agents.get? "agent-1" = some row ∧ row.retiredAt = some 7) ∧
        ∃ target, s'.store.targets.get? "t-1" = some target ∧ target.retiredAt ≠ none)
      (by decide +kernel)
  obtain ⟨frozen, stamped, -⟩ := retirement_final reached run
  obtain ⟨agent, named, columns⟩ := stamped target (Table.get?_mem found) retired
  refine ⟨s, s', reached, run, ⟨row, stored, retiredAt, ?_⟩, target, agent, found, retired, named,
    columns⟩
  exact frozen "agent-1" row stored (by rw [retiredAt]; exact Option.some_ne_none _)

/-- The retired row is not what it was. -/
def rewritten (s s' : Sys) : Bool :=
  (s.store.agents.get? "agent-1").any (fun (row : Agent) =>
    decide (row.retiredAt ≠ none ∧ s'.store.agents.get? "agent-1" ≠ some row))

/-- The second target is retired with another stamp than its agent. -/
def misstamped (s : Sys) : Bool :=
  (s.store.targets.get? "t-2").any (fun (target : DeploymentTarget) =>
    decide (target.retiredAt ≠ none) &&
      (s.store.agents.get? target.agentID).any (fun (agent : Agent) => decide
        (target.retiredAt ≠ agent.retiredAt ∧ target.retiredReason ≠ agent.retiredReason)))

/-- The first target is active and its agent retired. -/
def misbound (s : Sys) : Bool :=
  (s.store.targets.get? "t-1").any (fun (target : DeploymentTarget) =>
    decide (target.retiredAt = none) &&
      (s.store.agents.get? target.agentID).any (fun (agent : Agent) =>
        decide (agent.retiredAt ≠ none)))

/-- Without the condition each of the three parts fails. A heartbeat that began before the
retirement rewrites the retired row; a second cascade stamps a target that was created
meanwhile with a time that is not the agent's; and an update binds an active target to a
retired agent. -/
theorem retirement_undone :
    (∃ s s' : Sys, Reachable (step plainEnv) Idle s ∧
      Later (step plainEnv) (fun _ _ => True) s s' ∧
      ∃ row, s.store.agents.get? "agent-1" = some row ∧ row.retiredAt ≠ none ∧
        s'.store.agents.get? "agent-1" ≠ some row) ∧
    (∃ s : Sys, Reachable (step plainEnv) Idle s ∧
      ∃ target agent, s.store.targets.get? "t-2" = some target ∧ target.retiredAt ≠ none ∧
        s.store.agents.get? target.agentID = some agent ∧
        target.retiredAt ≠ agent.retiredAt ∧ target.retiredReason ≠ agent.retiredReason) ∧
    ∃ s : Sys, Reachable (step plainEnv) Idle s ∧
      (∀ task ∈ s.tasks, ∃ reply, task.rest = .done reply) ∧
      ∃ target agent, s.store.targets.get? "t-1" = some target ∧ target.retiredAt = none ∧
        s.store.agents.get? target.agentID = some agent ∧ agent.retiredAt ≠ none := by
  refine ⟨?_, ?_, ?_⟩
  · obtain ⟨s, s', reached, run, facts⟩ := exists_reached_later_of_replay (step plainEnv) idle_start
      ([.start (.heartbeat "agent-1" none), .start (.retireAgent "agent-1" true "decommissioned"),
        stepAt 0 6, stepAt 0 6] ++ upToCascade 1 7 ++ [stepAt 1 7])
      [stepAt 0 8]
      (fun s s' => rewritten s s')
      (by decide +kernel)
    obtain ⟨row, stored, changed⟩ := (Option.any_eq_true _ _).mp facts
    obtain ⟨retired, changed⟩ := of_decide_eq_true changed
    exact ⟨s, s', reached, run, row, stored, retired, changed⟩
  · obtain ⟨s, reached, facts⟩ := exists_reached_of_replay (step plainEnv) idle_start
      ([.start (.retireAgent "agent-1" true "decommissioned"),
        .start (.retireAgent "agent-1" true "duplicate"),
        .start (.createTarget (plainTarget "t-2" "agent-1"))] ++ upToCascade 0 7 ++
        upToCascade 1 8 ++ [stepAt 2 8, stepAt 2 8, stepAt 2 8, stepAt 0 9, stepAt 2 9, stepAt 1 9])
      (fun s => misstamped s)
      (by decide +kernel)
    obtain ⟨target, found, facts⟩ := (Option.any_eq_true _ _).mp facts
    obtain ⟨retired, facts⟩ := Bool.and_eq_true_iff.mp facts
    obtain ⟨agent, named, differs⟩ := (Option.any_eq_true _ _).mp facts
    obtain ⟨times, reasons⟩ := of_decide_eq_true differs
    exact ⟨s, reached, target, agent, found, of_decide_eq_true retired, named, times, reasons⟩
  · obtain ⟨s, reached, done, facts⟩ := exists_reached_of_replay (step plainEnv) idle_start
      [.start (.updateTarget "t-1" (plainTarget "t-1" "agent-2")), stepAt 0 7, stepAt 0 7]
      (fun s => (∀ task ∈ s.tasks, task.rest.isDone = true) ∧ misbound s)
      (by decide +kernel)
    obtain ⟨target, found, facts⟩ := (Option.any_eq_true _ _).mp facts
    obtain ⟨active, facts⟩ := Bool.and_eq_true_iff.mp facts
    obtain ⟨agent, named, retired⟩ := (Option.any_eq_true _ _).mp facts
    exact ⟨s, reached, fun task member => Program.isDone_iff.mp (done task member), target, agent,
      found, of_decide_eq_true active, named, of_decide_eq_true retired⟩

end Exhibits

end Certctl.Guarantees.RetirementFinal

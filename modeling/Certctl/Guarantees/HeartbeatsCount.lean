import Certctl.Guarantees.JobSamples
import Certctl.Guarantees.RetirementFinal

/-!
What a heartbeat leaves behind, and what the stale sweep and the reaper make of it. A
heartbeat of an agent that is not Online ends with a full-row write of the copy read before,
so its time and its metadata count exactly when the agent was Online or they were stored
already. While every heartbeat of an agent counts and none is more than the threshold behind
a sweep or a reaper, the agent is never Offline after a sweep, and a reaper with a longer
time to live leaves the agent's running jobs alone.
-/
namespace Certctl.Guarantees.HeartbeatsCount

open Lib Source Source.Fleet
open RetirementFinal (plainAgent)

/-- Nothing fails, at one time. -/
def calm (t : Time) : Nat → Choice := fun _ => ⟨none, t, ""⟩

/-- `Heartbeat` alone, at time `t`. -/
def heartbeatAt (db : DB) (t : Time) (agentID : String) (metadata : Option AgentMetadata) :
    DB × Reply :=
  (heartbeat agentID metadata).run exec (calm t) 0 db

/-- `MarkStaleAgentsOffline` alone, at time `t`. -/
def sweepAt (db : DB) (t threshold : Time) : DB :=
  ((markStaleAgentsOffline threshold).run exec (calm t) 0 db).1

/-- `ReapJobsWithOfflineAgents` alone, at time `t`, on the same agents and jobs. -/
def reapAt (env : Jobs.Env) (db : DB) (t agentTTL : Time) : DB :=
  { db with
    jobs := ((Jobs.reapJobsWithOfflineAgents agentTTL).run (Jobs.exec env)
      (fun _ => { Jobs.Choice.plain with now := t }) 0 db.toJobs).1.jobs }

/-- The row has every non-empty field that was reported. -/
def Reported (metadata : Option AgentMetadata) (row : Agent) : Prop :=
  ∀ m, metadata = some m → (m.hostname ≠ "" → row.hostname = m.hostname) ∧
    (m.os ≠ "" → row.os = m.os) ∧ (m.architecture ≠ "" → row.architecture = m.architecture) ∧
    (m.ipAddress ≠ "" → row.ipAddress = m.ipAddress) ∧ (m.version ≠ "" → row.version = m.version)

/-- The heartbeat is in the row. -/
def Counted (t : Time) (metadata : Option AgentMetadata) (row : Agent) : Prop :=
  row.lastHeartbeatAt = some t ∧ row.status = .online ∧ Reported metadata row

/-- The row would lose nothing to a copy of itself: the agent is Online, or the time and the
metadata of the heartbeat are stored already. -/
def Receptive (t : Time) (metadata : Option AgentMetadata) (row : Agent) : Prop :=
  row.status = .online ∨ row.lastHeartbeatAt = some t ∧ Reported metadata row

section OneCall

variable {db : DB} {t : Time} {agentID : String} {metadata : Option AgentMetadata} {row : Agent}

/-- The row a heartbeat leaves. -/
def afterHeartbeat (t : Time) (metadata : Option AgentMetadata) (row : Agent) : Agent :=
  if row.status = .online then row.beat t metadata else { row with status := .online }

theorem reported_beat (t : Time) (metadata : Option AgentMetadata) (row : Agent) :
    Reported metadata (row.beat t metadata) := by
  rintro m rfl
  refine ⟨?_, ?_, ?_, ?_, ?_⟩ <;> exact fun filled => if_neg filled

theorem beat_columns (t : Time) (metadata : Option AgentMetadata) (row : Agent) :
    (row.beat t metadata).lastHeartbeatAt = some t ∧ (row.beat t metadata).status = row.status := by
  cases metadata <;> exact ⟨rfl, rfl⟩

theorem run_query_ok {q : Query} {next : Except Jobs.RepoError q.Value → Service} {n : Nat}
    {db' : DB} {value : q.Value} (performed : perform db t q = .ok (db', value)) :
    (query q next).run exec (calm t) n db = (next (.ok value)).run exec (calm t) (n + 1) db' := by
  simp only [query, Program.run, exec, execQuery, calm, performed]

theorem perform_getAgent (found : db.agents.get? agentID = some row) :
    perform db t (.getAgent agentID) = .ok (db, row) := by
  simp only [perform, found]

theorem heartbeatAt_retired (found : db.agents.get? agentID = some row)
    (retired : row.retiredAt ≠ none) :
    heartbeatAt db t agentID metadata = (db, .error errAgentRetired) := by
  have isRetired : row.isRetired = true := Option.isSome_iff_ne_none.mpr retired
  rw [heartbeatAt, heartbeat, run_query_ok (perform_getAgent found)]
  simp only [isRetired, if_true, Program.run]

theorem heartbeatAt_missing (t : Time) (metadata : Option AgentMetadata)
    (missing : db.agents.get? agentID = none) :
    (heartbeatAt db t agentID metadata).1 = db ∧
      (heartbeatAt db t agentID metadata).2 ≠ .ok := by
  have performed : perform db t (.getAgent agentID) = .error errNoAgent := by
    simp only [perform, missing]
  simp only [heartbeatAt, heartbeat, query, Program.run, exec, execQuery, calm, performed]
  exact ⟨trivial, Reply.noConfusion⟩

/-- The agents behind the first write of a heartbeat. -/
def beatTable (db : DB) (t : Time) (agentID : String) (metadata : Option AgentMetadata) :
    Table Agent.id :=
  db.agents.updateWhere (DB.isActiveAgent agentID) (Agent.beat t metadata)
    (Agent.beat_id t metadata)

section Active

variable (t metadata) (found : db.agents.get? agentID = some row) (active : row.retiredAt = none)

include found active

theorem get?_beatTable (id : String) :
    (beatTable db t agentID metadata).get? id =
      if id = agentID then some (row.beat t metadata) else db.agents.get? id := by
  rw [beatTable, Table.get?_updateWhere]
  split
  next own => simp [own, found, DB.isActiveAgent, Table.get?_key found, active]
  next other =>
    cases stored : db.agents.get? id with
    | none => rfl
    | some a => simp [DB.isActiveAgent, Table.get?_key stored, other]

theorem perform_updateHeartbeat : perform db t (.updateHeartbeat agentID metadata) =
      .ok ({ db with agents := beatTable db t agentID metadata }, ()) := by
  have present : db.agents.rows.any (DB.isActiveAgent agentID) = true := by
    refine List.any_eq_true.mpr ⟨row, Table.get?_mem found, ?_⟩
    simp [DB.isActiveAgent, Table.get?_key found, active]
  simp only [perform, present, if_true]
  rfl

/-- A heartbeat of an agent that is not retired: the first write, and for an agent that is not
Online the write of the copy. -/
theorem heartbeatAt_active :
    (heartbeatAt db t agentID metadata).2 = .ok ∧
      (heartbeatAt db t agentID metadata).1.jobs = db.jobs ∧
      ∀ id, (heartbeatAt db t agentID metadata).1.agents.get? id =
        if id = agentID then some (afterHeartbeat t metadata row) else db.agents.get? id := by
  have notRetired : row.isRetired = false := by simp [Agent.isRetired, active]
  have keyed : row.id = agentID := Table.get?_key found
  subst keyed
  have beaten := get?_beatTable t metadata found active
  rw [heartbeatAt, heartbeat, run_query_ok (perform_getAgent found)]
  simp only [notRetired, Bool.false_eq_true, if_false]
  rw [run_query_ok (perform_updateHeartbeat t metadata found active)]
  by_cases online : row.status = .online
  · simp only [online, ne_eq, not_true, if_false, Program.run]
    refine ⟨trivial, trivial, fun id => ?_⟩
    rw [beaten, afterHeartbeat, if_pos online]
  · have beatenRow : (beatTable db t row.id metadata).get? row.id = some (row.beat t metadata) := by
      rw [beaten, if_pos rfl]
    obtain ⟨agents, updated⟩ : ∃ agents, (beatTable db t row.id metadata).update row.id
        ({ row with status := .online } : Agent).overwrite
        ({ row with status := .online } : Agent).overwrite_id = some agents := by
      rw [Table.update, beatenRow]
      exact ⟨_, rfl⟩
    have performed : perform { db with agents := beatTable db t row.id metadata } t
        (.updateAgent { row with status := .online }) = .ok ({ db with agents := agents }, ()) := by
      simp only [perform, updated]
    simp only [online, ne_eq, not_false_eq_true, if_true]
    rw [run_query_ok performed]
    simp only [Program.run]
    refine ⟨trivial, trivial, fun id => ?_⟩
    rw [Table.get?_update updated]
    split
    next own =>
      rw [beatenRow, Option.map_some, afterHeartbeat, if_neg online]
      -- the copy puts back every column of the row but the status
      cases metadata <;> rfl
    next other => rw [beaten, if_neg other]

end Active

/-- After a heartbeat that returns nil the row has its time, is Online and has the reported
metadata exactly when the agent was Online before, or the time and the metadata were stored
already. -/
theorem counted_iff (t : Time) (metadata : Option AgentMetadata)
    (found : db.agents.get? agentID = some row) :
    ((heartbeatAt db t agentID metadata).2 = .ok →
      ∃ row', (heartbeatAt db t agentID metadata).1.agents.get? agentID = some row' ∧
        Counted t metadata row') ↔
      (row.retiredAt ≠ none ∨ Receptive t metadata row) := by
  by_cases active : row.retiredAt = none
  · obtain ⟨reply, -, rows⟩ := heartbeatAt_active t metadata found active
    have after := rows agentID
    rw [if_pos rfl] at after
    have counted : Counted t metadata (afterHeartbeat t metadata row) ↔
        Receptive t metadata row := by
      unfold afterHeartbeat Receptive
      by_cases online : row.status = .online
      · rw [if_pos online]
        obtain ⟨time, status⟩ := beat_columns t metadata row
        exact ⟨fun _ => .inl online,
          fun _ => ⟨time, status.trans online, reported_beat t metadata row⟩⟩
      · rw [if_neg online]
        exact ⟨fun ⟨time, _, reported⟩ => .inr ⟨time, reported⟩,
          fun receptive =>
            (receptive.resolve_left online).imp_right fun reported => ⟨rfl, reported⟩⟩
    rw [after, reply]
    simp only [active, ne_eq, not_true, false_or, forall_const, Option.some.injEq]
    constructor
    · rintro ⟨row', rfl, isCounted⟩
      exact counted.mp isCounted
    · exact fun receptive => ⟨_, rfl, counted.mpr receptive⟩
  · rw [heartbeatAt_retired found active]
    exact ⟨fun _ => .inl active, fun _ ok => (by cases ok)⟩

end OneCall

section Sweeps

variable {db : DB} {t cutoff threshold b : Time} {agent : String} {row : Agent}

theorem get?_updateAgent_other {image : Agent} {c : Choice} (other : image.id ≠ agent) :
    (execQuery db (.updateAgent image) c).1.agents.get? agent = db.agents.get? agent := by
  rcases execQuery_store db (.updateAgent image) c with same | ⟨value, performed⟩
  · rw [same]
  · simp only [perform] at performed
    split at performed
    next agents updated =>
      simp only [Except.ok.injEq, Prod.mk.injEq] at performed
      rw [← performed.1]
      exact (Table.get?_update updated agent).trans (if_neg other.symm)
    · cases performed

/-- The loop of a sweep leaves an agent alone that none of its images is about. -/
theorem get?_markLoop (agents : List Agent) (n : Nat) (db : DB)
    (spared : ∀ a ∈ agents, a.id = agent → a.isStale cutoff = false) :
    ((markLoop cutoff agents).run exec (calm t) n db).1.agents.get? agent =
      db.agents.get? agent := by
  induction agents generalizing n db with
  | nil => rfl
  | cons a rest ih =>
    obtain ⟨here, later⟩ := List.forall_mem_cons.mp spared
    rw [markLoop]
    split
    next stale =>
      have other : a.id ≠ agent := by
        intro own
        rw [here own] at stale
        cases stale
      rw [query, Program.run, ih _ _ later]
      exact get?_updateAgent_other other
    next => exact ih n db later

/-- A sweep leaves an agent alone whose last heartbeat is within the threshold. -/
theorem get?_sweepAt (found : db.agents.get? agent = some row)
    (beat : row.lastHeartbeatAt = some b) (recent : t ≤ b + threshold) :
    (sweepAt db t threshold).agents.get? agent = some row := by
  have listed : perform db t .listAgents = .ok (db, Jobs.orderByDesc Agent.registeredAt
      (db.agents.rows.filter (fun a => decide (a.retiredAt = none)))) := rfl
  rw [sweepAt, markStaleAgentsOffline, run_query_ok listed]
  refine (get?_markLoop _ _ _ ?_).trans found
  intro a member own
  rw [Jobs.orderByDesc, List.mem_insertionSort, List.mem_filter] at member
  have stored := Table.get?_of_mem member.1
  rw [own, found] at stored
  cases stored
  have fresh : ¬ b < t - threshold := Int.not_lt.mpr (Int.sub_right_le_of_le_add recent)
  simp only [Agent.isStale, beat, Option.any_some, Bool.and_eq_false_iff]
  exact .inr (decide_eq_false fresh)

end Sweeps

section Reaping

variable {env : Jobs.Env} {db : DB} {t b agentTTL : Time} {agent id : String} {row : Agent}
  {c : Jobs.Choice} {job : Jobs.Job}

theorem get?_updateJob_other {jobs : Jobs.DB} {image : Jobs.Job} (other : image.id ≠ id) :
    (Jobs.execQuery env jobs (.updateJob image) c).1.jobs.get? id = jobs.jobs.get? id := by
  obtain ⟨same, -⟩ | ⟨db', value, performed, same, -⟩ :=
    Jobs.execQuery_cases env jobs (.updateJob image) c
  · rw [same]
  · rw [same]
    simp only [Jobs.perform] at performed
    split at performed
    next table updated =>
      cases performed
      exact (Table.get?_update updated id).trans (if_neg other.symm)
    · cases performed

theorem get?_reapLoop {errMsg : Jobs.Job → Option String} {choices : Nat → Jobs.Choice}
    (jobs : List Jobs.Job) (n : Nat) (store : Jobs.DB) (spared : ∀ job ∈ jobs, job.id ≠ id) :
    ((Jobs.reapLoop errMsg jobs).run (Jobs.exec env) choices n store).1.jobs.get? id =
      store.jobs.get? id := by
  induction jobs generalizing n store with
  | nil => rfl
  | cons job rest ih =>
    obtain ⟨here, later⟩ := List.forall_mem_cons.mp spared
    rw [Jobs.reapLoop]
    split
    next => exact ih n store later
    next =>
      rw [Jobs.query, Program.run, ih _ _ later]
      exact get?_updateJob_other here

/-- The reaper lists no job of an agent that has been heard from since the cutoff. -/
theorem not_listed {cutoff : Time} {jobs : List Jobs.Job}
    (found : db.agents.get? agent = some row) (beat : row.lastHeartbeatAt = some b)
    (recent : ¬ b < cutoff) (stored : db.jobs.get? job.id = some job)
    (own : job.agentID = some agent)
    (returned : (Jobs.execQuery env db.toJobs (.listJobsWithOfflineAgents cutoff) c).2 =
      .ok jobs) : ∀ other ∈ jobs, other.id ≠ job.id := by
  intro other listed same
  obtain ⟨_, ⟨⟩, -⟩ := Jobs.execQuery_ok returned
  rw [List.mem_insertionSort, List.mem_filter] at listed
  have stored' : db.jobs.get? other.id = some other := Table.get?_of_mem listed.1
  rw [same, stored] at stored'
  cases stored'
  have offline := (Bool.and_eq_true_iff.mp listed.2).2
  rw [own, Option.bind_some, DB.toJobs_agent, found, Option.map_some, Option.bind_some] at offline
  rw [show row.toJobs.lastHeartbeatAt = some b from beat, Option.any_some,
    decide_eq_true_eq] at offline
  exact recent offline

/-- A reaper leaves the jobs of an agent alone whose last heartbeat is within its time to
live. -/
theorem get?_reapAt (found : db.agents.get? agent = some row)
    (beat : row.lastHeartbeatAt = some b) (recent : t ≤ b + agentTTL)
    (stored : db.jobs.get? job.id = some job) (own : job.agentID = some agent) :
    (reapAt env db t agentTTL).jobs.get? job.id = some job := by
  have fresh : ¬ b < t - agentTTL := Int.not_lt.mpr (Int.sub_right_le_of_le_add recent)
  simp only [reapAt, Jobs.reapJobsWithOfflineAgents]
  split
  · exact stored
  · -- Nothing fails, so the loop runs over what the query lists.
    have returned : (Jobs.execQuery env db.toJobs (.listJobsWithOfflineAgents (t - agentTTL))
        { Jobs.Choice.plain with now := t }).2 = .ok _ := rfl
    exact (get?_reapLoop _ _ db.toJobs
      (not_listed found beat fresh stored own returned)).trans stored

end Reaping

/-! ### Sequential runs -/

/-- The tables, and the time of the watched agent's last heartbeat that returned nil. -/
structure Watch where
  db : DB
  lastBeat : Option Time

inductive Event where
  | heartbeat (agentID : String) (metadata : Option AgentMetadata)
  | sweep
  | reap (agentTTL : Time)

/-- One call after another, each at its time; sweeps have the threshold. -/
def watchStep (env : Jobs.Env) (threshold : Time) (agent : String) (s : Watch) :
    Time × Event → Option Watch
  | (t, .heartbeat agentID metadata) =>
    let result := heartbeatAt s.db t agentID metadata
    some ⟨result.1, if agentID = agent ∧ result.2 = .ok then some t else s.lastBeat⟩
  | (t, .sweep) => some { s with db := sweepAt s.db t threshold }
  | (t, .reap agentTTL) => some { s with db := reapAt env s.db t agentTTL }

/-- The agent heartbeats at least every `threshold`: a sweep or a reaper finds its last
heartbeat no older than that. -/
def InTime (threshold : Time) (s : Watch) : Time × Event → Prop
  | (_, .heartbeat ..) => True
  | (t, .sweep) | (t, .reap _) => ∃ b, s.lastBeat = some b ∧ t ≤ b + threshold

/-- The watched agent's heartbeats find a row that takes them. -/
def Heard (agent : String) (s : Watch) : Time × Event → Prop
  | (t, .heartbeat agentID metadata) => agentID = agent →
    ∀ row, s.db.agents.get? agent = some row → Receptive t metadata row
  | _ => True

def Unheard (s : Watch) : Prop := s.lastBeat = none

/-- The last heartbeat is in the agent's row. -/
def Current (agent : String) (s : Watch) : Prop :=
  ∀ b, s.lastBeat = some b → ∃ row, s.db.agents.get? agent = some row ∧
    row.status = .online ∧ row.lastHeartbeatAt = some b

section Watching

variable {env : Jobs.Env} {threshold : Time} {agent : String} {s s' : Watch}

theorem Current.heartbeat {t : Time} {agentID : String} {metadata : Option AgentMetadata}
    (current : Current agent s) (heard : Heard agent s (t, .heartbeat agentID metadata))
    (taken : watchStep env threshold agent s (t, .heartbeat agentID metadata) = some s') :
    Current agent s' := by
  simp only [watchStep, Option.some.injEq] at taken
  subst taken
  intro b last
  cases found : s.db.agents.get? agentID with
  | none =>
    obtain ⟨same, failed⟩ := heartbeatAt_missing t metadata found
    rw [if_neg (fun both => failed both.2)] at last
    rw [same]
    exact current b last
  | some row =>
    by_cases active : row.retiredAt = none
    · obtain ⟨reply, -, rows⟩ := heartbeatAt_active t metadata found active
      rw [rows agent]
      by_cases own : agentID = agent
      · subst own
        rw [if_pos ⟨rfl, reply⟩] at last
        cases last
        rw [if_pos rfl]
        obtain ⟨row', after, time, online, -⟩ :=
          (counted_iff t metadata found).mpr (.inr (heard rfl row found)) reply
        rw [rows agentID, if_pos rfl] at after
        exact ⟨row', after, online, time⟩
      · rw [if_neg (fun both => own both.1)] at last
        rw [if_neg (Ne.symm own)]
        exact current b last
    · rw [heartbeatAt_retired found active] at last ⊢
      rw [if_neg (fun both => (by cases both.2))] at last
      exact current b last

theorem Current.step {label : Time × Event} (current : Current agent s)
    (inTime : InTime threshold s label) (heard : Heard agent s label)
    (taken : watchStep env threshold agent s label = some s') : Current agent s' := by
  obtain ⟨t, event⟩ := label
  cases event with
  | heartbeat agentID metadata => exact current.heartbeat heard taken
  | sweep =>
    cases taken
    intro b last
    obtain ⟨b', last', recent⟩ := inTime
    have same : b' = b := Option.some.inj (last'.symm.trans last)
    obtain ⟨row, found, online, beat⟩ := current b last
    exact ⟨row, get?_sweepAt found beat (same ▸ recent), online, beat⟩
  | reap agentTTL =>
    cases taken
    exact current

theorem current_of_reachable (reached : ReachableUnder (watchStep env threshold agent) Unheard
    (fun s label => InTime threshold s label ∧ Heard agent s label) s) : Current agent s := by
  refine reached.invariant (I := Current agent) ?_ ?_
  · intro s unheard b last
    rw [unheard] at last
    cases last
  · intro s label s' current allowed taken
    exact current.step allowed.1 allowed.2 taken

end Watching

/-- A heartbeat counts exactly when it finds the agent Online or its content stored; and in
every sequential run in which each of the agent's heartbeats finds such a row and a sweep or
a reaper is never more than the threshold behind the last one, the agent is not Offline after
a sweep and no reaper with a longer time to live touches its jobs. -/
theorem heartbeats_count (env : Jobs.Env) (threshold : Time) (agent : String) :
    (∀ (db : DB) (t : Time) (metadata : Option AgentMetadata) (row : Agent),
      db.agents.get? agent = some row →
      (((heartbeatAt db t agent metadata).2 = .ok →
        ∃ row', (heartbeatAt db t agent metadata).1.agents.get? agent = some row' ∧
          Counted t metadata row') ↔
        (row.retiredAt ≠ none ∨ Receptive t metadata row))) ∧
    ∀ s : Watch, ReachableUnder (watchStep env threshold agent) Unheard
        (fun s label => InTime threshold s label ∧ Heard agent s label) s →
      (∀ t, InTime threshold s (t, .sweep) → ∀ row,
        (sweepAt s.db t threshold).agents.get? agent = some row → row.status ≠ .offline) ∧
      ∀ t agentTTL, threshold < agentTTL → InTime threshold s (t, .reap agentTTL) →
        ∀ job : Jobs.Job, s.db.jobs.get? job.id = some job → job.agentID = some agent →
          job.status = .running → (reapAt env s.db t agentTTL).jobs.get? job.id = some job := by
  refine ⟨fun db t metadata row found => counted_iff t metadata found, ?_⟩
  intro s reached
  have current := current_of_reachable reached
  constructor
  · rintro t ⟨b, last, recent⟩ row after
    obtain ⟨row', found, online, beat⟩ := current b last
    rw [get?_sweepAt found beat recent] at after
    cases after
    rw [online]
    exact AgentStatus.noConfusion
  · rintro t agentTTL longer ⟨b, last, recent⟩ job stored own -
    obtain ⟨row', found, -, beat⟩ := current b last
    have recent' : t ≤ b + agentTTL :=
      Int.le_trans recent (Int.add_le_add_left (Int.le_of_lt longer) b)
    exact get?_reapAt found beat recent' stored own

section Exhibits

def report : AgentMetadata := ⟨"linux", "amd64", "web-1", "192.0.2.7", "2.1.0"⟩

def runningJob : Jobs.Job :=
  { Jobs.newJob "job-1" "mc-1" .deployment .running 0 0 with agentID := some "agent-1" }

/-- One agent, last heard from at time 0, with a running job. -/
def oneAgent (status : AgentStatus) : DB where
  agents := ⟨[plainAgent "agent-1" status (some 0)], List.nodup_singleton _⟩
  targets := .empty _
  mappings := []
  jobs := ⟨[runningJob], List.nodup_singleton _⟩

/-- The state behind one heartbeat at time 100. -/
def heardOnce (status : AgentStatus) : Watch :=
  ⟨(heartbeatAt (oneAgent status) 100 "agent-1" (some report)).1, some 100⟩

/-- An Online agent's heartbeat counts, at the threshold and beyond it. -/
theorem online_heartbeat_counts :
    (∃ row, (heartbeatAt (oneAgent .online) 100 "agent-1" (some report)).1.agents.get? "agent-1" =
        some row ∧ Counted 100 (some report) row) ∧
      (∀ row, (sweepAt (heardOnce .online).db 110 10).agents.get? "agent-1" = some row →
        row.status ≠ .offline) ∧
      (reapAt Jobs.Env.plain (heardOnce .online).db 110 11).jobs.get? "job-1" =
        some runningJob := by
  have receptive : Receptive 100 (some report) (plainAgent "agent-1" .online (some 0)) := .inl rfl
  have reached : ReachableUnder (watchStep Jobs.Env.plain 10 "agent-1") Unheard
      (fun s label => InTime 10 s label ∧ Heard "agent-1" s label) (heardOnce .online) := by
    refine .next (.start (show Unheard ⟨oneAgent .online, none⟩ from rfl))
      (a := (100, .heartbeat "agent-1" (some report))) ⟨trivial, fun _ row found => ?_⟩ rfl
    cases found
    exact receptive
  have inTime : ∀ event, InTime 10 (heardOnce .online) (110, event) := by
    intro event
    cases event with
    | heartbeat => trivial
    | sweep | reap => exact ⟨100, rfl, by decide⟩
  obtain ⟨counts, runs⟩ := heartbeats_count Jobs.Env.plain 10 "agent-1"
  obtain ⟨swept, reaped⟩ := runs (heardOnce .online) reached
  refine ⟨?_, swept 110 (inTime .sweep), ?_⟩
  · exact (counts (oneAgent .online) 100 (some report) _ rfl).mpr (.inr receptive) rfl
  · exact reaped 110 11 (by decide) (inTime (.reap 11)) runningJob rfl rfl rfl

/-- An Offline agent's heartbeat returns nil, and neither its time nor its metadata are
stored. A sweep at the same time marks the agent Offline again, and a reaper with twice the
threshold fails its running job. -/
theorem offline_heartbeat_lost :
    (heartbeatAt (oneAgent .offline) 100 "agent-1" (some report)).2 = .ok ∧
      (heartbeatAt (oneAgent .offline) 100 "agent-1" (some report)).1.agents.get? "agent-1" =
        some (plainAgent "agent-1" .online (some 0)) ∧
      ReachableUnder (watchStep Jobs.Env.plain 10 "agent-1") Unheard
        (fun s label => InTime 10 s label) (heardOnce .offline) ∧
      InTime 10 (heardOnce .offline) (100, .sweep) ∧
      (sweepAt (heardOnce .offline).db 100 10).agents.get? "agent-1" =
        some (plainAgent "agent-1" .offline (some 0)) ∧
      ((reapAt Jobs.Env.plain (heardOnce .offline).db 100 20).jobs.get? "job-1").map
        Jobs.Job.status = some .failed := by
  refine ⟨by decide +kernel, by decide +kernel, ?_, ⟨100, rfl, by decide⟩, by decide +kernel,
    by decide +kernel⟩
  exact .next (.start (show Unheard ⟨oneAgent .offline, none⟩ from rfl))
    (a := (100, .heartbeat "agent-1" (some report))) trivial rfl

end Exhibits

end Certctl.Guarantees.HeartbeatsCount

import Certctl.Source.Jobs.ClaimTx

/-!
Every job that a claim takes from Pending to Running is returned to one caller, in every
interleaving of the claims of any number of schedulers and agents. A deployment that is bound
to an agent goes to no scheduler and to no other agent.
-/
namespace Certctl.Guarantees.ExclusiveClaim

open Lib Lib.RowClaim Source Source.Jobs

/-- What a step returns to callers. -/
def returned (s s' : ClaimSys) : List (Delivery Job Bindings ClaimCall) :=
  s'.history.drop s.history.length

/-- The jobs that go from Pending to Running in the step are those it returns as Running, and
it returns each of them once and to one caller. -/
structure ClaimedOnce (s s' : ClaimSys) : Prop where
  once : ∀ id before after, s.rows.get? id = some before → s'.rows.get? id = some after →
    before.status = .pending → after.status = .running →
    ∃ d, returned s s' = [d] ∧ ((returnedJobs d).map Job.id).count id = 1
  only : ∀ d ∈ returned s s', ∀ job ∈ returnedJobs d, job.status = .running →
    ∃ before after, s.rows.get? job.id = some before ∧ s'.rows.get? job.id = some after ∧
      before.status = .pending ∧ after.status = .running

/-- A deployment is returned to the agent it is bound to, and to a scheduler only if it is
bound to none. The job is the stored one; its target counts as the select found it. -/
def BoundWhenSelected (s s' : ClaimSys) : Prop :=
  ∀ d ∈ returned s s', ∀ x ∈ d.taken, s.rows.get? x.row.id = some x.row ∧
    (x.row.type = .deployment → x.others.boundAgent x.row = d.call.agent)

/-- The same with the targets as they are when the claim is committed. -/
def BoundWhenCommitted (s s' : ClaimSys) : Prop :=
  ∀ d ∈ returned s s', ∀ job ∈ returnedJobs d, job.type = .deployment →
    s.others.boundAgent job = d.call.agent

section Commits

variable {s s' : ClaimSys} {d : Delivery Job Bindings ClaimCall} {now : Time}
  (commit : Commit ClaimCall.statements markClaimed s s' d now)

include commit in
theorem returned_eq :
    returned s s' = [d] := by
  rw [returned, commit.history, List.drop_left]

theorem returned_eq_nil (same : s'.history = s.history) : returned s s' = [] := by
  rw [returned, same, List.drop_length]

theorem returnedJobs_ids (d : Delivery Job Bindings ClaimCall) :
    (returnedJobs d).map Job.id = d.taken.map (fun x => x.row.id) := by
  rw [returnedJobs, List.map_map]
  refine List.map_congr_left fun x _ => ?_
  rw [Function.comp_apply]
  split <;> rfl

theorem mem_updated {id : String} :
    id ∈ (updatedRows d.taken).map Job.id ↔
      ∃ x ∈ d.taken, x.select.updates = true ∧ x.row.id = id := by
  simp only [updatedRows, List.map_map, List.mem_map, List.mem_filter, Function.comp_apply,
    and_assoc]

include commit in
theorem claimedOnce_of_commit :
    ClaimedOnce s s' := by
  refine ⟨?_, ?_⟩
  · intro id before after found found' wasPending isRunning
    refine ⟨d, returned_eq commit, ?_⟩
    rw [commit.rows id] at found'
    split at found'
    next updated =>
      obtain ⟨x, isTaken, -, rfl⟩ := mem_updated.mp updated
      rw [returnedJobs_ids]
      exact List.count_eq_one_of_mem commit.distinct (List.mem_map_of_mem isTaken)
    next =>
      rw [found] at found'
      cases found'
      rw [wasPending] at isRunning
      cases isRunning
  · intro d' isReturned job member isRunning
    rw [returned_eq commit, List.mem_singleton] at isReturned
    subst isReturned
    obtain ⟨x, isTaken, rfl⟩ := List.mem_map.mp member
    obtain ⟨own, selected⟩ := commit.chosen x isTaken
    have status := status_of_selects own selected
    split
    next updates =>
      rw [if_pos updates] at status
      refine ⟨x.row, markClaimed now x.row, commit.stored x isTaken, ?_, status, rfl⟩
      have stored : s.rows.get? x.row.id = some x.row := commit.stored x isTaken
      rw [commit.rows, if_pos (mem_updated.mpr ⟨x, isTaken, updates, rfl⟩), stored, Option.map_some]
    next kept =>
      rw [if_neg kept] at status isRunning
      rw [status] at isRunning
      cases isRunning

include commit in
theorem bound_of_commit :
    BoundWhenSelected s s' := by
  intro d' isReturned x isTaken
  rw [returned_eq commit, List.mem_singleton] at isReturned
  subst isReturned
  obtain ⟨own, selected⟩ := commit.chosen x isTaken
  exact ⟨commit.stored x isTaken, boundAgent_of_selects own selected⟩

/-- The status of a job plays no part in its binding. -/
theorem boundWhenCommitted (bound : BoundWhenSelected s s')
    (seen : ∀ d ∈ returned s s', ∀ x ∈ d.taken, x.others = s.others) :
    BoundWhenCommitted s s' := by
  intro d isReturned job member deployment
  obtain ⟨x, isTaken, rfl⟩ := List.mem_map.mp member
  have bound := (bound d isReturned x isTaken).2
  rw [seen d isReturned x isTaken] at bound
  split at deployment
  next updates =>
    rw [if_pos updates]
    exact bound deployment
  next kept =>
    rw [if_neg kept]
    exact bound deployment

end Commits

/-- For every job table and every interleaving: a step of a claim returns what it takes from
Pending to Running, once and to one caller, and a deployment only to the caller it is bound to.
In runs that leave the targets alone the binding is the one at the commit. -/
theorem exclusive_claim {ok : ClaimSys → ClaimMove → Prop} {s s' : ClaimSys} {m : ClaimMove}
    (reached : ReachableUnder claimTxStep ClaimSys.idle ok s) (claims : m.claims = true)
    (taken : claimTxStep s m = some s') :
    ClaimedOnce s s' ∧ BoundWhenSelected s s' ∧
      ((∀ t others, ¬ ok t (.change others)) → BoundWhenCommitted s s') := by
  have inv := inv_of_reachable statements_exclusive markClaimed_id (fun _ initial => initial.1)
    reached
  rcases inv.claims markClaimed_id claims taken with ⟨rows, history⟩ | ⟨tx, member, _, now, commit⟩
  · have none := returned_eq_nil history
    refine ⟨⟨?_, ?_⟩, ?_, fun _ => ?_⟩
    · intro id before after found found' wasPending isRunning
      rw [rows, found] at found'
      cases found'
      rw [wasPending] at isRunning
      cases isRunning
    · simp [none]
    · simp [BoundWhenSelected, none]
    · simp [BoundWhenCommitted, none]
  · have bound := bound_of_commit commit
    refine ⟨claimedOnce_of_commit commit, bound, fun still => boundWhenCommitted bound ?_⟩
    intro d isReturned x isTaken
    rw [returned_eq commit, List.mem_singleton] at isReturned
    subst isReturned
    exact (saw_of_reachable (fun _ initial => initial.1) still reached tx member).taken x isTaken

def pendingJob (id : String) (type : JobType) (targetID agentID : Option String) : Job :=
  ⟨id, type, "mc-1", targetID, agentID, .pending, 0, 3, none, 0, none, none, 0⟩

/-- A renewal, a deployment bound to an agent, and one bound through its target. -/
def threeJobs : ClaimSys :=
  ⟨⟨[pendingJob "job-1" .renewal none none, pendingJob "job-2" .deployment none (some "agent-1"),
      pendingJob "job-3" .deployment (some "t-1") none], by decide⟩,
    ⟨⟨[⟨"t-1", some "agent-1"⟩], by decide⟩, []⟩, [], []⟩

def steps (i n : Nat) : List ClaimMove := List.replicate n (.next i false 0)

/-- Two schedulers select the renewal, one of them gets it, and the agent has its two
deployments locked and updated. -/
def race : List ClaimMove :=
  [.begin (.claimPendingJobs none 0), .begin (.claimPendingJobs none 0),
    .begin (.claimPendingByAgentID "agent-1")] ++
  steps 0 1 ++ steps 1 1 ++ steps 0 1 ++ steps 1 1 ++ steps 0 3 ++ steps 1 3 ++ steps 2 9

/-- The agent's commit returns both deployments to it. -/
theorem exclusive_claim_race : ∃ s s' : ClaimSys,
    (returned s s').map (fun d => (d.call.agent, (returnedJobs d).map Job.id)) =
      [(some "agent-1", ["job-2", "job-3"])] ∧
    ClaimedOnce s s' ∧ BoundWhenSelected s s' ∧ BoundWhenCommitted s s' := by
  have initial : threeJobs.idle := ⟨rfl, rfl⟩
  obtain ⟨s, reached, s', taken, delivers⟩ := exists_reachable_of_replay claimTxStep
    (fun _ m => m.claims) initial race
    (fun s => ∃ s', claimTxStep s (.next 2 false 0) = some s' ∧
      (returned s s').map (fun d => (d.call.agent, (returnedJobs d).map Job.id)) =
        [(some "agent-1", ["job-2", "job-3"])]) (by decide +kernel)
  obtain ⟨once, selected, still⟩ := exclusive_claim reached rfl taken
  exact ⟨s, s', delivers, once, selected,
    still fun _ _ changes => by cases changes⟩

/-- The store's claims are what the transactions come to: in a run that leaves the targets and
mappings alone, a step of a claim changes nothing that others see or is the store's query. -/
theorem claim_is_query {ok : ClaimSys → ClaimMove → Prop} {s s' : ClaimSys} {m : ClaimMove}
    (still : ∀ t others, ¬ ok t (.change others))
    (reached : ReachableUnder claimTxStep ClaimSys.idle ok s) (claims : m.claims = true)
    (taken : claimTxStep s m = some s') (env : Env) {db : DB} (jobs : db.jobs = s.rows)
    (bindings : db.bindings = s.others) :
    (s'.rows = s.rows ∧ s'.history = s.history) ∨
      ∃ d c db' out, s'.history = s.history ++ [d] ∧ d.call.perform env db c = .ok (db', out) ∧
        out.Perm (returnedJobs d) ∧ ∀ id, db'.jobs.get? id = s'.rows.get? id := by
  have starts : ∀ s, ClaimSys.idle s → s.txs = [] := fun _ initial => initial.1
  have inv := inv_of_reachable statements_exclusive markClaimed_id starts reached
  refine (inv.claims markClaimed_id claims taken).imp_right ?_
  rintro ⟨tx, member, notClosed, now, commit⟩
  have saw := saw_of_reachable starts still reached tx member
  have few : ∀ jobType limit, tx.call = .claimPendingJobs jobType limit → limit > 0 →
      tx.taken.length ≤ limit.toNat := by
    intro jobType limit call positive
    have limited : ∀ b ∈ tx.call.statements, b.limit.isSome := by
      rw [call]
      intro b own
      rw [List.mem_singleton.mp own, selectClaimable, if_pos positive]
      rfl
    have within := (within_of_reachable starts reached tx member limited).length_le notClosed
    rw [call] at within
    simpa [allowance, ClaimCall.statements, selectClaimable, positive] using within
  obtain ⟨db', out, performed, same, rows⟩ := perform_of_commit env commit jobs
    (fun x isTaken => (saw.taken x isTaken).trans bindings.symm) few
  exact ⟨_, _, db', out, commit.history, performed, same, rows⟩

def storeOf (s : ClaimSys) : DB :=
  { DB.empty with jobs := s.rows, targets := s.others.targets, mappings := s.others.mappings }

/-- The agent's commit is its poll of the store. -/
theorem claim_is_query_race : ∃ s s' : ClaimSys, ∀ env, ∃ d c db' out,
    d.call.perform env (storeOf s) c = .ok (db', out) ∧ out.Perm (returnedJobs d) ∧
      s'.history = s.history ++ [d] := by
  obtain ⟨s, reached, s', taken, more⟩ := exists_reachable_of_replay claimTxStep
    (fun _ m => m.claims) (show threeJobs.idle from ⟨rfl, rfl⟩) race
    (fun s => ∃ s', claimTxStep s (.next 2 false 0) = some s' ∧
      s'.history.length ≠ s.history.length) (by decide +kernel)
  refine ⟨s, s', fun env => ?_⟩
  have jobs : (storeOf s).jobs = s.rows := rfl
  rcases claim_is_query (fun _ _ changes => by cases changes) reached rfl taken env jobs rfl with
    ⟨-, same⟩ | ⟨d, c, db', out, history, performed, same, -⟩
  · exact absurd (congrArg List.length same) more
  · exact ⟨d, c, db', out, performed, same, history⟩

end Certctl.Guarantees.ExclusiveClaim

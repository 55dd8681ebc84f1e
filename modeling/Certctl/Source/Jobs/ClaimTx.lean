import Certctl.Lib.RowClaim
import Certctl.Source.Jobs.Effects

/-!
`ClaimPendingJobs` and `ClaimPendingByAgentID` as the transactions they are: one or three
selects with `FOR UPDATE SKIP LOCKED` at READ COMMITTED, one update, and the commit. Any
number of schedulers and agents may be at it, and jobs, targets and mappings may change
meanwhile. A statement that fails ends its transaction without effect, and so does a commit.

Source: internal/repository/postgres/job.go.
-/
namespace Certctl.Source.Jobs

open Lib Lib.RowClaim

/-- The tables the selects read besides the jobs. -/
structure Bindings where
  targets : Table Target.id
  mappings : List (String × String)

def DB.bindings (db : DB) : Bindings := ⟨db.targets, db.mappings⟩

namespace Bindings

def targetAgent (b : Bindings) (job : Job) : Option String :=
  job.targetID.bind (fun id => (b.targets.get? id).bind Target.agentID)

/-- The agent a deployment job is bound to, directly or else through its target. -/
def boundAgent (b : Bindings) (job : Job) : Option String := job.agentID <|> b.targetAgent job

def mapped (b : Bindings) (agentID : String) (job : Job) : Bool :=
  b.mappings.any (fun m => decide (m.1 = job.certificateID) &&
    decide ((b.targets.get? m.2).bind Target.agentID = some agentID))

end Bindings

/-- No job type stands for any type, and a limit that is not positive for none. -/
inductive ClaimCall where
  | claimPendingJobs (jobType : Option JobType) (limit : Int)
  | claimPendingByAgentID (agentID : String)

/-- The agent that polls; a scheduler is none. -/
def ClaimCall.agent : ClaimCall → Option String
  | .claimPendingJobs .. => none
  | .claimPendingByAgentID agentID => some agentID

theorem orderBy_perm (time : Job → Time) (rows : List Job) : (orderBy time rows).Perm rows :=
  List.perm_insertionSort _ _

def selectClaimable (jobType : Option JobType) (limit : Int) : Select Job Bindings where
  selects b job := decide (job.status = .pending) &&
    !(decide (job.type = .deployment) && (job.agentID.isSome || (b.targetAgent job).isSome)) &&
    jobType.all (fun t => decide (job.type = t))
  order := orderBy Job.scheduledAt
  perm := orderBy_perm Job.scheduledAt
  follows _ _ := true
  stays _ := rfl
  limit := if limit > 0 then some limit.toNat else none
  updates := true

def selectDirect (agentID : String) : Select Job Bindings where
  selects _ job := decide (job.agentID = some agentID) && decide (job.status = .pending) &&
    decide (job.type = .deployment)
  order := orderBy Job.createdAt
  perm := orderBy_perm Job.createdAt
  follows _ _ := true
  stays _ := rfl
  limit := none
  updates := true

/-- The target is joined: a job that has changed is looked at again with the row of the
target it had. -/
def selectFallback (agentID : String) : Select Job Bindings where
  selects b job := decide (job.agentID = none) && decide (job.status = .pending) &&
    decide (job.type = .deployment) && decide (b.targetAgent job = some agentID)
  order := orderBy Job.createdAt
  perm := orderBy_perm Job.createdAt
  follows row present := decide (row.targetID = present.targetID)
  stays _ := decide_eq_true rfl
  limit := none
  updates := true

/-- The jobs an agent is to submit a request for are returned as they are. -/
def selectAwaitingCSR (agentID : String) : Select Job Bindings where
  selects b job := decide (job.status = .awaitingCSR) &&
    (decide (job.type = .renewal) || decide (job.type = .issuance)) && b.mapped agentID job
  order := orderBy Job.createdAt
  perm := orderBy_perm Job.createdAt
  follows _ _ := true
  stays _ := rfl
  limit := none
  updates := false

def ClaimCall.statements : ClaimCall → List (Select Job Bindings)
  | .claimPendingJobs jobType limit => [selectClaimable jobType limit]
  | .claimPendingByAgentID agentID =>
    [selectDirect agentID, selectFallback agentID, selectAwaitingCSR agentID]

abbrev ClaimSys := Sys Job Bindings String ClaimCall Job.id

abbrev ClaimMove := Move Job Bindings ClaimCall Time

def claimTxStep : ClaimSys → ClaimMove → Option ClaimSys :=
  claimStep ClaimCall.statements markClaimed

/-- Any tables, and no transaction under way. -/
def ClaimSys.idle (s : ClaimSys) : Prop := s.txs = [] ∧ s.history = []

/-- The jobs a call returns: the claimed ones with the new status, though with the attempts
they had when they were read. -/
def returnedJobs (d : Delivery Job Bindings ClaimCall) : List Job :=
  d.taken.map (fun x => if x.select.updates then { x.row with status := .running } else x.row)

variable {select : Select Job Bindings} {call : ClaimCall} {b : Bindings} {job : Job}

/-- The rows a call updates are Pending, and those it does not update await a request. -/
theorem status_of_selects (own : select ∈ call.statements)
    (selected : select.selects b job = true) :
    job.status = if select.updates then .pending else .awaitingCSR := by
  cases call with
  | claimPendingJobs jobType limit =>
    rw [ClaimCall.statements, List.mem_singleton] at own
    subst own
    simp only [selectClaimable, Bool.and_eq_true, decide_eq_true_eq] at selected
    exact selected.1.1
  | claimPendingByAgentID agentID =>
    simp only [ClaimCall.statements, List.mem_cons, List.not_mem_nil, or_false] at own
    rcases own with rfl | rfl | rfl
    · simp only [selectDirect, Bool.and_eq_true, decide_eq_true_eq] at selected
      exact selected.1.2
    · simp only [selectFallback, Bool.and_eq_true, decide_eq_true_eq] at selected
      exact selected.1.1.2
    · simp only [selectAwaitingCSR, Bool.and_eq_true, decide_eq_true_eq] at selected
      exact selected.1.1

/-- The three branches of a poll share no row. -/
theorem statements_exclusive (call : ClaimCall) : call.statements.Pairwise Exclusive := by
  cases call with
  | claimPendingJobs jobType limit => exact List.pairwise_singleton _ _
  | claimPendingByAgentID agentID =>
    have direct_fallback : Exclusive (selectDirect agentID) (selectFallback agentID) := by
      intro others others' row direct fallback
      simp only [selectDirect, selectFallback, Bool.and_eq_true, decide_eq_true_eq]
        at direct fallback
      rw [direct.1.1] at fallback
      cases fallback.1.1.1
    have csr : selectAwaitingCSR agentID ∈ ClaimCall.statements (.claimPendingByAgentID agentID) :=
      .tail _ (.tail _ (.head _))
    have apart_csr : ∀ a ∈ (ClaimCall.claimPendingByAgentID agentID).statements,
        a.updates = true → Exclusive a (selectAwaitingCSR agentID) := by
      intro a own updates others others' row selected awaits
      have status := status_of_selects own selected
      rw [status_of_selects csr awaits, if_pos updates] at status
      cases status
    refine List.pairwise_cons.mpr ⟨?_, List.pairwise_cons.mpr ⟨?_, List.pairwise_singleton _ _⟩⟩
    · simp only [List.forall_mem_cons]
      exact ⟨direct_fallback, apart_csr _ (.head _) rfl, fun _ absent => (by cases absent)⟩
    · simp only [List.forall_mem_cons]
      exact ⟨apart_csr _ (.tail _ (.head _)) rfl, fun _ absent => (by cases absent)⟩

/-- A select that takes a deployment takes it for the agent it is bound to, or for a scheduler
if it is bound to none. -/
theorem boundAgent_of_selects (own : select ∈ call.statements)
    (selected : select.selects b job = true)
    (deployment : job.type = .deployment) : b.boundAgent job = call.agent := by
  cases call with
  | claimPendingJobs jobType limit =>
    rw [ClaimCall.statements, List.mem_singleton] at own
    subst own
    simp only [selectClaimable, deployment, decide_true, Bool.true_and, Bool.and_eq_true,
      Bool.not_eq_true', Bool.or_eq_false_iff, Option.isSome_eq_false_iff,
      Option.isNone_iff_eq_none] at selected
    simp [Bindings.boundAgent, ClaimCall.agent, selected.1.2.1, selected.1.2.2]
  | claimPendingByAgentID agentID =>
    simp only [ClaimCall.statements, List.mem_cons, List.not_mem_nil, or_false] at own
    rcases own with rfl | rfl | rfl
    · simp only [selectDirect, Bool.and_eq_true, decide_eq_true_eq] at selected
      simp [Bindings.boundAgent, ClaimCall.agent, selected.1.1]
    · simp only [selectFallback, Bool.and_eq_true, decide_eq_true_eq] at selected
      simp [Bindings.boundAgent, ClaimCall.agent, selected.1.1.1, selected.2]
    · simp [selectAwaitingCSR, deployment] at selected

/-! ### The claim as one step -/

/-- The query of the store that stands for the whole transaction. -/
def ClaimCall.perform (env : Env) (db : DB) (c : Choice) :
    ClaimCall → Except RepoError (DB × List Job)
  | .claimPendingJobs jobType limit => Jobs.perform env db c (.claimPendingJobs jobType limit)
  | .claimPendingByAgentID agentID => Jobs.perform env db c (.claimPendingByAgentID agentID)

/-- The rows a transaction has not taken: for the query they count as locked. -/
def passedOver (rows : Table Job.id) (taken : List (Taken Job Bindings)) : List String :=
  (rows.rows.map Job.id).filter (fun id => !(taken.map (fun x => x.row.id)).contains id)

section Atomic

variable {db : DB} {s s' : ClaimSys} {taken : List (Taken Job Bindings)}

theorem mem_filter_passedOver (stored : ∀ x ∈ taken, db.jobs.get? x.row.id = some x.row)
    (p : Job → Bool) (job : Job) :
    job ∈ db.jobs.rows.filter (fun job =>
        p job && !(passedOver db.jobs taken).contains job.id) ↔
      p job = true ∧ ∃ x ∈ taken, x.row = job := by
  simp only [passedOver, List.mem_filter, Bool.and_eq_true, Bool.not_eq_true',
    List.contains_eq_mem, decide_eq_false_iff_not, List.mem_map, not_and, not_not]
  refine ⟨?_, ?_⟩
  · rintro ⟨member, meets, isTaken⟩
    obtain ⟨x, isTaken, same⟩ := isTaken ⟨job, member, rfl⟩
    refine ⟨meets, x, isTaken, ?_⟩
    have found := stored x isTaken
    rw [same, Table.get?_of_mem member] at found
    exact (Option.some.inj found).symm
  · rintro ⟨meets, x, isTaken, rfl⟩
    exact ⟨Table.get?_mem (stored x isTaken), meets, fun _ => ⟨x, isTaken, rfl⟩⟩

/-- The rows a query finds among the taken ones. -/
theorem perm_taken {rows : List Job} {p : Job → Prop} {q : Taken Job Bindings → Bool}
    (distinct : (taken.map (fun x => x.row.id)).Nodup) (unique : (rows.map Job.id).Nodup)
    (member : ∀ job, job ∈ rows ↔ p job ∧ ∃ x ∈ taken, x.row = job)
    (agree : ∀ x ∈ taken, p x.row ↔ q x = true) :
    rows.Perm ((taken.filter q).map Taken.row) := by
  refine (List.perm_ext_iff_of_nodup (.of_map Job.id unique) (.of_map Job.id ?_)).mpr fun job => ?_
  · rw [List.map_map]
    exact distinct.sublist (List.filter_sublist.map _)
  · rw [member, List.mem_map]
    simp only [List.mem_filter, and_assoc]
    refine ⟨?_, ?_⟩
    · rintro ⟨meets, x, isTaken, rfl⟩
      exact ⟨x, isTaken, (agree x isTaken).mp meets, rfl⟩
    · rintro ⟨x, isTaken, kept, rfl⟩
      exact ⟨(agree x isTaken).mpr kept, x, isTaken, rfl⟩

theorem claimable_perm {jobType : Option JobType} {limit : Int}
    (stored : ∀ x ∈ taken, db.jobs.get? x.row.id = some x.row)
    (distinct : (taken.map (fun x => x.row.id)).Nodup)
    (selected : ∀ x ∈ taken, (selectClaimable jobType limit).selects db.bindings x.row = true)
    (few : limit > 0 → taken.length ≤ limit.toNat) :
    (db.claimable (passedOver db.jobs taken) jobType limit).Perm (taken.map Taken.row) := by
  have rows := perm_taken (q := fun _ => true) distinct
    (db.jobs.unique.sublist (List.filter_sublist.map Job.id))
    (mem_filter_passedOver stored ((selectClaimable jobType limit).selects db.bindings))
    (fun x isTaken => by simp [selected x isTaken])
  rw [List.filter_true] at rows
  have ordered := (orderBy_perm Job.scheduledAt _).trans rows
  unfold DB.claimable
  extract_lets all
  have same : all.Perm (taken.map Taken.row) := ordered
  split
  next positive =>
    rw [List.take_of_length_le]
    · exact same
    · rw [same.length_eq, List.length_map]
      exact few positive
  next => exact same

section Poll

variable {agentID : String} (stored : ∀ x ∈ taken, db.jobs.get? x.row.id = some x.row)
  (distinct : (taken.map (fun x => x.row.id)).Nodup)
  (own : ∀ x ∈ taken, x.select ∈ (ClaimCall.claimPendingByAgentID agentID).statements)
  (selected : ∀ x ∈ taken, x.select.selects db.bindings x.row = true)

include own selected

/-- A taken row meets the branch that has taken it and no other. -/
theorem branches_of_taken {x : Taken Job Bindings} (isTaken : x ∈ taken) :
    ((selectDirect agentID).selects db.bindings x.row = true ∨
      (selectFallback agentID).selects db.bindings x.row = true ↔ x.select.updates = true) ∧
    ((selectAwaitingCSR agentID).selects db.bindings x.row = true ↔
      (!x.select.updates) = true) := by
  have branch := own x isTaken
  have meets := selected x isTaken
  -- the status of the row tells whether the branch that meets it updates
  have tells : ∀ b ∈ (ClaimCall.claimPendingByAgentID agentID).statements,
      b.selects db.bindings x.row = true → x.select.updates = b.updates := by
    intro b listed found
    have status := (status_of_selects branch meets).symm.trans (status_of_selects listed found)
    cases own : x.select.updates <;> cases other : b.updates <;> simp_all
  simp only [ClaimCall.statements, List.mem_cons, List.not_mem_nil, or_false, forall_eq_or_imp,
    forall_eq] at branch tells
  obtain ⟨direct, fallback, csr⟩ := tells
  rw [Bool.not_eq_true']
  refine ⟨⟨fun found => found.elim direct fallback, fun on => ?_⟩, csr, fun off => ?_⟩
  · rcases branch with same | same | same
    · exact .inl (same ▸ meets)
    · exact .inr (same ▸ meets)
    · rw [same] at on
      cases on
  · rcases branch with same | same | same
    · rw [same] at off
      cases off
    · rw [same] at off
      cases off
    · exact same ▸ meets

include stored distinct

theorem agentClaimable_perm :
    (db.agentClaimable (passedOver db.jobs taken) agentID).Perm (updatedRows taken) := by
  refine perm_taken (p := fun job => (selectDirect agentID).selects db.bindings job = true ∨
    (selectFallback agentID).selects db.bindings job = true) distinct (agentClaimable_nodup _ _)
    (fun job => ?_) fun x isTaken => (branches_of_taken own selected isTaken).1
  rw [DB.agentClaimable, List.mem_append, orderBy, orderBy, List.mem_insertionSort,
    List.mem_insertionSort, or_and_right]
  exact or_congr (mem_filter_passedOver stored ((selectDirect agentID).selects db.bindings) job)
    (mem_filter_passedOver stored ((selectFallback agentID).selects db.bindings) job)

theorem agentCSRJobs_perm :
    (db.agentCSRJobs (passedOver db.jobs taken) agentID).Perm
      ((taken.filter (fun x => !x.select.updates)).map Taken.row) := by
  refine perm_taken (p := fun job => (selectAwaitingCSR agentID).selects db.bindings job = true)
    distinct (nodup_filter_ids _ _) (fun job => ?_)
    fun x isTaken => (branches_of_taken own selected isTaken).2
  rw [DB.agentCSRJobs, orderBy, List.mem_insertionSort]
  exact mem_filter_passedOver stored ((selectAwaitingCSR agentID).selects db.bindings) job

end Poll

theorem get?_claim_of_perm {now : Time} {claimed updated : List Job} (same : claimed.Perm updated)
    (id : String) :
    (db.claim now (claimed.map Job.id)).jobs.get? id =
      if id ∈ updated.map Job.id then (db.jobs.get? id).map (markClaimed now)
      else db.jobs.get? id := by
  have mem : id ∈ claimed.map Job.id ↔ id ∈ updated.map Job.id := (same.map Job.id).mem_iff
  simp only [DB.claim, Table.get?_updateWhere]
  cases found : db.jobs.get? id with
  | none => split <;> rfl
  | some job =>
    have keyed : job.id = id := Table.get?_key found
    simp only [Option.map_some, keyed, List.contains_eq_mem, decide_eq_true_eq, mem]
    split <;> rfl

/-- With the targets as the selects found them, a commit is one step of the store: the query
performed while every row that was not taken is locked. -/
theorem perform_of_commit (env : Env) {d : Delivery Job Bindings ClaimCall} {now : Time}
    (commit : Commit ClaimCall.statements markClaimed s s' d now) (jobs : db.jobs = s.rows)
    (seen : ∀ x ∈ d.taken, x.others = db.bindings)
    (few : ∀ jobType limit, d.call = .claimPendingJobs jobType limit → limit > 0 →
      d.taken.length ≤ limit.toNat) :
    ∃ db' out, d.call.perform env db
        { Choice.plain with now, locked := passedOver db.jobs d.taken } = .ok (db', out) ∧
      out.Perm (returnedJobs d) ∧ ∀ id, db'.jobs.get? id = s'.rows.get? id := by
  obtain ⟨call, taken⟩ := d
  have stored : ∀ x ∈ taken, db.jobs.get? x.row.id = some x.row := jobs ▸ commit.stored
  have own : ∀ x ∈ taken, x.select ∈ call.statements := fun x isTaken => (commit.chosen x isTaken).1
  have selected : ∀ x ∈ taken, x.select.selects db.bindings x.row = true :=
    fun x isTaken => seen x isTaken ▸ (commit.chosen x isTaken).2
  cases call with
  | claimPendingJobs jobType limit =>
    have rows : (db.claimable (passedOver db.jobs taken) jobType limit).Perm
        (taken.map Taken.row) := by
      refine claimable_perm stored commit.distinct (fun x isTaken => ?_) (few jobType limit rfl)
      exact List.mem_singleton.mp (own x isTaken) ▸ selected x isTaken
    have all : ∀ x ∈ taken, x.select.updates = true := by
      intro x isTaken
      rw [List.mem_singleton.mp (own x isTaken)]
      rfl
    refine ⟨_, _, rfl, ?_, fun id => ?_⟩
    · refine (rows.map _).trans (List.Perm.of_eq ?_)
      rw [List.map_map, returnedJobs]
      refine List.map_congr_left fun x isTaken => ?_
      rw [Function.comp_apply, if_pos (all x isTaken)]
    · rw [commit.rows, updatedRows, List.filter_eq_self.mpr all, ← jobs]
      exact get?_claim_of_perm rows id
  | claimPendingByAgentID agentID =>
    have claimed := agentClaimable_perm stored commit.distinct own selected
    have waiting := agentCSRJobs_perm stored commit.distinct own selected
    refine ⟨_, _, rfl, ?_, fun id => ?_⟩
    · refine ((claimed.map _).append waiting).trans ?_
      refine List.Perm.trans (List.Perm.of_eq ?_)
        ((List.filter_append_perm (fun x => x.select.updates) taken).map (fun x =>
          if x.select.updates then { x.row with status := .running } else x.row))
      rw [List.map_append, updatedRows, List.map_map]
      congr 1
      · refine List.map_congr_left fun x isTaken => ?_
        rw [if_pos (List.mem_filter.mp isTaken).2]
        rfl
      · refine List.map_congr_left fun x isTaken => ?_
        rw [if_neg (by simpa using (List.mem_filter.mp isTaken).2)]
    · rw [commit.rows, ← jobs]
      exact get?_claim_of_perm claimed id

end Atomic

end Certctl.Source.Jobs

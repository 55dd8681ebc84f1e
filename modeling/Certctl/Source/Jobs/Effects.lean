import Certctl.Source.Jobs.JobService

/-!
What a query does to each table. The frame lemmas name the queries that touch a table at
all; the others say, row by row, what the touching ones leave.
-/
namespace Certctl.Source.Jobs

open Lib

variable {env : Env} {db db' : DB} {c : Choice} {q : Query} {value : q.Value}
  (performed : perform env db c q = .ok (db', value))

def Query.writesApprovals : Query → Bool
  | .createApproval _ | .decidePending .. | .expireStale _ => true
  | _ => false

def Query.writesJobs : Query → Bool
  | .createJob _ | .updateJob _ | .updateStatus .. | .claimPendingJobs ..
  | .claimPendingByAgentID _ => true
  | _ => false

def Query.writesInventory : Query → Bool
  | .updateCertificate _ | .createVersion _ | .commitRenewal .. | .commitRevocation .. => true
  | _ => false

def Query.isClaim : Query → Bool
  | .claimPendingJobs .. | .claimPendingByAgentID _ => true
  | _ => false

def Query.isWrite : Query → Bool
  | .createRevocation _ | .updateProfile _ => true
  | q => q.writesApprovals || q.writesJobs || q.writesInventory

def Op.isWrite : Op → Bool
  | .query q => q.isWrite
  | _ => false

include performed in
/-- A query that is none of these reads, or writes revocation rows or profiles. -/
theorem perform_frame :
    (q.writesApprovals = false → db'.approvals = db.approvals) ∧
    (q.writesJobs = false → db'.jobs = db.jobs) ∧
    (q.writesInventory = false → db'.inventory = db.inventory) ∧
    (q.isClaim = false → db'.claimed = db.claimed) ∧
    ((∀ job, q ≠ .createJob job) → db'.created = db.created) ∧
    ((∀ profile, q ≠ .updateProfile profile) → db'.profiles = db.profiles) := by
  cases q <;> simp only [perform] at performed <;>
    (try split at performed) <;> (try split at performed) <;>
    first
      | (cases performed; simp [Query.writesApprovals, Query.writesJobs, Query.writesInventory,
          Query.isClaim, DB.settleWhere, DB.claim])
      | cases performed

include performed in
theorem perform_of_read (read : q.isWrite = false) : db' = db := by
  cases q <;>
    simp only [Query.isWrite, Query.writesApprovals, Query.writesJobs, Query.writesInventory,
      Bool.or_true, Bool.or_false, Bool.true_eq_false] at read <;>
    simp only [perform] at performed <;> (try split at performed) <;>
    first
      | (cases performed; rfl)
      | cases performed

/-- What holds of a query that changes nothing and of every query carried out holds of the
operation. -/
theorem exec_rely (rely : DB → DB → Prop) (same : rely db db) (o : Op)
    (carried : ∀ q db' value, o = .query q → perform env db c q = .ok (db', value) → rely db db') :
    rely db (exec env db o c).1 := by
  cases o with
  | query q =>
    obtain ⟨unchanged, -⟩ | ⟨db', value, performed, store, -⟩ := execQuery_cases env db q c
    · exact unchanged.symm ▸ same
    · exact store.symm ▸ carried q db' value rfl performed
  | _ => exact same

theorem exec_of_read {o : Op} (read : o.isWrite = false) : (exec env db o c).1 = db := by
  refine exec_rely (fun _ after => after = db) rfl o ?_
  intro q db' value isQuery performed
  subst isQuery
  exact perform_of_read performed read

variable {id : String} {req : ApprovalRequest}

theorem getApproval_ok (returned : (execQuery env db (.getApproval id) c).2 = .ok req) :
    db.approvals.get? id = some req ∧ (execQuery env db (.getApproval id) c).1 = db := by
  obtain ⟨_, performed, store⟩ := execQuery_ok returned
  simp only [perform] at performed
  split at performed
  next found =>
    cases performed
    exact ⟨found, store⟩
  · cases performed

theorem getJob_ok {job : Job} (returned : (execQuery env db (.getJob id) c).2 = .ok job) :
    db.jobs.get? id = some job := by
  obtain ⟨_, performed, -⟩ := execQuery_ok returned
  simp only [perform] at performed
  split at performed
  next found =>
    cases performed
    exact found
  · cases performed

variable {jobs : List Job} {status : JobStatus} {next : Time → Service}

theorem listByStatus_ok
    (returned : (execQuery env db (.listByStatus status) c).2 = .ok jobs) (job : Job)
    (listed : job ∈ jobs) : db.jobs.get? job.id = some job ∧ job.status = status := by
  obtain ⟨_, ⟨⟩, -⟩ := execQuery_ok returned
  rw [orderByDesc, List.mem_insertionSort, List.mem_filter, decide_eq_true_eq] at listed
  exact ⟨Table.get?_of_mem listed.1, listed.2⟩

theorem listTimedOutAwaitingJobs_ok {csrCutoff approvalCutoff : Time}
    (returned : (execQuery env db (.listTimedOutAwaitingJobs csrCutoff approvalCutoff) c).2 =
      .ok jobs) (job : Job) (listed : job ∈ jobs) :
    db.jobs.get? job.id = some job ∧
      (job.status = .awaitingCSR ∨ job.status = .awaitingApproval) := by
  obtain ⟨_, ⟨⟩, -⟩ := execQuery_ok returned
  rw [orderBy, List.mem_insertionSort, List.mem_filter] at listed
  simp only [Bool.or_eq_true, decide_eq_true_eq] at listed
  exact ⟨Table.get?_of_mem listed.1, listed.2.imp And.left And.left⟩

theorem listJobsWithOfflineAgents_ok {agentCutoff : Time}
    (returned : (execQuery env db (.listJobsWithOfflineAgents agentCutoff) c).2 = .ok jobs)
    (job : Job) (listed : job ∈ jobs) :
    db.jobs.get? job.id = some job ∧ job.status = .running := by
  obtain ⟨_, ⟨⟩, -⟩ := execQuery_ok returned
  rw [List.mem_insertionSort, List.mem_filter] at listed
  simp only [Bool.and_eq_true, decide_eq_true_eq] at listed
  exact ⟨Table.get?_of_mem listed.1, listed.2.1⟩

/-- A state update that hits a row found the request open. -/
theorem decidePending_ok {decidedBy : String} {state : ApprovalState} {decidedAt : Time}
    {note : Option String} {rows : Nat} (hit : rows ≠ 0)
    (returned : (execQuery env db (.decidePending id state decidedBy decidedAt note) c).2 =
      .ok rows) :
    ∃ req, db.approvals.get? id = some req ∧ req.state = .pending ∧
      (execQuery env db (.decidePending id state decidedBy decidedAt note) c).1.approvals.get? id =
        some (settle state decidedBy decidedAt note c.now req) := by
  obtain ⟨_, ⟨⟩, store⟩ := execQuery_ok returned
  obtain ⟨req, member, isOpen⟩ := List.countP_pos_iff.mp (Nat.pos_of_ne_zero hit)
  have spec : req.id = id ∧ req.state = .pending := by simpa [DB.isOpen] using isOpen
  have found : db.approvals.get? id = some req := spec.1 ▸ Table.get?_of_mem member
  refine ⟨req, found, spec.2, ?_⟩
  rw [store, DB.settleWhere, Table.get?_updateWhere, found, Option.map_some, if_pos isOpen]

/-- `UpdateStatus` sets the status of the job and changes nothing else. -/
theorem perform_updateStatus {errMsg : String} {value : Unit}
    (performed : perform env db c (.updateStatus id status errMsg) = .ok (db', value)) :
    db' = { db with jobs := db'.jobs } ∧ ∃ job, db.jobs.get? id = some job ∧ ∀ j, db'.jobs.get? j =
        if j = id then some (setStatus c.now status errMsg job) else db.jobs.get? j := by
  simp only [perform] at performed
  split at performed
  next jobs updated =>
    cases performed
    obtain ⟨job, found⟩ := (Table.update_eq updated).2
    refine ⟨rfl, job, found, fun j => ?_⟩
    rw [Table.get?_update updated, found, Option.map_some]
  · cases performed

include performed in
/-- A request stays as it is, is created, or was open and is decided or expired. -/
theorem perform_approval (id : String) :
    Table.RowStep (fun req => q = .createApproval req)
      (fun req req' =>
        (∃ state decidedBy decidedAt note, q = .decidePending id state decidedBy decidedAt note ∧
          req.state = .pending ∧ req' = settle state decidedBy decidedAt note c.now req) ∨
        ∃ before, q = .expireStale before ∧ req.state = .pending ∧ req.createdAt ≤ before ∧
          req' = settle .expired "system-reaper" c.now (some expiryNote) c.now req)
      (db.approvals.get? id) (db'.approvals.get? id) := by
  cases q with
  | createApproval new =>
    obtain ⟨-, performed⟩ := of_else performed nofun
    split at performed
    next approvals inserted =>
      cases performed
      refine .of_appended (Table.insert_rows inserted).1 (fun req added => ?_)
      cases List.mem_singleton.mp added
      rfl
    · cases performed
  | decidePending target state decidedBy decidedAt note =>
    cases performed
    refine .of_updateWhere (settle_id _ _ _ _ _) (fun req found hit => ?_)
    obtain ⟨rfl, isOpen⟩ : req.id = target ∧ req.state = .pending := by simpa [DB.isOpen] using hit
    have keyed : req.id = id := Table.get?_key found
    exact .inl ⟨state, decidedBy, decidedAt, note, by rw [keyed], isOpen, rfl⟩
  | expireStale before =>
    cases performed
    refine .of_updateWhere (settle_id _ _ _ _ _) (fun req _ hit => ?_)
    obtain ⟨isOpen, old⟩ : req.state = .pending ∧ req.createdAt ≤ before := by
      simpa [DB.isStale] using hit
    exact .inr ⟨before, rfl, isOpen, old, rfl⟩
  | _ =>
    rw [(perform_frame performed).1 rfl]
    exact .same

section Jobs

variable {locked : List String} {job : Job}

theorem mem_claimable {jobType : Option JobType} {limit : Int}
    (member : job ∈ db.claimable locked jobType limit) :
    job ∈ db.jobs.rows ∧ job.status = .pending := by
  have kept : job ∈ orderBy Job.scheduledAt (db.jobs.rows.filter (fun job =>
      decide (job.status = .pending) && !db.agentBound job &&
        jobType.all (fun t => decide (job.type = t)) && !locked.contains job.id)) := by
    unfold DB.claimable at member
    split at member
    · exact List.mem_of_mem_take member
    · exact member
  rw [orderBy, List.mem_insertionSort, List.mem_filter] at kept
  simp only [Bool.and_eq_true, decide_eq_true_eq] at kept
  exact ⟨kept.1, kept.2.1.1.1⟩

theorem mem_agentClaimable {agentID : String} (member : job ∈ db.agentClaimable locked agentID) :
    job ∈ db.jobs.rows ∧ job.status = .pending := by
  simp only [DB.agentClaimable, orderBy, List.mem_append, List.mem_insertionSort, List.mem_filter,
    Bool.and_eq_true, decide_eq_true_eq] at member
  rcases member with ⟨row, ⟨⟨_, isPending⟩, _⟩, _⟩ | ⟨row, ⟨⟨⟨_, isPending⟩, _⟩, _⟩, _⟩
  · exact ⟨row, isPending⟩
  · exact ⟨row, isPending⟩

theorem nodup_filter_ids (p : Job → Bool) (key : Job → Time) :
    ((orderBy key (db.jobs.rows.filter p)).map Job.id).Nodup := by
  rw [orderBy, ((List.perm_insertionSort _ _).map Job.id).nodup_iff]
  exact db.jobs.unique.sublist (List.filter_sublist.map Job.id)

theorem claimable_nodup (locked : List String) (jobType : Option JobType) (limit : Int) :
    ((db.claimable locked jobType limit).map Job.id).Nodup := by
  unfold DB.claimable
  split
  · exact (nodup_filter_ids _ _).sublist ((List.take_sublist _ _).map Job.id)
  · exact nodup_filter_ids _ _

/-- The two branches have no row in common: the agent column tells them apart. -/
theorem agentClaimable_nodup (locked : List String) (agentID : String) :
    ((db.agentClaimable locked agentID).map Job.id).Nodup := by
  unfold DB.agentClaimable
  rw [List.map_append, List.nodup_append]
  refine ⟨nodup_filter_ids _ _, nodup_filter_ids _ _, ?_⟩
  intro id direct id' fallback same
  subst same
  simp only [orderBy, List.mem_map, List.mem_insertionSort, List.mem_filter, Bool.and_eq_true,
    decide_eq_true_eq] at direct fallback
  obtain ⟨job, ⟨row, ⟨⟨bound, -⟩, -⟩, -⟩, rfl⟩ := direct
  obtain ⟨job', ⟨row', ⟨⟨⟨unbound, -⟩, -⟩, -⟩, -⟩, same⟩ := fallback
  have found := Table.get?_of_mem row
  rw [← same, Table.get?_of_mem row'] at found
  cases found
  rw [bound] at unbound
  cases unbound

variable {id : String} {row : Job}

/-- What a claim of pending rows leaves of a job. -/
theorem get?_claim {taken : List Job} (now : Time)
    (rows : ∀ job ∈ taken, job ∈ db.jobs.rows ∧ job.status = .pending)
    (distinct : (taken.map Job.id).Nodup) (found : db.jobs.get? id = some row) :
    ∃ row', (db.claim now (taken.map Job.id)).jobs.get? id = some row' ∧
      (((db.claim now (taken.map Job.id)).claimed.count id = db.claimed.count id ∧ row' = row) ∨
      ((db.claim now (taken.map Job.id)).claimed.count id = db.claimed.count id + 1 ∧
        row.status = .pending ∧ row' = markClaimed now row)) := by
  have keyed : row.id = id := Table.get?_key found
  refine ⟨_, by rw [DB.claim, Table.get?_updateWhere, found, Option.map_some], ?_⟩
  simp only [DB.claim, keyed, List.count_append]
  by_cases member : id ∈ taken.map Job.id
  · obtain ⟨job, isTaken, same⟩ := List.mem_map.mp member
    have again : db.jobs.get? id = some job := same ▸ Table.get?_of_mem (rows job isTaken).1
    rw [found] at again
    cases again
    refine .inr ⟨by rw [List.count_eq_one_of_mem distinct member], (rows row isTaken).2, ?_⟩
    rw [if_pos (by simpa using member)]
  · refine .inl ⟨by rw [List.count_eq_zero_of_not_mem member, Nat.add_zero], ?_⟩
    rw [if_neg (by simpa using member)]

include performed in
/-- A stored job stays as it is, gets a new status, is overwritten, or is claimed; the claims
of a job are counted. -/
theorem perform_job_counted (found : db.jobs.get? id = some row) :
    ∃ row', db'.jobs.get? id = some row' ∧
      ((db'.claimed.count id = db.claimed.count id ∧ (row' = row ∨
        (∃ status errMsg, q = .updateStatus id status errMsg ∧
          row' = setStatus c.now status errMsg row) ∨
        ∃ image : Job, q = .updateJob image ∧ image.id = id ∧ row' = overwrite image row)) ∨
      (db'.claimed.count id = db.claimed.count id + 1 ∧ q.isClaim = true ∧ row.status = .pending ∧
        row' = markClaimed c.now row)) := by
  obtain ⟨-, jobs, -, claimed, -⟩ := perform_frame performed
  cases q with
  | createJob job =>
    simp only [perform] at performed
    split at performed
    next jobs inserted =>
      cases performed
      exact ⟨row, Table.get?_mono (Table.insert_rows inserted).1 found, .inl ⟨rfl, .inl rfl⟩⟩
    · cases performed
  | updateJob image =>
    simp only [perform] at performed
    split at performed
    next jobs updated =>
      cases performed
      simp only [Table.get?_update updated]
      by_cases same : id = image.id
      · subst same
        exact ⟨_, by simp [found], .inl ⟨trivial, .inr (.inr ⟨image, rfl, rfl, rfl⟩)⟩⟩
      · exact ⟨row, by simp [same, found], .inl ⟨trivial, .inl rfl⟩⟩
    · cases performed
  | updateStatus target status errMsg =>
    obtain ⟨-, job, present, after⟩ := perform_updateStatus performed
    rw [after, claimed rfl]
    by_cases same : id = target
    · subst same
      rw [found] at present
      cases present
      exact ⟨_, if_pos rfl, .inl ⟨rfl, .inr (.inl ⟨status, errMsg, rfl, rfl⟩)⟩⟩
    · exact ⟨row, by simp [same, found], .inl ⟨rfl, .inl rfl⟩⟩
  | claimPendingJobs jobType limit =>
    cases performed
    obtain ⟨row', found', way⟩ :=
      get?_claim c.now (fun _ => mem_claimable) (claimable_nodup ..) found
    exact ⟨row', found', way.imp (fun same => ⟨same.1, .inl same.2⟩) fun taken =>
      ⟨taken.1, rfl, taken.2⟩⟩
  | claimPendingByAgentID agentID =>
    cases performed
    obtain ⟨row', found', way⟩ :=
      get?_claim c.now (fun _ => mem_agentClaimable) (agentClaimable_nodup ..) found
    exact ⟨row', found', way.imp (fun same => ⟨same.1, .inl same.2⟩) fun taken =>
      ⟨taken.1, rfl, taken.2⟩⟩
  | _ =>
    rw [jobs rfl, claimed rfl]
    exact ⟨row, found, .inl ⟨rfl, .inl rfl⟩⟩

include performed in
theorem perform_job (found : db.jobs.get? id = some row) :
    ∃ row', db'.jobs.get? id = some row' ∧ (row' = row ∨
      (∃ status errMsg, q = .updateStatus id status errMsg ∧
        row' = setStatus c.now status errMsg row) ∨
      (∃ image : Job, q = .updateJob image ∧ image.id = id ∧ row' = overwrite image row) ∨
      (q.isClaim = true ∧ row.status = .pending ∧ row' = markClaimed c.now row)) := by
  obtain ⟨row', found', ⟨-, same | written | overwritten⟩ | ⟨-, claimed⟩⟩ :=
    perform_job_counted performed found
  · exact ⟨row', found', .inl same⟩
  · exact ⟨row', found', .inr (.inl written)⟩
  · exact ⟨row', found', .inr (.inr (.inl overwritten))⟩
  · exact ⟨row', found', .inr (.inr (.inr claimed))⟩

include performed in
theorem perform_claimed_absent (absent : db.jobs.get? id = none) :
    db'.claimed.count id = db.claimed.count id := by
  have untaken : ∀ taken : List Job, (∀ job ∈ taken, job ∈ db.jobs.rows ∧ job.status = .pending) →
      (db.claimed ++ taken.map Job.id).count id = db.claimed.count id := by
    intro taken rows
    have notTaken : id ∉ taken.map Job.id := by
      intro member
      obtain ⟨job, isTaken, same⟩ := List.mem_map.mp member
      exact Table.get?_eq_none_iff.mp absent job (rows job isTaken).1 same
    rw [List.count_append, List.count_eq_zero_of_not_mem notTaken, Nat.add_zero]
  cases q with
  | claimPendingJobs =>
    cases performed
    exact untaken _ fun _ => mem_claimable
  | claimPendingByAgentID =>
    cases performed
    exact untaken _ fun _ => mem_agentClaimable
  | _ => rw [(perform_frame performed).2.2.2.1 rfl]

include performed in
theorem perform_job_new (absent : db.jobs.get? id = none)
    (found : db'.jobs.get? id = some row) : q = .createJob row := by
  cases q with
  | createJob job =>
    simp only [perform] at performed
    split at performed
    next jobs inserted =>
      cases performed
      rw [Table.get?_insert inserted] at found
      split at found
      · cases found
        rfl
      · rw [absent] at found
        cases found
    · cases performed
  | updateJob | updateStatus =>
    simp only [perform] at performed
    split at performed
    next jobs updated =>
      cases performed
      obtain ⟨rfl, -⟩ := Table.update_eq updated
      simp [Table.get?_updateWhere, absent] at found
    · cases performed
  | claimPendingJobs | claimPendingByAgentID =>
    cases performed
    simp [DB.claim, Table.get?_updateWhere, absent] at found
  | _ =>
    rw [(perform_frame performed).2.1 rfl, absent] at found
    cases found

include performed in
/-- The list of inserted jobs grows with the table. -/
theorem perform_created :
    db'.created = db.created ∨
    ∃ job, q = .createJob job ∧ db'.created = db.created ++ [job] ∧ db.jobs.get? job.id = none ∧
      db'.jobs.get? job.id = some job := by
  cases q with
  | createJob job =>
    simp only [perform] at performed
    split at performed
    next jobs inserted =>
      cases performed
      refine .inr ⟨job, rfl, rfl, (Table.insert_rows inserted).2, ?_⟩
      simp [Table.get?_insert inserted]
    · cases performed
  | _ => exact .inl ((perform_frame performed).2.2.2.2.1 (by simp))

end Jobs

section Certificates

/-- The row a certificate write puts in place. -/
def Query.certImage : Query → Option ManagedCertificate
  | .updateCertificate image | .commitRenewal _ image | .commitRevocation image _ => some image
  | _ => none

def Op.certImage : Op → Option ManagedCertificate
  | .query q => q.certImage
  | _ => none

theorem certImage_of_read {o : Op} (read : o.isWrite = false) : o.certImage = none := by
  cases o with
  | query q => cases q <;> first | rfl | cases read
  | _ => rfl

include performed in
/-- A stored certificate stays as it is, or is replaced as a whole. -/
theorem perform_cert (id : String) :
    db'.inventory.get id = db.inventory.get id ∨
    ∃ image, q.certImage = some image ∧ image.id = id ∧ (db.inventory.get id).isSome = true ∧
      db'.inventory.get id = some image := by
  cases q with
  | updateCertificate image | commitRevocation image row =>
    simp only [perform] at performed
    split at performed
    next inventory updated =>
      cases performed
      exact (Inventory.get_update updated id).imp_right fun written => ⟨image, rfl, written⟩
    · cases performed
  | createVersion version =>
    simp only [perform] at performed
    split at performed
    next inventory created =>
      cases performed
      exact .inl (Inventory.get_createVersion created id)
    · cases performed
  | commitRenewal version image =>
    simp only [perform] at performed
    split at performed
    · cases performed
    next stored created =>
      split at performed
      next inventory updated =>
        cases performed
        rw [← Inventory.get_createVersion created id]
        exact (Inventory.get_update updated id).imp_right fun written => ⟨image, rfl, written⟩
      · cases performed
  | _ =>
    left
    rw [(perform_frame performed).2.2.1 rfl]

theorem getCertificate_ok {id : String} {found : ManagedCertificate × List String}
    (returned : (execQuery env db (.getCertificate id) c).2 = .ok found) :
    db.inventory.get id = some found.1 := by
  obtain ⟨_, performed, -⟩ := execQuery_ok returned
  simp only [perform] at performed
  split at performed
  next cert present =>
    cases performed
    exact present
  · cases performed

theorem getExpiringCertificates_ok {before : Time} {certs : List ManagedCertificate}
    (returned : (execQuery env db (.getExpiringCertificates before) c).2 = .ok certs) :
    (∀ cert ∈ certs, db.inventory.get cert.id = some cert) := by
  obtain ⟨_, ⟨⟩, -⟩ := execQuery_ok returned
  intro cert listed
  rw [orderBy, List.mem_insertionSort, List.mem_filter] at listed
  exact Table.get?_of_mem listed.1

end Certificates

section Runs

variable {choices : Nat → Choice} {n : Nat}

/-- One call by itself, from its place in the choices on. -/
abbrev runCall (env : Env) (choices : Nat → Choice) (n : Nat) (p : Service) (db : DB) :
    DB × Reply :=
  p.run (exec env) choices n db

theorem runCall_query {q : Query} {next : Except RepoError q.Value → Service}
    {r : Except RepoError q.Value} (result : execQuery env db q (choices n) = (db', r)) :
    runCall env choices n (query q next) db = runCall env choices (n + 1) (next r) db' := by
  have store : (execQuery env db q (choices n)).1 = db' := by rw [result]
  have value : (execQuery env db q (choices n)).2 = r := by rw [result]
  subst store value
  rfl

theorem runCall_now :
    runCall env choices n (.op .now next) db =
      runCall env choices (n + 1) (next (choices n).now) db := rfl

theorem runCall_newID {next : String → Service} :
    runCall env choices n (.op .newID next) db =
      runCall env choices (n + 1) (next (choices n).id) db := rfl

theorem execQuery_of_ok (sound : c.fault = none)
    (performed : perform env db c q = .ok (db', value)) :
    execQuery env db q c = (db', .ok value) := by
  simp only [execQuery, sound, performed]

theorem execQuery_of_error {q : Query} {e : RepoError} (sound : c.fault = none)
    (performed : perform env db c q = .error e) : execQuery env db q c = (db, .error e) := by
  simp only [execQuery, sound, performed]

end Runs

section Within

variable {γ : Type} {rely : DB → DB → Prop}
  {may : γ → List (Event Op.Result) → DB → (o : Op) → Choice → Prop}
  {post : γ → Reply → List (Event Op.Result) → DB → Prop} {call : γ} {log : List (Event Op.Result)}

/-- A repository call is within the relation if its write is and so is the rest, for what
it may return. -/
theorem within_query {q : Query} {next : Except RepoError q.Value → Service}
    (holds : ∀ s c, rely db s → may call log s (.query q) c →
      rely s (execQuery env s q c).1 ∧ ∀ r, (execQuery env s q c).2 = r →
        Within (exec env) rely may post call (next r) (⟨.query q, r⟩ :: log)
          (execQuery env s q c).1) :
    Within (exec env) rely may post call (query q next) log db := by
  intro s c moved allowed
  obtain ⟨stays, rest⟩ := holds s c moved allowed
  exact ⟨stays, rest _ rfl⟩

/-- A read: the rest is looked at from the store it read. -/
theorem within_read {q : Query} (read : q.isWrite = false) (refl : ∀ s, rely s s)
    {next : Except RepoError q.Value → Service}
    (holds : ∀ s c r, rely db s → may call log s (.query q) c → (execQuery env s q c).2 = r →
      Within (exec env) rely may post call (next r) (⟨.query q, r⟩ :: log) s) :
    Within (exec env) rely may post call (query q next) log db := by
  refine within_query fun s c moved allowed => ?_
  have same : (execQuery env s q c).1 = s := exec_of_read (o := .query q) read
  rw [same]
  exact ⟨refl s, fun r returned => holds s c r moved allowed returned⟩

theorem within_now (refl : ∀ s, rely s s) (holds : ∀ s t, rely db s →
      Within (exec env) rely may post call (next t) (⟨.now, t⟩ :: log) s) :
    Within (exec env) rely may post call (.op .now next) log db := by
  intro s c moved _
  exact ⟨refl s, holds s c.now moved⟩

end Within

end Certctl.Source.Jobs

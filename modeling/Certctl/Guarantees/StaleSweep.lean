import Certctl.Guarantees.JobSamples
import Certctl.Source.Jobs.Decisions
import Certctl.Source.Jobs.Footprints

/-!
The sweep of stale approval requests beside approvals and rejections. The sweep lists the
open requests, at most 500 of them, expires by a statement of its own whatever is stale by
then, and cancels the jobs of those it has listed. The discipline keeps the two sets
together; it looks at the store when the sweep lists and when it expires.
-/
namespace Certctl.Guarantees.StaleSweep

open Lib Source Source.Jobs

inductive SweepCall where
  | approve (requestID decidedBy note : String)
  | reject (requestID decidedBy note : String)
  | expireStale (before : Time)

def sweepBody (env : Env) : SweepCall → Service
  | .approve requestID decidedBy note => approve env requestID decidedBy note
  | .reject requestID decidedBy note => reject requestID decidedBy note
  | .expireStale before => expireStale before

abbrev SweepPool := Pool Op.Result DB Reply SweepCall

def sweepStep (env : Env) : SweepPool → Move SweepCall Choice → Option SweepPool :=
  poolStep (exec env) (sweepBody env)

/-- A job is linked to one request only. -/
def OneRequestPerJob (db : DB) : Prop :=
  ∀ id id' req req', db.approvals.get? id = some req → db.approvals.get? id' = some req' →
    req.jobID = req'.jobID → (db.jobs.get? req.jobID).isSome → id = id'

def SweepInit (s : SweepPool) : Prop := s.tasks = [] ∧ OneRequestPerJob s.store

/-- The job is Cancelled, if there is one. -/
def jobCancelled (db : DB) (jobID : String) : Bool :=
  (db.jobs.get? jobID).all (fun job => decide (job.status = .cancelled))

/-- No sweep is halfway: the jobs of expired requests are cancelled. -/
def swept (db : DB) : Bool :=
  db.approvals.rows.all (fun req => decide (req.state ≠ .expired) || jobCancelled db req.jobID)

/-- The requests a sweep has listed. -/
def listed : List (Event Op.Result) → List ApprovalRequest
  | [] => []
  | ⟨.query (.listPendingApprovals _), .ok reqs⟩ :: _ => reqs
  | _ :: log => listed log

/-- A sweep lists while no other one is halfway and the open requests fit its page; none it
has found stale is approved when it expires; its job updates do not fail. -/
def sweepMay : SweepCall → List (Event Op.Result) → DB → Op → Choice → Bool
  | .expireStale _, _, db, .query (.listPendingApprovals _), _ =>
    swept db && decide (db.approvals.rows.countP (fun req => decide (req.state = .pending)) ≤ 500)
  | .expireStale before, log, db, .query (.expireStale _), _ =>
    (listed log).all (fun req => decide (before < req.createdAt) ||
      (db.approvals.get? req.id).all (fun row => decide (row.state ≠ .approved)))
  | .expireStale _, _, _, .query (.updateStatus ..), c => c.fault.isNone
  | _, _, _, _, _ => true

/-- What a sweep without error owes. Of the requests that were open when it began, those no
one has approved or rejected are expired with their jobs cancelled, and a job it has
cancelled is not that of an approved request. -/
def SweepSound (before : Time) (s₀ s₁ : SweepPool) (i : Nat) : Prop :=
  ∀ log reply, s₁.tasks[i]? = some ⟨.expireStale before, log, .done reply⟩ →
    (∀ message, reply ≠ .error message) →
    (∀ id req req', s₀.store.approvals.get? id = some req → req.state = .pending →
      req.createdAt < before → s₁.store.approvals.get? id = some req' →
      req'.state ≠ .approved → req'.state ≠ .rejected →
      req'.state = .expired ∧ jobCancelled s₁.store req'.jobID = true) ∧
    (∀ jobID errMsg r, ⟨.query (.updateStatus jobID .cancelled errMsg), r⟩ ∈ log →
      ∀ id req, s₁.store.approvals.get? id = some req → req.jobID = jobID →
        req.state = .approved → s₁.store.jobs.get? jobID = none)

section Rely

/-- What happens to the requests and their jobs while a sweep is under way. -/
structure SweepRely (db db' : DB) : Prop where
  kept : RequestsKept db db'
  known : ∀ id req', db'.approvals.get? id = some req' → ∃ req, db.approvals.get? id = some req
  jobs : ∀ jobID, (db'.jobs.get? jobID).isSome → (db.jobs.get? jobID).isSome
  stays : ∀ id req, db.approvals.get? id = some req → req.state = .expired →
    jobCancelled db req.jobID = true → jobCancelled db' req.jobID = true

theorem SweepRely.refl (db : DB) : SweepRely db db :=
  ⟨.refl db, fun _ req found => ⟨req, found⟩, fun _ present => present, fun _ _ _ _ same => same⟩

theorem SweepRely.trans (a b c : DB) (first : SweepRely a b) (second : SweepRely b c) :
    SweepRely a c := by
  refine ⟨first.kept.trans second.kept, ?_, ?_, ?_⟩
  · intro id req'' found
    obtain ⟨req', found'⟩ := second.known id req'' found
    exact first.known id req' found'
  · exact fun jobID present => first.jobs jobID (second.jobs jobID present)
  · intro id req found expired cancelled
    obtain ⟨req', found', progress⟩ := first.kept id req found
    rw [progress.settled (by simp [expired])] at found'
    exact second.stays id req found' expired (first.stays id req found expired cancelled)

theorem OneRequestPerJob.stable (db db' : DB) (moved : SweepRely db db')
    (one : OneRequestPerJob db) : OneRequestPerJob db' := by
  intro id id' req req' found found' same present
  obtain ⟨old, before⟩ := moved.known id req found
  obtain ⟨old', before'⟩ := moved.known id' req' found'
  obtain ⟨now, foundNow, progress⟩ := moved.kept id old before
  obtain ⟨now', foundNow', progress'⟩ := moved.kept id' old' before'
  rw [found] at foundNow
  rw [found'] at foundNow'
  cases foundNow
  cases foundNow'
  rw [progress.jobID] at same present
  rw [progress'.jobID] at same
  exact one id id' old old' before before' same (moved.jobs _ present)

/-- Reads, decisions, profile updates and cancellations. -/
def Mild : Op → Prop
  | .query (.updateStatus _ status _) => status = .cancelled
  | .query (.decidePending ..) | .query (.expireStale _) | .query (.updateProfile _) => True
  | o => o.isWrite = false

variable {env : Env}

theorem perform_cancels {db db' : DB} {c : Choice} {id errMsg : String} {value : Unit}
    (performed : perform env db c (.updateStatus id .cancelled errMsg) = .ok (db', value))
    (jobID : String) :
    ((db'.jobs.get? jobID).isSome → (db.jobs.get? jobID).isSome) ∧
    (jobCancelled db jobID = true → jobCancelled db' jobID = true) := by
  obtain ⟨-, job, found, jobs⟩ := perform_updateStatus performed
  unfold jobCancelled
  rw [jobs]
  by_cases same : jobID = id
  · subst same
    simp [found, setStatus]
  · simp [same]

theorem sweepRely_of_mild (o : Op) (mild : Mild o) (db : DB) (c : Choice) :
    SweepRely db (exec env db o c).1 := by
  refine exec_rely SweepRely (.refl db) o ?_
  intro q db' value isQuery performed
  subst isQuery
  have jobs : ∀ jobID, ((db'.jobs.get? jobID).isSome → (db.jobs.get? jobID).isSome) ∧
      (jobCancelled db jobID = true → jobCancelled db' jobID = true) := by
    intro jobID
    by_cases writes : q.writesJobs = true
    · cases q with
      | updateStatus id status errMsg =>
        obtain rfl : status = .cancelled := mild
        exact perform_cancels performed jobID
      | _ => first | (cases writes; done) | cases mild
    · unfold jobCancelled
      rw [(perform_frame performed).2.1 (by simpa using writes)]
      exact ⟨id, id⟩
  refine ⟨perform_requestsKept performed, ?_, fun jobID => (jobs jobID).1,
    fun _ req _ _ => (jobs req.jobID).2⟩
  intro id req' found'
  cases found : db.approvals.get? id with
  | some req => exact ⟨req, rfl⟩
  | none =>
    rw [(perform_approval performed id).absent found found'] at mild
    cases mild

/-- The job of an approved request goes on: it is not that of an expired one. -/
theorem sweepRely_of_approved {requestID decidedBy jobID : String} {db : DB} (c : Choice)
    (one : OneRequestPerJob db) (granted : DecidedAs requestID .approved decidedBy jobID db) :
    SweepRely db (exec env db (.query (.updateStatus jobID .pending "")) c).1 := by
  refine exec_rely SweepRely (.refl db) _ ?_
  intro q db' value isQuery performed
  cases isQuery
  obtain ⟨frame, job, present, jobs⟩ := perform_updateStatus performed
  refine ⟨perform_requestsKept performed, ?_, ?_, ?_⟩
  · intro id req' found
    rw [frame] at found
    exact ⟨req', found⟩
  · intro j exists_
    rw [jobs] at exists_
    split at exists_
    next same => rw [same, present, Option.isSome_some]
    next => exact exists_
  · intro id req found expired cancelled
    unfold jobCancelled at cancelled ⊢
    rw [jobs]
    split
    next same =>
      obtain ⟨approved, found', state, -, -, linked⟩ := granted
      have equal := one id requestID req approved found found' (by rw [same, linked])
        (by rw [same, present, Option.isSome_some])
      subst equal
      rw [found] at found'
      cases found'
      rw [expired] at state
      cases state
    next => exact cancelled

end Rely

section Sweep

variable {env : Env} {before : Time} {s₀ : DB}

/-- The call may take its step. -/
abbrev Allowed (call : SweepCall) (log : List (Event Op.Result)) (db : DB) (o : Op) (c : Choice) :
    Prop := sweepMay call log db o c = true

/-- The request needs nothing more from the sweep. -/
def Finished (id jobID : String) (db : DB) : Prop :=
  ∃ row, db.approvals.get? id = some row ∧ row.jobID = jobID ∧
    (row.state = .approved ∨ row.state = .rejected ∨
      row.state = .expired ∧ jobCancelled db jobID = true)

/-- The request is expired. -/
def Expired (id jobID : String) (db : DB) : Prop :=
  ∃ row, db.approvals.get? id = some row ∧ row.jobID = jobID ∧ row.state = .expired

/-- Some request for the job was decided and not approved. -/
def Denied (jobID : String) (db : DB) : Prop :=
  ∃ id row, db.approvals.get? id = some row ∧ row.jobID = jobID ∧
    (row.state = .rejected ∨ row.state = .expired)

variable {db : DB} {id jobID : String} {db' : DB} {c : Choice}

theorem decided_stays (moved : SweepRely db db') {row : ApprovalRequest}
    (found : db.approvals.get? id = some row) (closed : row.state ≠ .pending) :
    db'.approvals.get? id = some row := by
  obtain ⟨row', found', progress⟩ := moved.kept id row found
  rw [found', progress.settled closed]

theorem Finished.stable (finished : Finished id jobID db)
    (moved : SweepRely db db') : Finished id jobID db' := by
  obtain ⟨row, found, linked, state⟩ := finished
  refine ⟨row, decided_stays moved found ?_, linked, ?_⟩
  · rcases state with state | state | ⟨state, -⟩ <;> simp [state]
  · rcases state with approved | rejected | ⟨expired, cancelled⟩
    · exact .inl approved
    · exact .inr (.inl rejected)
    · rw [← linked] at cancelled ⊢
      exact .inr (.inr ⟨expired, moved.stays id row found expired cancelled⟩)

theorem Expired.stable (expired : Expired id jobID db)
    (moved : SweepRely db db') : Expired id jobID db' := by
  obtain ⟨row, found, linked, state⟩ := expired
  exact ⟨row, decided_stays moved found (by simp [state]), linked, state⟩

theorem Denied.stable (denied : Denied jobID db) (moved : SweepRely db db') : Denied jobID db' := by
  obtain ⟨id, row, found, linked, state⟩ := denied
  refine ⟨id, row, decided_stays moved found ?_, linked, state⟩
  rcases state with state | state <;> simp [state]

/-- The request was open when the sweep began, and stale. -/
def Owed (before : Time) (s₀ : DB) (id : String) (req : ApprovalRequest) : Prop :=
  s₀.approvals.get? id = some req ∧ req.state = .pending ∧ req.createdAt < before

def LogDenied (log : List (Event Op.Result)) (db : DB) : Prop :=
  ∀ jobID errMsg r, ⟨.query (.updateStatus jobID .cancelled errMsg), r⟩ ∈ log → Denied jobID db

theorem LogDenied.stable {log : List (Event Op.Result)} (logged : LogDenied log db)
    (moved : SweepRely db db') : LogDenied log db' :=
  fun jobID errMsg r member => (logged jobID errMsg r member).stable moved

/-- What the sweep promises with its reply. -/
def SweepPromise (before : Time) (s₀ : DB) (_ : SweepCall) (reply : Reply)
    (log : List (Event Op.Result)) (db : DB) : Prop :=
  ((∀ message, reply ≠ .error message) → ∀ id req, Owed before s₀ id req →
    Finished id req.jobID db) ∧ LogDenied log db

theorem SweepPromise.stable (call : SweepCall) (reply : Reply) (log : List (Event Op.Result))
    (db db' : DB) (promise : SweepPromise before s₀ call reply log db) (moved : SweepRely db db') :
    SweepPromise before s₀ call reply log db' :=
  ⟨fun fine id req owed => (promise.1 fine id req owed).stable moved, promise.2.stable moved⟩

/-- A cancellation that does not fail leaves the job Cancelled, if there is one. -/
theorem jobCancelled_of_cancel {errMsg : String} (sound : c.fault = none) :
    jobCancelled (execQuery env db (.updateStatus jobID .cancelled errMsg) c).1 jobID = true := by
  unfold jobCancelled
  obtain ⟨db', value, -, performed, result⟩ | ⟨db', value, cause, e, fault, performed, result⟩ |
    ⟨e, ⟨cause, fault⟩ | ⟨e', missing⟩, result⟩ :=
    execQuery_outcome env db (.updateStatus jobID .cancelled errMsg) c
  · obtain ⟨-, job, -, jobs⟩ := perform_updateStatus performed
    rw [result]
    simp [jobs, setStatus]
  · rw [sound] at fault
    cases fault
  · rw [sound] at fault
    cases fault
  · rw [result]
    cases found : db.jobs.get? jobID with
    | none => rfl
    | some job =>
      simp only [perform, Table.update, found, Option.isSome_some, if_true] at missing
      cases missing

theorem cancelExpired_within (count : Nat) (stale : List ApprovalRequest)
    (log : List (Event Op.Result)) (db : DB)
    (owed : ∀ id req, Owed before s₀ id req → Finished id req.jobID db ∨
      Expired id req.jobID db ∧ ∃ r ∈ stale, r.jobID = req.jobID)
    (denied : ∀ r ∈ stale, Denied r.jobID db) (logged : LogDenied log db) :
    Within (exec env) SweepRely Allowed (SweepPromise before s₀) (.expireStale before)
      (cancelExpired (.count count) stale) log db := by
  induction stale generalizing log db with
  | nil =>
    refine ⟨fun _ id req isOwed => ?_, logged⟩
    rcases owed id req isOwed with finished | ⟨-, r, member, -⟩
    · exact finished
    · cases member
  | cons r rest ih =>
    refine within_query fun s c moved allowed => ?_
    have sound : c.fault = none := by simpa [Allowed, sweepMay] using allowed
    have stays : SweepRely s (execQuery env s (.updateStatus r.jobID .cancelled
        "approval expired: timed out without review") c).1 :=
      sweepRely_of_mild (.query (.updateStatus r.jobID .cancelled _)) rfl s c
    have after := moved.trans _ _ _ stays
    refine ⟨stays, fun result _ => ih _ _ ?_ ?_ ?_⟩
    · intro id req isOwed
      rcases owed id req isOwed with finished | ⟨expired, r', member, linked⟩
      · exact .inl (finished.stable after)
      · rcases List.mem_cons.mp member with rfl | later
        · -- The job of this one has just been cancelled.
          obtain ⟨row, found, job, state⟩ := expired.stable after
          refine .inl ⟨row, found, job, .inr (.inr ⟨state, ?_⟩)⟩
          rw [← linked]
          exact jobCancelled_of_cancel sound
        · exact .inr ⟨expired.stable after, r', later, linked⟩
    · exact fun r' member => (denied r' (List.mem_cons_of_mem r member)).stable after
    · intro jobID errMsg result' member
      rcases List.mem_cons.mp member with now | earlier
      · simp only [Event.mk.injEq, Op.query.injEq, Query.updateStatus.injEq] at now
        rw [now.1.1]
        exact (denied r List.mem_cons_self).stable after
      · exact (logged jobID errMsg result' earlier).stable after

/-- While the open requests fit the page, the list has all of them. -/
theorem mem_listPending {pending : List ApprovalRequest}
    (fits : db.approvals.rows.countP (fun req => decide (req.state = .pending)) ≤ 500)
    (returned : (execQuery env db (.listPendingApprovals 500) c).2 = .ok pending)
    (req : ApprovalRequest) :
    req ∈ pending ↔ db.approvals.get? req.id = some req ∧ req.state = .pending := by
  obtain ⟨_, ⟨⟩, -⟩ := execQuery_ok returned
  have whole : (orderByDesc ApprovalRequest.createdAt (db.approvals.rows.filter (fun req =>
      decide (req.state = .pending)))).length ≤ pageSize 500 := by
    rw [orderByDesc, List.length_insertionSort, ← List.countP_eq_length_filter]
    exact fits
  rw [List.take_of_length_le whole, orderByDesc, List.mem_insertionSort, List.mem_filter,
    decide_eq_true_eq, Table.get?_eq_some_iff]
  simp

/-- What the bulk update leaves of a request the sweep has found stale. -/
theorem expired_or_rejected {count : Nat} {req row : ApprovalRequest}
    (returned : (execQuery env db (.expireStale before) c).2 = .ok count)
    (found : db.approvals.get? req.id = some row) (progress : Progress req row)
    (stale : req.createdAt ≤ before) (notApproved : row.state ≠ .approved) :
    ∃ row', (execQuery env db (.expireStale before) c).1.approvals.get? req.id = some row' ∧
      row'.jobID = req.jobID ∧ (row'.state = .rejected ∨ row'.state = .expired) := by
  obtain ⟨_, ⟨⟩, store⟩ := execQuery_ok returned
  rw [store, DB.settleWhere, Table.get?_updateWhere, found, Option.map_some]
  have created : row.createdAt = req.createdAt := by rw [progress.columns]
  refine ⟨_, rfl, ?_⟩
  by_cases hit : DB.isStale before row = true
  · rw [if_pos hit]
    exact ⟨progress.jobID, .inr rfl⟩
  · rw [if_neg hit]
    refine ⟨progress.jobID, ?_⟩
    have closed : row.state ≠ .pending := by
      simpa [DB.isStale, created, stale] using hit
    cases state : row.state with
    | pending => exact absurd state closed
    | approved => exact absurd state notApproved
    | rejected => exact .inl rfl
    | expired => exact .inr rfl

theorem expireStale_within (before : Time) (s₀ : DB) :
    Within (exec env) SweepRely Allowed (SweepPromise before s₀) (.expireStale before)
      (expireStale before) [] s₀ := by
  refine within_read rfl SweepRely.refl fun s c r moved allowed returned => ?_
  have nothing : LogDenied [⟨.query (.listPendingApprovals 500), r⟩] s := by
    intro jobID errMsg r' member
    simp at member
  cases r with
  | error e => exact ⟨fun fine => absurd rfl (fine _), nothing⟩
  | ok pending =>
    obtain ⟨noneHalfway, fits⟩ : swept s = true ∧
        s.approvals.rows.countP (fun req => decide (req.state = .pending)) ≤ 500 := by
      simpa [Allowed, sweepMay] using allowed
    have complete := mem_listPending fits returned
    have owed : ∀ id req, Owed before s₀ id req → Finished id req.jobID s ∨
        ∃ r ∈ pending.filter (fun req => decide (req.createdAt ≤ before)),
          r.id = id ∧ r.jobID = req.jobID := by
      rintro id req ⟨found, -, stale⟩
      obtain ⟨row, found', progress⟩ := moved.kept id req found
      have keyed : row.id = id := Table.get?_key found'
      cases state : row.state with
      | approved => exact .inl ⟨row, found', progress.jobID, .inl state⟩
      | rejected => exact .inl ⟨row, found', progress.jobID, .inr (.inl state)⟩
      | expired =>
        have cancelled := List.all_eq_true.mp noneHalfway row (Table.get?_mem found')
        rw [← progress.jobID]
        exact .inl ⟨row, found', rfl, .inr (.inr ⟨state, by simpa [state] using cancelled⟩)⟩
      | pending =>
        refine .inr ⟨row, List.mem_filter.mpr ⟨(complete row).mpr ⟨keyed ▸ found', state⟩, ?_⟩,
          keyed, progress.jobID⟩
        have created : row.createdAt = req.createdAt := by rw [progress.columns]
        simpa [created] using le_of_lt stale
    dsimp only
    split
    next empty =>
      refine ⟨fun _ id req isOwed => ?_, nothing⟩
      rcases owed id req isOwed with finished | ⟨r, member, -⟩
      · exact finished
      · rw [List.isEmpty_iff.mp empty] at member
        cases member
    · refine within_query fun s₂ c₂ moved₂ allowed₂ => ?_
      have stays : SweepRely s₂ (execQuery env s₂ (.expireStale before) c₂).1 :=
        sweepRely_of_mild (.query (.expireStale before)) trivial s₂ c₂
      have after := moved₂.trans _ _ _ stays
      refine ⟨stays, fun r₂ returned₂ => ?_⟩
      have nothing₂ : LogDenied [⟨.query (.expireStale before), r₂⟩,
          ⟨.query (.listPendingApprovals 500), .ok pending⟩]
          (execQuery env s₂ (.expireStale before) c₂).1 := by
        intro jobID errMsg r' member
        simp at member
      cases r₂ with
      | error e => exact ⟨fun fine => absurd rfl (fine _), nothing₂⟩
      | ok count =>
        have closed : ∀ r ∈ pending.filter (fun req => decide (req.createdAt ≤ before)),
            ∃ row, (execQuery env s₂ (.expireStale before) c₂).1.approvals.get? r.id = some row ∧
              row.jobID = r.jobID ∧ (row.state = .rejected ∨ row.state = .expired) := by
          intro r member
          obtain ⟨member, stale⟩ := List.mem_filter.mp member
          have stale : r.createdAt ≤ before := by simpa using stale
          obtain ⟨row, found, progress⟩ := moved₂.kept r.id r ((complete r).mp member).1
          refine expired_or_rejected returned₂ found progress stale ?_
          have unapproved := List.all_eq_true.mp allowed₂ r member
          simpa [not_lt.mpr stale, found] using unapproved
        refine cancelExpired_within count _ _ _ ?_ ?_ nothing₂
        · intro id req isOwed
          rcases owed id req isOwed with finished | ⟨r, member, keyed, linked⟩
          · exact .inl (finished.stable after)
          · obtain ⟨row, found, job, rejected | expired⟩ := closed r member
            · exact .inl ⟨row, keyed ▸ found, job.trans linked, .inr (.inl rejected)⟩
            · exact .inr ⟨⟨row, keyed ▸ found, job.trans linked, expired⟩, r, member, linked⟩
        · intro r member
          obtain ⟨row, found, job, state⟩ := closed r member
          exact ⟨r.id, row, found, job, state⟩

end Sweep

section Calls

variable {env : Env}

theorem mild_of_read (o : Op) (read : o.isWrite = false) (_ : o.readsCerts = false) : Mild o := by
  unfold Mild
  split
  · cases read
  · trivial
  · trivial
  · trivial
  · exact read

theorem within_of_mild {call : SweepCall} {p : Service} (all : p.All Mild)
    (log : List (Event Op.Result)) (db : DB) :
    Within (exec env) SweepRely Allowed (fun _ _ _ _ => True) call p log db :=
  within_of_all (all.mono fun o mild _ s c _ => sweepRely_of_mild o mild s c)
    (fun _ _ _ => trivial) log db

theorem sweepBody_within (call : SweepCall) {db : DB} (one : OneRequestPerJob db) :
    Within (exec env) SweepRely Allowed (fun _ _ _ _ => True) call (sweepBody env call) [] db := by
  cases call with
  | approve requestID decidedBy note =>
    refine Within.given OneRequestPerJob.stable one ?_
    refine approve_within SweepRely.refl (fun _ _ moved => moved.kept) (fun _ _ _ => trivial)
      requestID decidedBy note ?_ ?_ ?_ [] db
    · exact fun _ s c at_ note' _ _ =>
        sweepRely_of_mild (.query (.decidePending requestID .approved decidedBy at_ note'))
          trivial s c
    · exact fun _ s c profile _ => sweepRely_of_mild (.query (.updateProfile profile)) trivial s c
    · exact fun _ s c jobID granted allowed => sweepRely_of_approved c allowed.2 granted
  | reject requestID decidedBy note =>
    exact within_of_mild (reject_all mild_of_read (fun _ _ => rfl) _ _ _ fun _ _ => trivial) [] db
  | expireStale before =>
    exact within_of_mild (expireStale_all mild_of_read (fun _ _ => rfl) before trivial) [] db

theorem sweepObligations : Obligations (exec env) (sweepBody env) SweepRely Allowed
    (fun _ _ _ _ => True) OneRequestPerJob (fun s m => disciplined sweepMay s m = true) where
  refl := .refl
  trans := .trans
  settled := fun _ _ _ _ _ _ _ => trivial
  keeps := OneRequestPerJob.stable
  opens := fun _ call one _ => sweepBody_within call one
  meets := fun _ _ _ _ _ _ _ => may_of_disciplined

end Calls

/-- In a run that keeps to the discipline, a sweep that returns without error is complete and
precise. -/
theorem sweep_complete_and_precise (env : Env) (before : Time) (s₀ s₁ : SweepPool) (i : Nat)
    (reached : ReachableUnder (sweepStep env) SweepInit (fun s m => disciplined sweepMay s m) s₀)
    (started : s₀.tasks[i]? = some ⟨.expireStale before, [], expireStale before⟩)
    (run : Later (sweepStep env) (fun s m => disciplined sweepMay s m) s₀ s₁) :
    SweepSound before s₀ s₁ i := by
  intro log reply returned fine
  have covered := covered_of_reachable sweepObligations (fun _ initial => initial.1)
    (fun _ initial => initial.2) reached
  have one := (covered.rely_later sweepObligations run).1.store
  obtain ⟨task, found, -, within⟩ := covered.task_later sweepObligations SweepPromise.stable run
    started (expireStale_within before s₀.store)
  rw [returned] at found
  cases found
  obtain ⟨finished, denied⟩ : SweepPromise before s₀.store _ reply log s₁.store := within
  refine ⟨?_, ?_⟩
  · intro id req req' isOpen isPending stale now unapproved unrejected
    obtain ⟨row, found, linked, state⟩ := finished fine id req ⟨isOpen, isPending, stale⟩
    rw [now] at found
    cases found
    rcases state with approved | rejected | ⟨expired, cancelled⟩
    · exact absurd approved unapproved
    · exact absurd rejected unrejected
    · exact ⟨expired, linked ▸ cancelled⟩
  · intro jobID errMsg r member id req now linked approved
    obtain ⟨id', row, found, job, state⟩ := denied jobID errMsg r member
    by_contra present
    have same := one id id' req row now found (by rw [linked, job])
      (by rw [linked]; exact Option.ne_none_iff_isSome.mp present)
    subst same
    rw [now] at found
    cases found
    rw [approved] at state
    rcases state with state | state <;> cases state

theorem waiting_init : SweepInit ⟨.waiting, []⟩ := by
  refine ⟨rfl, ?_⟩
  intro id id' req req' found found' _ _
  have member := Table.get?_mem found
  have member' := Table.get?_mem found'
  rw [show DB.waiting.approvals.rows = [waitingRequest] from rfl, List.mem_singleton]
    at member member'
  rw [← Table.get?_key found, ← Table.get?_key found', member, member']

/-- The sweep has begun. -/
def sweepBegun : SweepPool := ⟨.waiting, [⟨.expireStale 10, [], expireStale 10⟩]⟩

def cancels (jobID : String) : Event Op.Result → Bool
  | ⟨.query (.updateStatus id .cancelled _), _⟩ => decide (id = jobID)
  | _ => false

/-- The sweep has returned, and it has cancelled the job of the request, which is approved. -/
def approvedJobCancelled (s : SweepPool) : Bool :=
  match s.tasks[(0 : Nat)]? with
  | some ⟨.expireStale before, log, .done (.count _)⟩ =>
    decide (before = 10) && log.any (cancels "job-1") &&
      (s.store.approvals.get? "ar-1").any (fun req =>
        decide (req.jobID = "job-1") && decide (req.state = .approved)) &&
      (s.store.jobs.get? "job-1").any (fun job => decide (job.status = .cancelled))
  | _ => false

theorem not_sweepSound_of_approved {s₀ s₁ : SweepPool} (ends : approvedJobCancelled s₁ = true) :
    ¬ SweepSound 10 s₀ s₁ 0 := by
  intro sound
  unfold approvedJobCancelled at ends
  split at ends
  next before log n returned =>
    simp only [Bool.and_eq_true, decide_eq_true_eq, List.any_eq_true, Option.any_eq_true] at ends
    obtain ⟨⟨⟨rfl, event, member, isCancel⟩, req, found, linked, approved⟩, job, present, -⟩ := ends
    have precise := (sound log _ returned (by simp)).2
    unfold cancels at isCancel
    split at isCancel
    next id errMsg r =>
      rw [of_decide_eq_true isCancel] at member
      have missing := precise "job-1" errMsg r member "ar-1" req found linked approved
      rw [present] at missing
      cases missing
    · cases isCancel
  · cases ends

/-- An approval between the listing and the bulk update: the request stays approved and the
sweep cancels its job. -/
theorem sweep_cancels_approved_job : ∃ s₀ s₁ : SweepPool,
    Reachable (sweepStep .plain) SweepInit s₀ ∧
    s₀.tasks[0]? = some ⟨.expireStale 10, [], expireStale 10⟩ ∧
    Later (sweepStep .plain) (fun _ _ => True) s₀ s₁ ∧ ¬ SweepSound 10 s₀ s₁ 0 ∧
    approvedJobCancelled s₁ = true := by
  obtain ⟨s₁, replayed, ends⟩ := Option.map_eq_some_iff.mp
    (show (replay (sweepStep .plain) (fun _ _ => true) sweepBegun
      [.step 0 .plain, .start (.approve "ar-1" "bob" ""), .step 1 .plain, .step 1 .plain,
        .step 1 .plain, .step 1 .plain, .step 1 .plain, .step 0 .plain, .step 0 .plain]).map
      approvedJobCancelled = some true by decide +kernel)
  exact ⟨sweepBegun, s₁, .next (a := .start (.expireStale 10)) (.start waiting_init) trivial rfl,
    rfl, (replay_later _ _ _ replayed).mono (fun _ _ _ => trivial),
    not_sweepSound_of_approved ends, ends⟩

/-- The sweep alone. -/
theorem sweep_alone : ∃ s₁ : SweepPool,
    Later (sweepStep .plain) (fun s m => disciplined sweepMay s m) sweepBegun s₁ ∧
    (s₁.store.jobs.get? "job-1").map Job.status = some .cancelled ∧
    SweepSound 10 sweepBegun s₁ 0 := by
  obtain ⟨s₁, replayed, ends⟩ := Option.map_eq_some_iff.mp
    (show (replay (sweepStep .plain) (disciplined sweepMay) sweepBegun
      [.step 0 .plain, .step 0 .plain, .step 0 .plain]).map
      (fun s => decide ((s.store.jobs.get? "job-1").map Job.status = some .cancelled)) =
        some true by decide +kernel)
  have run := replay_later _ _ _ replayed
  exact ⟨s₁, run, of_decide_eq_true ends,
    sweep_complete_and_precise .plain 10 sweepBegun s₁ 0
      (.next (a := .start (.expireStale 10)) (.start waiting_init) rfl rfl) rfl run⟩

end Certctl.Guarantees.StaleSweep

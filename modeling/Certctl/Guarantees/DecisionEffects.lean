import Certctl.Guarantees.JobSamples
import Certctl.Source.Jobs.Effects

/-!
A decision and its effect. `Approve` and `Reject` move the request out of `pending` first
and carry out the effect in a second write. The runs here are of one call on an open
request, with any failure of the repository at any of its calls.
-/
namespace Certctl.Guarantees.DecisionEffects

open Lib Source Source.Jobs

inductive Decision where
  | approve | reject

namespace Decision

def state : Decision → ApprovalState
  | approve => .approved
  | reject => .rejected

def service (env : Env) (requestID decidedBy note : String) : Decision → Service
  | approve => Jobs.approve env requestID decidedBy note
  | reject => Jobs.reject requestID decidedBy note

/-- The places of the reads among the operations of the call. -/
def readsAt : Decision → List Nat
  | approve => [0, 2]
  | reject => [0]

/-- The place of the state update; the effect comes next. -/
def decidesAt : Decision → Nat
  | approve => 3
  | reject => 2

end Decision

def StateIs (db : DB) (id : String) (state : ApprovalState) : Prop :=
  (db.approvals.get? id).map ApprovalRequest.state = some state

/-- The job goes on or is cancelled; the profile is replaced by the payload or stays. -/
def EffectTook (env : Env) (req : ApprovalRequest) (db db' : DB) : Decision → Prop
  | .approve =>
    match req.kind with
    | .certIssuance => (db'.jobs.get? req.jobID).map Job.status = some .pending
    | .profileEdit => ∃ edited, env.decodeProfile req.payload = .ok edited ∧
        db'.profiles.get? req.profileID = some { edited with id := req.profileID }
  | .reject =>
    match req.kind with
    | .certIssuance => (db'.jobs.get? req.jobID).map Job.status = some .cancelled
    | .profileEdit => db'.profiles = db.profiles

def EffectAbsent (db db' : DB) : Prop := db'.jobs = db.jobs ∧ db'.profiles = db.profiles

structure AllOrNothing (env : Env) (d : Decision) (req : ApprovalRequest) (db : DB)
    (after : DB × Reply) : Prop where
  ok_iff : after.2 = .ok ↔ StateIs after.1 req.id d.state ∧ EffectTook env req db after.1 d
  error : ∀ message, after.2 = .error message →
    StateIs after.1 req.id .pending ∧ EffectAbsent db after.1

/-- The statement of the profile repository leaves nothing of the payload out. -/
def Replaces (columns : ProfileColumns) (edited row : Profile) : Prop :=
  columns = .all ∨
    row.requiresApproval = edited.requiresApproval ∧ row.acmeAuthMode = edited.acmeAuthMode

/-- The second write finds what it needs and does not fail. -/
def EffectWorks (env : Env) (req : ApprovalRequest) (db : DB) (c : Choice) : Decision → Prop
  | .approve =>
    match req.kind with
    | .certIssuance => c.fault = none ∧ (db.jobs.get? req.jobID).isSome
    | .profileEdit => env.profileEditApply = true ∧ c.fault = none ∧
        ∃ edited row, env.decodeProfile req.payload = .ok edited ∧
          db.profiles.get? req.profileID = some row ∧ Replaces env.profileColumns edited row
  | .reject => c.fault = none ∧ (db.jobs.get? req.jobID).isSome

/-- A read fails, or the state update fails and was not carried out, or everything goes
through to the end. -/
def NoHalfway (env : Env) (d : Decision) (req : ApprovalRequest) (db : DB)
    (choices : Nat → Choice) : Prop :=
  (∃ i ∈ d.readsAt, (choices i).fault ≠ none) ∨
  (∃ cause, (choices d.decidesAt).fault = some (cause, false)) ∨
  ((choices d.decidesAt).fault = none ∧ EffectWorks env req db (choices (d.decidesAt + 1)) d)

section Outcomes

variable {env : Env} {d : Decision} {req : ApprovalRequest} {db db' : DB} {message : String}

theorem allOrNothing_untouched (isPending : StateIs db req.id .pending) :
    AllOrNothing env d req db (db, .error message) := by
  refine ⟨⟨fun ok => (by cases ok), fun both => ?_⟩, fun _ _ => ⟨isPending, rfl, rfl⟩⟩
  have decided := both.1
  unfold StateIs at isPending decided
  rw [isPending] at decided
  cases d <;> cases decided

theorem not_allOrNothing_halfway (decided : StateIs db' req.id d.state) :
    ¬ AllOrNothing env d req db (db', .error message) := by
  intro holds
  have isPending := (holds.error message rfl).1
  unfold StateIs at isPending decided
  rw [isPending] at decided
  cases d <;> cases decided

theorem allOrNothing_done_iff (decided : StateIs db' req.id d.state) :
    AllOrNothing env d req db (db', .ok) ↔ EffectTook env req db db' d := by
  constructor
  · intro holds
    exact (holds.ok_iff.mp rfl).2
  · intro took
    exact ⟨⟨fun _ => ⟨decided, took⟩, fun _ => rfl⟩, fun _ failed => by cases failed⟩

end Outcomes

section Queries

variable {db : DB} {id : String} {req : ApprovalRequest}

theorem execQuery_getApproval (env : Env) (c : Choice) (found : db.approvals.get? id = some req) :
    (c.fault = none ∧ execQuery env db (.getApproval id) c = (db, .ok req)) ∨
    (c.fault ≠ none ∧ ∃ e, execQuery env db (.getApproval id) c = (db, .error e)) := by
  have reads : perform env db c (.getApproval id) = .ok (db, req) := by simp only [perform, found]
  by_cases sound : c.fault = none
  · exact .inl ⟨sound, execQuery_of_ok sound reads⟩
  · obtain ⟨⟨cause, carriedOut⟩, fault⟩ := Option.ne_none_iff_exists'.mp sound
    refine .inr ⟨sound, ?_⟩
    simp only [execQuery, fault, reads]
    cases carriedOut with
    | true | false => exact ⟨_, rfl⟩

theorem execQuery_decidePending (env : Env) (c : Choice) (state : ApprovalState)
    (decidedBy : String) (decidedAt : Time) (note : Option String)
    (found : db.approvals.get? id = some req) (isOpen : req.state = .pending) :
    ∃ decided : DB, StateIs decided id state ∧ decided.jobs = db.jobs ∧
      decided.profiles = db.profiles ∧ ((c.fault = none ∧ ∃ rows, rows ≠ 0 ∧
        execQuery env db (.decidePending id state decidedBy decidedAt note) c =
          (decided, .ok rows)) ∨ (∃ cause e, c.fault = some (cause, true) ∧
        execQuery env db (.decidePending id state decidedBy decidedAt note) c =
          (decided, .error e)) ∨ ∃ cause e, c.fault = some (cause, false) ∧
        execQuery env db (.decidePending id state decidedBy decidedAt note) c =
          (db, .error e)) := by
  have hit : DB.isOpen id req = true := by simp [DB.isOpen, Table.get?_key found, isOpen]
  have someRow : db.approvals.rows.countP (DB.isOpen id) ≠ 0 :=
    (List.countP_pos_iff.mpr ⟨req, Table.get?_mem found, hit⟩).ne'
  refine ⟨db.settleWhere (DB.isOpen id) (settle state decidedBy decidedAt note c.now)
    (settle_id state decidedBy decidedAt note c.now), ?_, rfl, rfl, ?_⟩
  · simp only [StateIs, DB.settleWhere, Table.get?_updateWhere, found, Option.map_some, hit,
      if_true, settle]
  · obtain ⟨db', value, sound, performed, result⟩ |
      ⟨db', value, cause, e, fault, performed, result⟩ |
      ⟨e, ⟨cause, fault⟩ | ⟨e', failed⟩, result⟩ :=
      execQuery_outcome env db (.decidePending id state decidedBy decidedAt note) c
    · cases performed
      exact .inl ⟨sound, _, someRow, result⟩
    · cases performed
      exact .inr (.inl ⟨cause, e, fault, result⟩)
    · exact .inr (.inr ⟨cause, e, fault, result⟩)
    · cases failed

theorem execQuery_updateStatus (env : Env) (db : DB) (c : Choice) (id : String)
    (status : JobStatus) (errMsg : String) :
    ∃ db', db'.approvals = db.approvals ∧ db'.profiles = db.profiles ∧
      ((c.fault = none ∧ (db.jobs.get? id).isSome ∧
        execQuery env db (.updateStatus id status errMsg) c = (db', .ok ()) ∧
        (db'.jobs.get? id).map Job.status = some status) ∨
      (¬ (c.fault = none ∧ (db.jobs.get? id).isSome) ∧
        ∃ e, execQuery env db (.updateStatus id status errMsg) c = (db', .error e))) := by
  obtain ⟨db', value, sound, performed, result⟩ |
    ⟨db', value, cause, e, fault, performed, result⟩ | ⟨e, failed, result⟩ :=
    execQuery_outcome env db (.updateStatus id status errMsg) c
  · obtain ⟨frame, job, found, jobs⟩ := perform_updateStatus performed
    refine ⟨db', by rw [frame], by rw [frame], .inl ⟨sound, by simp [found], result, ?_⟩⟩
    rw [jobs, if_pos rfl]
    rfl
  · obtain ⟨frame, -⟩ := perform_updateStatus performed
    exact ⟨db', by rw [frame], by rw [frame], .inr ⟨by simp [fault], e, result⟩⟩
  · refine ⟨db, rfl, rfl, .inr ⟨?_, e, result⟩⟩
    rintro ⟨sound, present⟩
    rcases failed with ⟨cause, fault⟩ | ⟨e', missing⟩
    · rw [sound] at fault
      cases fault
    · simp only [perform, Table.update, present, if_true] at missing
      cases missing

/-- A profile update succeeds if the profile is there and the call does not fail. -/
theorem execQuery_updateProfile (env : Env) (db : DB) (c : Choice) (profile : Profile) :
    ∃ db', db'.approvals = db.approvals ∧
      ((c.fault = none ∧ execQuery env db (.updateProfile profile) c = (db', .ok ()) ∧
        ∃ row, db.profiles.get? profile.id = some row ∧
          db'.profiles.get? profile.id = some (env.profileColumns.write profile row)) ∨
      (¬ (c.fault = none ∧ (db.profiles.get? profile.id).isSome) ∧
        ∃ e, execQuery env db (.updateProfile profile) c = (db', .error e))) := by
  obtain ⟨db', value, sound, performed, result⟩ |
    ⟨db', value, cause, e, fault, performed, result⟩ | ⟨e, failed, result⟩ :=
    execQuery_outcome env db (.updateProfile profile) c
  · simp only [perform] at performed
    split at performed
    next profiles updated =>
      obtain ⟨row, found⟩ := (Table.update_eq updated).2
      obtain ⟨rfl, rfl⟩ : { db with profiles } = db' ∧ () = value := by simpa using performed
      refine ⟨{ db with profiles }, rfl, .inl ⟨sound, result, row, found, ?_⟩⟩
      rw [Table.get?_update updated, if_pos rfl, found, Option.map_some]
    · cases performed
  · have frame := (perform_frame performed).1 rfl
    exact ⟨db', frame, .inr ⟨by simp [fault], e, result⟩⟩
  · refine ⟨db, rfl, .inr ⟨?_, e, result⟩⟩
    rintro ⟨sound, present⟩
    rcases failed with ⟨cause, fault⟩ | ⟨e', missing⟩
    · rw [sound] at fault
      cases fault
    · simp only [perform, Table.update, present, if_true] at missing
      cases missing

/-- The written row is the payload exactly when nothing of it is left out. -/
theorem write_eq_iff (columns : ProfileColumns) (edited : Profile) {row : Profile}
    (keyed : row.id = id) :
    columns.write { edited with id } row = { edited with id } ↔ Replaces columns edited row := by
  cases columns with
  | all => simp [ProfileColumns.write, Replaces, keyed]
  | postgres =>
    simp only [ProfileColumns.write, Replaces, keyed, Profile.mk.injEq, CertificateProfile.mk.injEq,
      true_and, reduceCtorEq, false_or]
    exact and_comm

end Queries

section Calls

variable {env : Env} {db : DB} {req : ApprovalRequest} {choices : Nat → Choice}
  {requestID decidedBy note : String}

theorem stateIs_of_approvals {db' : DB} {id : String} {state : ApprovalState}
    (before : StateIs db id state) (same : db'.approvals = db.approvals) :
    StateIs db' id state := by
  unfold StateIs
  rw [same]
  exact before

variable {d : Decision} {n : Nat} {rest : Prop}
  (found : db.approvals.get? requestID = some req) (isOpen : req.state = .pending)

include found isOpen

theorem stateIs_pending : StateIs db req.id .pending := by
  rw [StateIs, Table.get?_key found, found, Option.map_some, isOpen]

/-- A read that fails ends the call with nothing done. -/
theorem allOrNothing_read {next : Except RepoError ApprovalRequest → Service}
    (fails : ∀ e, ∃ message, next (.error e) = .done (.error message))
    (goes : AllOrNothing env d req db (runCall env choices (n + 1) (next (.ok req)) db) ↔ rest) :
    AllOrNothing env d req db (runCall env choices n (query (.getApproval requestID) next) db) ↔
      (choices n).fault ≠ none ∨ rest := by
  obtain ⟨sound, read⟩ | ⟨fault, e, read⟩ := execQuery_getApproval env (choices n) found
  · rw [runCall_query read, goes]
    simp [sound]
  · obtain ⟨message, ends⟩ := fails e
    rw [runCall_query read, ends]
    exact iff_of_true (allOrNothing_untouched (stateIs_pending found isOpen)) (.inl fault)

variable {next : Except RepoError Unit → Service}

/-- A state update that fails ends the call; what it has then done depends on whether it was
carried out. -/
theorem allOrNothing_updateState {decidedAt : Time}
    (fails : ∀ e, ∃ message, next (.error e) = .done (.error message))
    (goes : ∀ decided : DB, StateIs decided req.id d.state → decided.jobs = db.jobs →
      decided.profiles = db.profiles →
      (AllOrNothing env d req db (runCall env choices (n + 1) (next (.ok ())) decided) ↔ rest)) :
    AllOrNothing env d req db
      (runCall env choices n (updateState requestID d.state decidedBy decidedAt note next) db) ↔
      (∃ cause, (choices n).fault = some (cause, false)) ∨ (choices n).fault = none ∧ rest := by
  have keyed : req.id = requestID := Table.get?_key found
  obtain ⟨decided, now, jobs, profiles, outcome⟩ := execQuery_decidePending env (choices n) d.state
    decidedBy decidedAt (if note = "" then none else some note) found isOpen
  rw [← keyed] at now
  unfold updateState
  obtain ⟨sound, rows, hit, result⟩ | ⟨cause, e, fault, result⟩ | ⟨cause, e, fault, result⟩ :=
    outcome
  · rw [runCall_query result]
    dsimp only
    rw [if_neg hit, goes decided now jobs profiles]
    simp [sound]
  · obtain ⟨message, ends⟩ := fails e
    rw [runCall_query result]
    dsimp only
    rw [ends]
    exact iff_of_false (not_allOrNothing_halfway now) (by simp [fault])
  · obtain ⟨message, ends⟩ := fails e
    rw [runCall_query result]
    dsimp only
    rw [ends]
    exact iff_of_true (allOrNothing_untouched (stateIs_pending found isOpen)) (.inl ⟨cause, fault⟩)

omit found isOpen

theorem allOrNothing_updateStatus {decided : DB} {status : JobStatus} {errMsg : String}
    (fails : ∀ e, ∃ message, next (.error e) = .done (.error message))
    (goes : next (.ok ()) = .done .ok) (now : StateIs decided req.id d.state)
    (jobs : decided.jobs = db.jobs) (profiles : decided.profiles = db.profiles)
    (took : ∀ db', (db'.jobs.get? req.jobID).map Job.status = some status →
      db'.profiles = db.profiles → EffectTook env req db db' d) :
    AllOrNothing env d req db
      (runCall env choices n (query (.updateStatus req.jobID status errMsg) next) decided) ↔
      (choices n).fault = none ∧ (db.jobs.get? req.jobID).isSome := by
  obtain ⟨db', approvals, profiles', outcome⟩ :=
    execQuery_updateStatus env decided (choices n) req.jobID status errMsg
  have now' := stateIs_of_approvals now approvals
  rw [jobs] at outcome
  obtain ⟨sound, present, result, set⟩ | ⟨refused, e, result⟩ := outcome
  · rw [runCall_query result, goes]
    exact iff_of_true ((allOrNothing_done_iff now').mpr (took db' set (profiles'.trans profiles)))
      ⟨sound, present⟩
  · obtain ⟨message, ends⟩ := fails e
    rw [runCall_query result, ends]
    exact iff_of_false (not_allOrNothing_halfway now') refused

theorem allOrNothing_applyProfileEdit {decided : DB} {next : Except String Unit → Service}
    (fails : ∀ e, ∃ message, next (.error e) = .done (.error message))
    (goes : next (.ok ()) = .done .ok) (edit : req.kind = .profileEdit)
    (now : StateIs decided req.id .approved) (profiles : decided.profiles = db.profiles) :
    AllOrNothing env .approve req db
      (runCall env choices n (applyProfileEdit env req next) decided) ↔
      (choices n).fault = none ∧ ∃ edited row, env.decodeProfile req.payload = .ok edited ∧
        db.profiles.get? req.profileID = some row ∧ Replaces env.profileColumns edited row := by
  unfold applyProfileEdit
  cases decoded : env.decodeProfile req.payload with
  | error e =>
    obtain ⟨message, ends⟩ := fails ("decode profile-edit payload: " ++ e)
    dsimp only
    rw [ends]
    exact iff_of_false (not_allOrNothing_halfway now) (by simp)
  | ok edited =>
    obtain ⟨db', approvals, outcome⟩ := execQuery_updateProfile env decided (choices n)
      { edited with id := req.profileID }
    have now' : StateIs db' req.id Decision.approve.state := stateIs_of_approvals now approvals
    rw [profiles] at outcome
    obtain ⟨sound, result, row, present, written⟩ | ⟨refused, e, result⟩ := outcome
    · rw [runCall_query result]
      rw [goes]
      refine (allOrNothing_done_iff now').trans ?_
      have keyed : row.id = req.profileID := Table.get?_key (t := db.profiles) present
      have replaced := write_eq_iff env.profileColumns edited keyed
      simp [EffectTook, edit, decoded, written, sound, present, replaced]
    · obtain ⟨message, ends⟩ := fails ("apply profile-edit diff: " ++ e.message)
      rw [runCall_query result]
      dsimp only
      rw [ends]
      refine iff_of_false (not_allOrNothing_halfway now') ?_
      rintro ⟨sound, -, row, -, present, -⟩
      exact refused ⟨sound, by simp [present]⟩

end Calls

section Decisions

variable {env : Env} {db : DB} {req : ApprovalRequest} {choices : Nat → Choice}
  {requestID decidedBy note : String}

variable (found : db.approvals.get? requestID = some req) (isOpen : req.state = .pending)
  (other : decidedBy ≠ req.requestedBy)

include found isOpen other

theorem reject_iff :
    AllOrNothing env .reject req db
      (runCall env choices 0 (reject requestID decidedBy note) db) ↔
    NoHalfway env .reject req db choices := by
  have shape : NoHalfway env .reject req db choices ↔ (choices 0).fault ≠ none ∨
      (∃ cause, (choices 2).fault = some (cause, false)) ∨ (choices 2).fault = none ∧
        (choices 3).fault = none ∧ (db.jobs.get? req.jobID).isSome := by
    simp [NoHalfway, Decision.readsAt, Decision.decidesAt, EffectWorks]
  rw [shape]
  refine allOrNothing_read found isOpen (fun e => ⟨_, rfl⟩) ?_
  dsimp only
  rw [isOpen, if_neg (by decide), if_neg other, runCall_now]
  refine allOrNothing_updateState (d := .reject) found isOpen (fun e => ⟨_, rfl⟩) ?_
  intro decided now jobs profiles
  refine allOrNothing_updateStatus (fun e => ⟨_, rfl⟩) rfl now jobs profiles ?_
  intro db' status profiles'
  unfold EffectTook
  dsimp only
  split
  · exact status
  · exact profiles'

theorem approve_iff :
    AllOrNothing env .approve req db
      (runCall env choices 0 (approve env requestID decidedBy note) db) ↔
    NoHalfway env .approve req db choices := by
  have shape : NoHalfway env .approve req db choices ↔ (choices 0).fault ≠ none ∨
      (choices 2).fault ≠ none ∨ (∃ cause, (choices 3).fault = some (cause, false)) ∨
        (choices 3).fault = none ∧ EffectWorks env req db (choices 4) .approve := by
    simp [NoHalfway, Decision.readsAt, Decision.decidesAt, or_assoc]
  rw [shape]
  refine allOrNothing_read found isOpen (fun e => ⟨_, rfl⟩) ?_
  dsimp only
  rw [isOpen, if_neg (by decide), if_neg other, approveInternal, runCall_now]
  refine allOrNothing_read found isOpen (fun e => ⟨_, rfl⟩) ?_
  dsimp only
  rw [isOpen, if_neg (by decide)]
  refine allOrNothing_updateState (d := .approve) found isOpen (fun e => ⟨_, rfl⟩) ?_
  intro decided now jobs profiles
  cases kind : req.kind with
  | certIssuance =>
    simp only [EffectWorks, kind]
    refine allOrNothing_updateStatus (fun e => ⟨_, rfl⟩) rfl now jobs profiles ?_
    intro db' status _
    simp only [EffectTook, kind]
    exact status
  | profileEdit =>
    rw [if_pos rfl]
    simp only [EffectWorks, kind]
    cases registered : env.profileEditApply with
    | true =>
      rw [if_pos rfl]
      simp only [true_and]
      exact allOrNothing_applyProfileEdit (fun e => ⟨_, rfl⟩) rfl kind now profiles
    | false =>
      exact iff_of_false (not_allOrNothing_halfway now) (by simp)

end Decisions

/-- A decision on an open request by someone else is all or nothing exactly when no failure
falls between the state update and the effect. -/
theorem decision_all_or_nothing_iff (env : Env) (db : DB) (choices : Nat → Choice) (d : Decision)
    (requestID decidedBy note : String) (req : ApprovalRequest)
    (found : db.approvals.get? requestID = some req) (isOpen : req.state = .pending)
    (other : decidedBy ≠ req.requestedBy) :
    AllOrNothing env d req db
      ((d.service env requestID decidedBy note).run (exec env) choices 0 db) ↔
    NoHalfway env d req db choices := by
  cases d with
  | approve => exact approve_iff found isOpen other
  | reject => exact reject_iff found isOpen other

def editRequest : ApprovalRequest :=
  newRequest "ar-1" .profileEdit "" "" "prof-1" "alice" [123, 125] 0

def editRequestStore : DB := { DB.empty with approvals := ⟨[editRequest], by decide⟩ }

/-- A profile edit has no job to cancel, so its rejection ends in an error with the request
rejected. -/
theorem reject_profileEdit_halfway :
    editRequestStore.approvals.get? "ar-1" = some editRequest ∧ editRequest.state = .pending ∧
    "bob" ≠ editRequest.requestedBy ∧
    ¬ AllOrNothing .plain .reject editRequest editRequestStore
      ((Decision.reject.service .plain "ar-1" "bob" "").run (exec .plain) (fun _ => .plain) 0
        editRequestStore) := by
  refine ⟨by decide, rfl, by decide, ?_⟩
  exact not_allOrNothing_halfway rfl

theorem approve_issuance_all : AllOrNothing .plain .approve waitingRequest DB.waiting
    ((Decision.approve.service .plain "ar-1" "bob" "").run (exec .plain) (fun _ => .plain) 0
      DB.waiting) := by
  refine (decision_all_or_nothing_iff .plain DB.waiting (fun _ => .plain) .approve "ar-1"
    "bob" "" waitingRequest (by decide) rfl (by decide)).mpr (.inr (.inr ⟨rfl, ?_⟩))
  exact ⟨rfl, by decide⟩

end Certctl.Guarantees.DecisionEffects

import Certctl.Source.Jobs.Effects

/-!
The approval requests over any operations. A request keeps the columns that say what it is
for and who asked, and once decided it keeps all of them; that holds of every query, so no
service can break it. That an approved request was decided by someone else rests on the
check in `Approve`, made on a row read earlier.
-/
namespace Certctl.Source.Jobs

open Lib

/-- The later row of a request. -/
structure Progress (req req' : ApprovalRequest) : Prop where
  columns : req' = { req with
    state := req'.state
    decidedBy := req'.decidedBy
    decidedAt := req'.decidedAt
    decisionNote := req'.decisionNote
    updatedAt := req'.updatedAt }
  settled : req.state ≠ .pending → req' = req

theorem Progress.refl (req : ApprovalRequest) : Progress req req := ⟨rfl, fun _ => rfl⟩

variable {req req' : ApprovalRequest} {requestID decidedBy : String}

theorem Progress.trans {req'' : ApprovalRequest} (first : Progress req req')
    (second : Progress req' req'') : Progress req req'' := by
  refine ⟨?_, fun decided => ?_⟩
  · rw [second.columns, first.columns]
  · have same := first.settled decided
    rw [second.settled (same ▸ decided), same]

theorem Progress.requestedBy (progress : Progress req req') :
    req'.requestedBy = req.requestedBy := by
  rw [progress.columns]

theorem Progress.jobID (progress : Progress req req') :
    req'.jobID = req.jobID := by
  rw [progress.columns]

def RequestsKept (db db' : DB) : Prop :=
  ∀ id req, db.approvals.get? id = some req →
    ∃ req', db'.approvals.get? id = some req' ∧ Progress req req'

theorem RequestsKept.refl (db : DB) : RequestsKept db db :=
  fun _ req found => ⟨req, found, .refl req⟩

theorem RequestsKept.trans {a b c : DB} (first : RequestsKept a b) (second : RequestsKept b c) :
    RequestsKept a c := by
  intro id req found
  obtain ⟨req', found', progress⟩ := first id req found
  obtain ⟨req'', found'', progress'⟩ := second id req' found'
  exact ⟨req'', found'', progress.trans progress'⟩

variable {env : Env} {db db' : DB} {c : Choice}

theorem perform_requestsKept {q : Query} {value : q.Value}
    (performed : perform env db c q = .ok (db', value)) : RequestsKept db db' := by
  intro id req found
  obtain ⟨req', found', way⟩ := (perform_approval performed id).present found
  refine ⟨req', found', ?_⟩
  obtain rfl | ⟨_, _, _, _, -, isOpen, rfl⟩ | ⟨_, -, isOpen, -, rfl⟩ := way
  · exact .refl _
  · exact ⟨rfl, fun decided => absurd isOpen decided⟩
  · exact ⟨rfl, fun decided => absurd isOpen decided⟩

theorem exec_requestsKept (o : Op) : RequestsKept db (exec env db o c).1 :=
  exec_rely RequestsKept (RequestsKept.refl db) o fun _ _ _ _ performed =>
    perform_requestsKept performed

/-- Approved requests were decided, and not by the one who asked. -/
def TwoPerson (db : DB) : Prop :=
  ∀ id req, db.approvals.get? id = some req → req.state = .approved →
    ∃ decider, req.decidedBy = some decider ∧ decider ≠ req.requestedBy

/-- Operations that approve nothing. -/
def Op.approvesNothing : Op → Prop
  | .query (.decidePending _ state ..) => state ≠ .approved
  | .query (.createApproval req) => req.state = .pending
  | _ => True

/-- A query keeps two people if it approves nothing, or approves for another than the
requester. -/
theorem perform_twoPerson {q : Query} {value : q.Value}
    (performed : perform env db c q = .ok (db', value)) (before : TwoPerson db)
    (creates : ∀ req, q = .createApproval req → req.state = .pending)
    (approves : ∀ id decidedBy decidedAt note,
      q = .decidePending id .approved decidedBy decidedAt note →
        ∀ req, db.approvals.get? id = some req → decidedBy ≠ req.requestedBy) :
    TwoPerson db' := by
  intro id req' found' approved
  cases found : db.approvals.get? id with
  | none =>
    have created := (perform_approval performed id).absent found found'
    rw [creates req' created] at approved
    cases approved
  | some req =>
    obtain rfl | ⟨state, decidedBy, decidedAt, note, isQuery, -, rfl⟩ | ⟨_, -, -, -, rfl⟩ :=
      (perform_approval performed id).between found found'
    · exact before id _ found approved
    · have isApproved : state = .approved := approved
      subst isApproved
      exact ⟨decidedBy, rfl, approves id decidedBy decidedAt note isQuery req found⟩
    · cases approved

theorem exec_twoPerson {o : Op} (nothing : o.approvesNothing) (before : TwoPerson db) :
    TwoPerson (exec env db o c).1 := by
  refine exec_rely (fun _ after => TwoPerson after) before o ?_
  intro q db' value isQuery performed
  subst isQuery
  refine perform_twoPerson performed before ?_ ?_
  · intro req created
    subst created
    exact nothing
  · intro id decidedBy decidedAt note decided
    subst decided
    exact absurd rfl nothing

/-- The request is someone else's. -/
def AskedByOther (requestID decidedBy : String) (db : DB) : Prop :=
  ∃ req, db.approvals.get? requestID = some req ∧ decidedBy ≠ req.requestedBy

theorem AskedByOther.kept
    (asked : AskedByOther requestID decidedBy db) (kept : RequestsKept db db') :
    AskedByOther requestID decidedBy db' := by
  obtain ⟨req, found, other⟩ := asked
  obtain ⟨req', found', progress⟩ := kept requestID req found
  exact ⟨req', found', progress.requestedBy ▸ other⟩

/-- The request for the job has been decided so. -/
def DecidedAs (requestID : String) (state : ApprovalState) (decidedBy jobID : String) (db : DB) :
    Prop :=
  ∃ req, db.approvals.get? requestID = some req ∧ req.state = state ∧
    req.decidedBy = some decidedBy ∧ decidedBy ≠ req.requestedBy ∧ req.jobID = jobID

theorem DecidedAs.kept {jobID : String} {state : ApprovalState}
    (decided : DecidedAs requestID state decidedBy jobID db) (closed : state ≠ .pending)
    (kept : RequestsKept db db') : DecidedAs requestID state decidedBy jobID db' := by
  obtain ⟨req, found, isState, by_, other, job⟩ := decided
  obtain ⟨req', found', progress⟩ := kept requestID req found
  rw [progress.settled (isState ▸ closed)] at found'
  exact ⟨req, found', isState, by_, other, job⟩

section Within

variable {γ : Type} {rely : DB → DB → Prop}
  {may : γ → List (Event Op.Result) → DB → (o : Op) → Choice → Prop}
  {post : γ → Reply → List (Event Op.Result) → DB → Prop} {call : γ}
  (refl : ∀ s, rely s s) (kept : ∀ s t, rely s t → RequestsKept s t)
  (ends : ∀ reply log s, post call reply log s) (requestID decidedBy : String)

include refl kept

/-- `UpdateState` on a request that was read before: when it goes on without an error, the
request has been decided. -/
theorem updateState_within {state : ApprovalState} {decidedAt : Time} {note : String}
    {next : Except RepoError Unit → Service} {req : ApprovalRequest}
    (other : decidedBy ≠ req.requestedBy)
    (decides : ∀ log s c note', AskedByOther requestID decidedBy s →
      may call log s (.query (.decidePending requestID state decidedBy decidedAt note')) c →
      rely s (exec env s (.query (.decidePending requestID state decidedBy decidedAt note')) c).1)
    (fails : ∀ e log s, Within (exec env) rely may post call (next (.error e)) log s)
    (goes : ∀ log s, DecidedAs requestID state decidedBy req.jobID s →
      Within (exec env) rely may post call (next (.ok ())) log s)
    (log : List (Event Op.Result)) (found : ∃ now, db.approvals.get? requestID = some now ∧
      Progress req now) :
    Within (exec env) rely may post call
      (updateState requestID state decidedBy decidedAt note next) log db := by
  obtain ⟨now, found, progress⟩ := found
  refine within_query fun s c moved allowed => ?_
  obtain ⟨now', found', progress'⟩ := kept db s moved requestID now found
  have seen := progress.trans progress'
  refine ⟨decides log s c _ ⟨now', found', seen.requestedBy ▸ other⟩ allowed, fun r returned => ?_⟩
  cases r with
  | error e => exact fails e _ _
  | ok rows =>
    dsimp only
    split
    · -- Zero rows: the second query tells why, and the call ends with an error.
      refine within_read rfl refl fun s' c' r' _ _ _ => ?_
      cases r' with
      | error e => exact fails e _ _
      | ok existing =>
        dsimp only
        split
        · exact fails _ _ _
        · exact fails _ _ _
    next hit =>
      obtain ⟨row, before, -, after⟩ := decidePending_ok hit returned
      rw [found'] at before
      cases before
      refine goes _ _ ⟨_, after, rfl, rfl, ?_, ?_⟩
      · exact seen.requestedBy ▸ other
      · exact seen.jobID

include ends

/-- `Approve` writes what its checks were made for: the request is someone else's when it is
decided, and approved when its job goes on. -/
theorem approve_within (note : String)
    (decides : ∀ log s c at_ note', AskedByOther requestID decidedBy s →
      may call log s (.query (.decidePending requestID .approved decidedBy at_ note')) c →
      rely s (exec env s (.query (.decidePending requestID .approved decidedBy at_ note')) c).1)
    (applies : ∀ log s c profile, may call log s (.query (.updateProfile profile)) c →
      rely s (exec env s (.query (.updateProfile profile)) c).1)
    (resumes : ∀ log s c jobID, DecidedAs requestID .approved decidedBy jobID s →
      may call log s (.query (.updateStatus jobID .pending "")) c →
      rely s (exec env s (.query (.updateStatus jobID .pending "")) c).1)
    (log : List (Event Op.Result)) (db : DB) :
    Within (exec env) rely may post call (approve env requestID decidedBy note) log db := by
  refine within_read rfl refl fun s c r _ _ returned => ?_
  cases r with
  | error e => exact ends _ _ _
  | ok req =>
    dsimp only
    split
    · exact ends _ _ _
    split
    · exact ends _ _ _
    next other =>
      have asked : AskedByOther requestID decidedBy s := ⟨req, (getApproval_ok returned).1, other⟩
      refine within_now refl fun s₁ now moved₁ => ?_
      refine within_read rfl refl fun s₂ c₂ r₂ moved₂ _ returned₂ => ?_
      cases r₂ with
      | error e => exact ends _ _ _
      | ok req₂ =>
        dsimp only
        split
        · exact ends _ _ _
        · have found₂ := (getApproval_ok returned₂).1
          obtain ⟨now₂, found', other₂⟩ := (asked.kept (kept _ _ moved₁)).kept (kept _ _ moved₂)
          rw [found₂] at found'
          cases found'
          refine updateState_within refl kept requestID decidedBy other₂
            (fun log s c note' => decides log s c now note') ?_ ?_ _ ⟨req₂, found₂, .refl req₂⟩
          · exact fun e log s => ends _ _ _
          · intro log s₃ granted
            dsimp only
            split
            · split
              · unfold applyProfileEdit
                cases env.decodeProfile req₂.payload with
                | error e => exact ends _ _ _
                | ok edited =>
                  refine within_query fun s₄ c₄ moved₄ allowed₄ =>
                    ⟨applies _ _ _ _ allowed₄, fun r₄ _ => ?_⟩
                  cases r₄ with
                  | error e => exact ends _ _ _
                  | ok _ => exact ends _ _ _
              · exact ends _ _ _
            · refine within_query fun s₄ c₄ moved₄ allowed₄ => ⟨?_, fun r₄ _ => ?_⟩
              · exact resumes _ _ _ _ (granted.kept (by simp) (kept _ _ moved₄)) allowed₄
              · cases r₄ with
                | error e => exact ends _ _ _
                | ok _ => exact ends _ _ _

theorem reject_within (note : String)
    (decides : ∀ log s c at_ note', AskedByOther requestID decidedBy s →
      may call log s (.query (.decidePending requestID .rejected decidedBy at_ note')) c →
      rely s (exec env s (.query (.decidePending requestID .rejected decidedBy at_ note')) c).1)
    (cancels : ∀ log s c jobID, DecidedAs requestID .rejected decidedBy jobID s →
      may call log s (.query (.updateStatus jobID .cancelled ("approval rejected: " ++ note))) c →
      rely s (exec env s
        (.query (.updateStatus jobID .cancelled ("approval rejected: " ++ note))) c).1)
    (log : List (Event Op.Result)) (db : DB) :
    Within (exec env) rely may post call (reject requestID decidedBy note) log db := by
  refine within_read rfl refl fun s c r _ _ returned => ?_
  cases r with
  | error e => exact ends _ _ _
  | ok req =>
    dsimp only
    split
    · exact ends _ _ _
    split
    · exact ends _ _ _
    next other =>
      have found := (getApproval_ok returned).1
      refine within_now refl fun s₁ now moved₁ => ?_
      refine updateState_within refl kept requestID decidedBy other
        (fun log s c note' => decides log s c now note') ?_ ?_ _
        (kept _ _ moved₁ requestID req found)
      · exact fun e log s => ends _ _ _
      · intro log s₃ denied
        refine within_query fun s₄ c₄ moved₄ allowed₄ => ⟨?_, fun r₄ _ => ?_⟩
        · exact cancels _ _ _ _ (denied.kept (by simp) (kept _ _ moved₄)) allowed₄
        · cases r₄ with
          | error e => exact ends _ _ _
          | ok _ => exact ends _ _ _

end Within

end Certctl.Source.Jobs

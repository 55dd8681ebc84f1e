import Certctl.Source.Jobs.Store

/-!
The approval service. A decision reads the request, moves it out of `pending` by a
conditional update and then carries out its effect: the job goes on or is cancelled, or the
profile edit is applied. A function another one goes on from takes the rest as its last
argument. Audit rows and metrics are left out.

Source: internal/service/approval.go; internal/repository/postgres/approval.go.
-/
namespace Certctl.Source.Jobs

def approvalNotFound : String := "approval request not found"

def approvalAlreadyDecided : String := "approval request already decided"

def approveBySameActor : String :=
  "approver cannot be the same as requester (two-person integrity)"

def getError (context : String) : RepoError → String
  | .notFound _ => approvalNotFound
  | e => context ++ e.message

def decisionError (context : String) : RepoError → String
  | .notFound _ => approvalNotFound
  | .alreadyExists => approvalAlreadyDecided
  | e => context ++ e.message

def answer {α : Type} : Except String α → Service
  | .ok _ => .done .ok
  | .error message => .done (.error message)

/-- `ApprovalRepository.UpdateState`: zero rows are told apart by a second query. -/
def updateState (id : String) (state : ApprovalState) (decidedBy : String) (decidedAt : Time)
    (note : String) (next : Except RepoError Unit → Service) : Service :=
  query (.decidePending id state decidedBy decidedAt (if note = "" then none else some note)) fun
  | .error e => next (.error e)
  | .ok rows =>
    if rows = 0 then
      query (.getApproval id) fun
      | .error e => next (.error e)
      | .ok existing =>
        if existing.state.isTerminal then next (.error .alreadyExists)
        else next (.error (.notFound ""))
    else next (.ok ())

/-- The callback that `main` registers. -/
def applyProfileEdit (env : Env) (req : ApprovalRequest) (next : Except String Unit → Service) :
    Service :=
  match env.decodeProfile req.payload with
  | .error e => next (.error ("decode profile-edit payload: " ++ e))
  | .ok edited =>
    query (.updateProfile { edited with id := req.profileID }) fun
    | .error e => next (.error ("apply profile-edit diff: " ++ e.message))
    | .ok _ => next (.ok ())

def approveInternal (env : Env) (requestID decidedBy note : String)
    (next : Except String Unit → Service) : Service :=
  .op .now fun now =>
  query (.getApproval requestID) fun
  | .error e => next (.error (getError "approval: get for transition: " e))
  | .ok req =>
    if req.state.isTerminal then next (.error approvalAlreadyDecided)
    else
      updateState requestID .approved decidedBy now note fun
      | .error e => next (.error (decisionError "approval: update state to approved: " e))
      | .ok () =>
        if req.kind = .profileEdit then
          if env.profileEditApply then
            applyProfileEdit env req fun
            | .error e => next (.error ("approval: apply profile edit: " ++ e))
            | .ok () => next (.ok ())
          else next (.error "approval: profile-edit apply callback not registered")
        else
          query (.updateStatus req.jobID .pending "") fun
          | .error e => next (.error ("approval: transition job to Pending: " ++ e.message))
          | .ok _ => next (.ok ())

def approve (env : Env) (requestID decidedBy note : String) : Service :=
  query (.getApproval requestID) fun
  | .error e => .done (.error (getError "approval: get for approve: " e))
  | .ok req =>
    if req.state.isTerminal then .done (.error approvalAlreadyDecided)
    else if decidedBy = req.requestedBy then .done (.error approveBySameActor)
    else approveInternal env requestID decidedBy note answer

def reject (requestID decidedBy note : String) : Service :=
  query (.getApproval requestID) fun
  | .error e => .done (.error (getError "approval: get for reject: " e))
  | .ok req =>
    if req.state.isTerminal then .done (.error approvalAlreadyDecided)
    else if decidedBy = req.requestedBy then .done (.error approveBySameActor)
    else
      .op .now fun now =>
      updateState requestID .rejected decidedBy now note fun
      | .error e => .done (.error (decisionError "approval: update state to rejected: " e))
      | .ok () =>
        query (.updateStatus req.jobID .cancelled ("approval rejected: " ++ note)) fun
        | .error e => .done (.error ("approval: transition job to Cancelled: " ++ e.message))
        | .ok _ => .done .ok

/-- The jobs of the listed requests are cancelled; an error is only logged. -/
def cancelExpired (reply : Reply) : List ApprovalRequest → Service
  | [] => .done reply
  | req :: rest =>
    query (.updateStatus req.jobID .cancelled "approval expired: timed out without review")
      fun _ => cancelExpired reply rest

def expireStale (before : Time) : Service :=
  query (.listPendingApprovals 500) fun
  | .error e => .done (.error ("approval: list pending for expiry: " ++ e.message))
  | .ok pending =>
    let stale := pending.filter (fun req => decide (req.createdAt ≤ before))
    if stale.isEmpty then .done (.count 0)
    else
      query (.expireStale before) fun
      | .error e => .done (.error ("approval: bulk expire: " ++ e.message))
      | .ok count => cancelExpired (.count count) stale

/-- An open request, as the service stores it. -/
def newRequest (id : String) (kind : ApprovalKind) (certID jobID profileID requestedBy : String)
    (payload : List UInt8) (now : Time) : ApprovalRequest :=
  ⟨id, kind, certID, jobID, profileID, requestedBy, .pending, none, none, none, payload, now, now⟩

def requestApproval (env : Env) (certID jobID profileID requestedBy : String)
    (next : Except String String → Service) : Service :=
  if jobID = "" ∨ profileID = "" ∨ requestedBy = "" then
    next (.error "approval: jobID, profileID, requestedBy required")
  else
    .op .now fun now =>
    .op .newID fun id =>
    query (.createApproval
      (newRequest id .certIssuance certID jobID profileID requestedBy [] now)) fun
    | .error e => next (.error ("approval: create request: " ++ e.message))
    | .ok _ =>
      if env.bypass then
        approveInternal env id "system-bypass"
          "auto-approved by CERTCTL_APPROVAL_BYPASS — dev/CI mode" fun
        | .error e => next (.error ("approval: bypass auto-approve: " ++ e))
        | .ok () => next (.ok id)
      else next (.ok id)

def requestProfileEditApproval (env : Env) (profileID requestedBy : String)
    (payload : List UInt8) (next : Except String String → Service) : Service :=
  if profileID = "" ∨ requestedBy = "" then
    next (.error "approval: profileID + requestedBy required")
  else if payload.isEmpty then
    next (.error "approval: payload required for profile_edit")
  else
    .op .now fun now =>
    .op .newID fun id =>
    query (.createApproval (newRequest id .profileEdit "" "" profileID requestedBy payload now)) fun
    | .error e => next (.error ("approval: create profile_edit request: " ++ e.message))
    | .ok _ =>
      if env.bypass then
        approveInternal env id "system-bypass"
          "auto-approved by CERTCTL_APPROVAL_BYPASS — dev/CI mode" fun
        | .error e => next (.error ("approval: bypass auto-approve profile_edit: " ++ e))
        | .ok () => next (.ok id)
      else next (.ok id)

end Certctl.Source.Jobs

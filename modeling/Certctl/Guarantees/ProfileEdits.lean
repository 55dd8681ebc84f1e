import Certctl.Guarantees.JobSamples
import Certctl.Source.Jobs.Profiles

/-!
Profiles that require approval change by approval only. Updates and approvals run beside one
another. An approval applies the payload of the request it has decided. An update decides on
the flag it read, and Postgres never returns the flag; so a direct write goes wrong exactly
where the stored flag is not the one that was read.
-/
namespace Certctl.Guarantees.ProfileEdits

open Lib Source Source.Jobs

inductive EditCall where
  | updateProfile (caller : Option Caller) (id : String) (profile : ProfileEdit)
  | approve (requestID decidedBy note : String)

def editBody (env : Env) (svc : ProfileService) : EditCall → Service
  | .updateProfile caller id profile => updateProfile env svc caller id profile
  | .approve requestID decidedBy note => approve env requestID decidedBy note

abbrev EditPool := Pool Op.Result DB Reply EditCall

def editStep (env : Env) (svc : ProfileService) :
    EditPool → Move EditCall Choice → Option EditPool :=
  poolStep (exec env) (editBody env svc)

def Idle (s : EditPool) : Prop := s.tasks = []

/-- What a request asks for, approved by someone other than its requester. -/
def ApprovedEdit (env : Env) (db : DB) (profile : Profile) : Prop :=
  ∃ requestID req decider edited, db.approvals.get? requestID = some req ∧
    req.kind = .profileEdit ∧ req.state = .approved ∧ req.decidedBy = some decider ∧
    decider ≠ req.requestedBy ∧ env.decodeProfile req.payload = .ok edited ∧
    profile = { edited with id := req.profileID }

/-- The profile update the move sends to the repository. -/
def sent (s : EditPool) : Move EditCall Choice → Option Profile
  | .start _ => none
  | .step i _ =>
    match s.tasks[i]? with
    | some ⟨_, _, .op (.query (.updateProfile profile)) _⟩ => some profile
    | _ => none

/-- A row that requires approval stays, or becomes what an approved request asks for; no
other update is sent to it, whichever columns it would set. -/
def ByApproval (env : Env) (s : EditPool) (m : Move EditCall Choice) (s' : EditPool) : Prop :=
  ∀ id row, s.store.profiles.get? id = some row → row.requiresApproval = true →
    (s'.store.profiles.get? id = some row ∨ ∃ profile, ApprovedEdit env s.store profile ∧
      profile.id = id ∧
      s'.store.profiles.get? id = some (env.profileColumns.write profile row)) ∧
    ∀ profile, sent s m = some profile → profile.id = id → ApprovedEdit env s.store profile

/-- The flag of the profile the call has read. -/
def flagRead : List (Event Op.Result) → Option Bool
  | [] => none
  | ⟨.query (.getProfile _), .ok live⟩ :: _ => some live.requiresApproval
  | _ :: log => flagRead log

/-- A direct write finds the stored flag as the call has read it. -/
def flagAsRead : EditCall → List (Event Op.Result) → DB → Op → Choice → Bool
  | .updateProfile .., log, db, .query (.updateProfile profile), _ =>
    (db.profiles.get? profile.id).all (fun row => decide (flagRead log = some row.requiresApproval))
  | _, _, _, _, _ => true

/-- What an approval has seen before it applies a payload. -/
structure Justified (env : Env) (requestID decidedBy : String) (log : List (Event Op.Result))
    (profile : Profile) : Prop where
  other : ∃ req, ⟨.query (.getApproval requestID), .ok req⟩ ∈ log ∧ decidedBy ≠ req.requestedBy
  payload : ∃ req edited, ⟨.query (.getApproval requestID), .ok req⟩ ∈ log ∧
    req.kind = .profileEdit ∧ env.decodeProfile req.payload = .ok edited ∧
    profile = { edited with id := req.profileID }
  decided : ∃ at_ note rows,
    ⟨.query (.decidePending requestID .approved decidedBy at_ note), .ok rows⟩ ∈ log ∧ rows ≠ 0

/-- A direct write comes after a read of the flag as off, an applied payload after a
decision. -/
def EditOp (env : Env) : EditCall → List (Event Op.Result) → Op → Prop
  | .updateProfile .., log, .query (.updateProfile _) => flagRead log = some false
  | .approve requestID decidedBy _, log, .query (.updateProfile profile) =>
    Justified env requestID decidedBy log profile
  | _, _, _ => True

section Calls

variable {env : Env}

theorem editOp_of_other (call : EditCall) (log : List (Event Op.Result)) {o : Op}
    (other : ∀ profile, o ≠ .query (.updateProfile profile)) : EditOp env call log o := by
  unfold EditOp
  split
  · exact absurd rfl (other _)
  · exact absurd rfl (other _)
  · trivial

variable {svc : ProfileService}

theorem updateProfile_ahead (wired : svc.approvalService = true)
    (off : env.bypass = false) (caller : Option Caller) (id : String) (profile : ProfileEdit) :
    (updateProfile env svc caller id profile).AllFrom
      (EditOp env (.updateProfile caller id profile)) [] := by
  unfold updateProfile
  cases validateProfile profile with
  | error e => trivial
  | ok _ =>
    rw [if_pos wired]
    refine ⟨editOp_of_other _ _ (by simp), fun r => ?_⟩
    cases r with
    | error e => trivial
    | ok live =>
      dsimp only
      split
      · cases svc.marshal { profile with id } with
        | error e => trivial
        | ok payload =>
          refine Program.All.allFrom (p := fun o => ∀ profile, o ≠ .query (.updateProfile profile))
            (fun log o other => editOp_of_other _ log other) ?_ _
          refine requestProfileEditApproval_all (fun o read _ profile same => ?_)
            (fun _ _ _ same => by cases same) off _ _ _
            (forall_except.mpr ⟨fun _ => trivial, fun _ => trivial⟩)
          cases same
          cases read
      next ungated =>
        have unset : live.requiresApproval = false := by
          cases flag : live.requiresApproval with
          | false => rfl
          | true => simp [flag] at ungated
        refine ⟨congrArg some unset, fun r => ?_⟩
        cases r with
        | error e => trivial
        | ok _ => trivial

/-- `UpdateState` goes on without an error only after it has hit a row. -/
theorem updateState_ahead {p : List (Event Op.Result) → Op → Prop}
    (harmless : ∀ log o, (∀ profile, o ≠ .query (.updateProfile profile)) → p log o)
    {id decidedBy note : String} {state : ApprovalState} {decidedAt : Time}
    {next : Except RepoError Unit → Service} (log : List (Event Op.Result))
    (fails : ∀ e log, (next (.error e)).AllFrom p log)
    (goes : ∀ note rows, rows ≠ 0 → (next (.ok ())).AllFrom p
      (⟨.query (.decidePending id state decidedBy decidedAt note), .ok rows⟩ :: log)) :
    (updateState id state decidedBy decidedAt note next).AllFrom p log := by
  unfold updateState
  generalize (if note = "" then none else some note) = stored
  refine ⟨harmless _ _ (by simp), fun r => ?_⟩
  cases r with
  | error e => exact fails e _
  | ok rows =>
    dsimp only
    split
    · refine ⟨harmless _ _ (by simp), fun r => ?_⟩
      cases r with
      | error e => exact fails e _
      | ok existing =>
        dsimp only
        split
        · exact fails _ _
        · exact fails _ _
    next hit => exact goes _ rows hit

theorem approve_ahead (requestID decidedBy note : String) :
    (approve env requestID decidedBy note).AllFrom
      (EditOp env (.approve requestID decidedBy note)) [] := by
  have harmless : ∀ log o, (∀ profile, o ≠ .query (.updateProfile profile)) →
      EditOp env (.approve requestID decidedBy note) log o :=
    fun log o other => editOp_of_other _ log other
  refine ⟨harmless _ _ (by simp), fun r => ?_⟩
  cases r with
  | error e => trivial
  | ok asked =>
    dsimp only
    split
    · trivial
    split
    · trivial
    next other =>
      refine ⟨harmless _ _ (by simp), fun now => ⟨harmless _ _ (by simp), fun r => ?_⟩⟩
      cases r with
      | error e => trivial
      | ok req =>
        dsimp only
        split
        · trivial
        refine updateState_ahead harmless _ (fun e log => trivial) fun note rows hit => ?_
        dsimp only
        split
        next edit =>
          split
          · unfold applyProfileEdit
            cases decoded : env.decodeProfile req.payload with
            | error e => trivial
            | ok edited =>
              refine ⟨⟨⟨asked, by simp, other⟩, ⟨req, edited, by simp, edit, decoded, rfl⟩,
                ⟨now, note, rows, by simp, hit⟩⟩, fun r => ?_⟩
              cases r with
              | error e => trivial
              | ok _ => trivial
          · trivial
        · refine ⟨harmless _ _ (by simp), fun r => ?_⟩
          cases r with
          | error e => trivial
          | ok _ => trivial

theorem editBody_ahead (wired : svc.approvalService = true)
    (off : env.bypass = false) (call : EditCall) :
    (editBody env svc call).AllFrom (EditOp env call) [] := by
  cases call with
  | updateProfile caller id profile => exact updateProfile_ahead wired off caller id profile
  | approve requestID decidedBy note => exact approve_ahead requestID decidedBy note

/-- What an approval has seen is still so when it applies the payload. -/
theorem Justified.approvedEdit {db : DB} {requestID decidedBy : String}
    {log : List (Event Op.Result)} {profile : Profile}
    (justified : Justified env requestID decidedBy log profile)
    (seen : ∀ event ∈ log, Witnessed event db) : ApprovedEdit env db profile := by
  obtain ⟨⟨asked, read, other⟩, ⟨req, edited, read', kind, decoded, rfl⟩,
    at_, note, rows, decided, hit⟩ := justified
  obtain ⟨now, found, progress⟩ := seen _ read
  obtain ⟨now', found', progress'⟩ := seen _ read'
  obtain ⟨now'', found'', approved, by_⟩ := seen _ decided hit (by simp)
  obtain rfl : now' = now := Option.some.inj (found'.symm.trans found)
  obtain rfl : now'' = now' := Option.some.inj (found''.symm.trans found')
  refine ⟨requestID, now'', decidedBy, edited, found, ?_, approved, by_, ?_, ?_, ?_⟩
  · rw [progress'.columns, kind]
  · rw [progress.requestedBy]
    exact other
  · rw [progress'.columns, decoded]
  · rw [progress'.columns]

end Calls

section Steps

variable {env : Env} {svc : ProfileService} {s s' : EditPool}

theorem grounded {ok : EditPool → Move EditCall Choice → Prop}
    (wired : svc.approvalService = true) (off : env.bypass = false)
    (reached : ReachableUnder (editStep env svc) Idle ok s) :
    ∀ task ∈ s.tasks, Grounded (EditOp env) Witnessed s.store task :=
  grounded_of_disciplined (editBody_ahead wired off)
    (fun s _ choice _ _ o _ _ _ => witnessed_exec env s.store o choice)
    (fun _ o _ _ seen => seen.kept (exec_requestsKept o)) (fun _ initial => initial) reached

variable {profile row : Profile} {m : Move EditCall Choice}

/-- An update sent to a row that requires approval is an approved payload: it comes from an
approval, since a direct write would find the flag as it was read. -/
theorem approvedEdit_of_grounded {call : EditCall} {log : List (Event Op.Result)}
    {next : Except RepoError Unit → Service} {c : Choice}
    (task : Grounded (EditOp env) Witnessed s.store
      ⟨call, log, .op (.query (.updateProfile profile)) next⟩)
    (allowed : flagAsRead call log s.store (.query (.updateProfile profile)) c = true)
    (found : s.store.profiles.get? profile.id = some row) (gated : row.requiresApproval = true) :
    ApprovedEdit env s.store profile := by
  have ahead := task.rest.1
  cases call with
  | updateProfile caller id edit =>
    have read : flagRead log = some false := ahead
    simp only [flagAsRead, found, Option.all_some, decide_eq_true_eq, read, gated,
      Option.some.injEq, Bool.false_eq_true] at allowed
  | approve requestID decidedBy note =>
    have justified : Justified env requestID decidedBy log profile := ahead
    exact justified.approvedEdit task.log

theorem sent_eq_some (sends : sent s m = some profile) : ∃ i c call log next, m = .step i c ∧
      s.tasks[i]? = some ⟨call, log, .op (.query (.updateProfile profile)) next⟩ := by
  cases m with
  | start call => cases sends
  | step i c =>
    simp only [sent] at sends
    split at sends
    next call log profile' next current =>
      cases sends
      exact ⟨i, c, call, log, next, rfl, current⟩
    · cases sends

theorem profile_step (taken : editStep env svc s m = some s')
    {id : String} (found : s.store.profiles.get? id = some row) :
    s'.store.profiles.get? id = some row ∨ ∃ profile, sent s m = some profile ∧ profile.id = id ∧
      s'.store.profiles.get? id = some (env.profileColumns.write profile row) := by
  cases poolStep_effect taken with
  | start | fork => exact .inl found
  | @op i _ _ o _ c current =>
    refine exec_rely (fun _ after => after.profiles.get? id = some row ∨ ∃ profile,
      sent s (.step i c) = some profile ∧ profile.id = id ∧
      after.profiles.get? id = some (env.profileColumns.write profile row)) (.inl found) o ?_
    intro q db' value isQuery performed
    subst isQuery
    obtain same | ⟨profile, rfl, keyed, now⟩ := perform_profile performed found
    · exact .inl same
    · exact .inr ⟨profile, by simp only [sent, current], keyed, now⟩

/-- In every run in which a direct write finds the stored flag as the call has read it, a
profile that requires approval changes only to the payload of a request approved by someone
other than its requester. -/
theorem gated_edits_approved (wired : svc.approvalService = true) (off : env.bypass = false)
    (reached : ReachableUnder (editStep env svc) Idle
      (fun s m => disciplined flagAsRead s m = true) s)
    (m : Move EditCall Choice) (allowed : disciplined flagAsRead s m = true)
    (taken : editStep env svc s m = some s') : ByApproval env s m s' := by
  intro id row found gated
  have approved : ∀ profile, sent s m = some profile → profile.id = id →
      ApprovedEdit env s.store profile := by
    intro profile sends keyed
    obtain ⟨i, c, call, log, next, rfl, current⟩ := sent_eq_some sends
    exact approvedEdit_of_grounded (grounded wired off reached _ (List.mem_of_getElem? current))
      (may_of_disciplined allowed current) (keyed.symm ▸ found) gated
  refine ⟨?_, approved⟩
  obtain same | ⟨profile, sends, keyed, now⟩ := profile_step taken found
  · exact .inl same
  · exact .inr ⟨profile, approved profile sends keyed, keyed, now⟩

end Steps

section Exhibits

/-- Every payload decodes to the one profile. -/
def editEnv (columns : ProfileColumns) (edited : Profile) : Env :=
  { Env.plain with profileColumns := columns, decodeProfile := fun _ => .ok edited }

def gate : ProfileService := ⟨true, fun _ => .ok [0]⟩

def editRequest : ApprovalRequest := newRequest "ar-1" .profileEdit "" "" "prof-1" "alice" [0] 0

/-- One profile, and a request to edit it. -/
def editedPool (requiresApproval : Bool) : EditPool :=
  ⟨{ DB.empty with
      profiles := ⟨[plainProfile "prof-1" requiresApproval], List.nodup_singleton _⟩
      approvals := ⟨[editRequest], List.nodup_singleton _⟩ }, []⟩

def shortLived (requiresApproval : Bool) : Profile :=
  { plainProfile "prof-1" requiresApproval with maxTTLSeconds := 60 }

def approveEdit : EditCall := .approve "ar-1" "bob" ""

def directEdit : EditCall :=
  .updateProfile none "prof-1" { shortLived false with name := "web", allowedKeyAlgorithms := [] }

def changed (s s' : EditPool) : Bool :=
  decide ((s'.store.profiles.get? "prof-1") ≠ s.store.profiles.get? "prof-1") &&
    (s.store.profiles.get? "prof-1").any Profile.requiresApproval

/-- The change is no request's payload. -/
def unasked (env : Env) (s s' : EditPool) : Bool :=
  s.store.approvals.rows.all (fun req => match env.decodeProfile req.payload with
    | .error _ => true
    | .ok edited => decide (s'.store.profiles.get? "prof-1" ≠ (s.store.profiles.get? "prof-1").map
        (env.profileColumns.write { edited with id := req.profileID })))

theorem gated_edits_approved_short :
    ∃ s m s', ReachableUnder (editStep (editEnv .all (shortLived true)) gate) Idle
        (fun s m => disciplined flagAsRead s m = true) s ∧
      editStep (editEnv .all (shortLived true)) gate s m = some s' ∧ changed s s' = true ∧
      ByApproval (editEnv .all (shortLived true)) s m s' := by
  obtain ⟨s, reached, allowed, s', taken, differs⟩ := exists_reachable_of_replay
    (editStep (editEnv .all (shortLived true)) gate) (disciplined flagAsRead)
    (show Idle (editedPool true) from rfl)
    (.start approveEdit :: List.replicate 4 (.step 0 .plain))
    (fun s => disciplined flagAsRead s (.step 0 .plain) ∧ ∃ s',
      editStep (editEnv .all (shortLived true)) gate s (.step 0 .plain) = some s' ∧ changed s s')
    (by decide +kernel)
  exact ⟨s, _, s', reached, taken, differs,
    gated_edits_approved rfl rfl reached _ allowed taken⟩

theorem not_byApproval {env : Env} {s s' : EditPool} {m : Move EditCall Choice}
    (differs : changed s s' = true) (foreign : unasked env s s' = true) :
    ¬ ByApproval env s m s' := by
  intro holds
  rw [changed, Bool.and_eq_true, decide_eq_true_eq, Option.any_eq_true] at differs
  obtain ⟨differs, row, found, gated⟩ := differs
  obtain same | ⟨profile, approved, -, now⟩ := (holds "prof-1" row found gated).1
  · exact differs (same.trans found.symm)
  · obtain ⟨requestID, req, decider, edited, stored, -, -, -, -, decoded, rfl⟩ := approved
    have excluded := List.all_eq_true.mp foreign req (Table.get?_mem stored)
    simp only [decoded, decide_eq_true_eq] at excluded
    exact excluded (by rw [now, found, Option.map_some])

/-- The step after the moves changes the profile without an approval. -/
theorem exists_unapproved (env : Env) (moves : List (Move EditCall Choice)) {start : EditPool}
    (idle : Idle start)
    (result : ∃ s, replay (editStep env gate) (fun _ _ => true) start moves = some s ∧ ∃ s',
      editStep env gate s (.step 0 .plain) = some s' ∧ changed s s' ∧ unasked env s s') :
    ∃ s m s', Reachable (editStep env gate) Idle s ∧ editStep env gate s m = some s' ∧
      ¬ ByApproval env s m s' := by
  obtain ⟨s, reached, s', taken, differs, unapproved⟩ :=
    exists_reached_of_replay (editStep env gate) idle moves _ result
  exact ⟨s, _, s', reached, taken, not_byApproval differs unapproved⟩

/-- With Postgres the flag is never read, so an update goes through as if it were off. With
every column read, an approval turns the flag on after an update has read it. -/
theorem gated_profile_overwritten :
    (∃ env svc s m s', env.profileColumns = .postgres ∧ svc.approvalService = true ∧
      env.bypass = false ∧ Reachable (editStep env svc) Idle s ∧
      editStep env svc s m = some s' ∧ ¬ ByApproval env s m s') ∧
    ∃ env svc s m s', env.profileColumns = .all ∧ svc.approvalService = true ∧
      env.bypass = false ∧ Reachable (editStep env svc) Idle s ∧
      editStep env svc s m = some s' ∧ ¬ ByApproval env s m s' := by
  constructor
  · obtain ⟨s, m, s', reached, taken, fails⟩ := exists_unapproved
      (editEnv .postgres (plainProfile "prof-1" true)) [.start directEdit, .step 0 .plain]
      (show Idle (editedPool true) from rfl) (by decide +kernel)
    exact ⟨_, gate, s, m, s', rfl, rfl, rfl, reached, taken, fails⟩
  · obtain ⟨s, m, s', reached, taken, fails⟩ := exists_unapproved
      (editEnv .all (plainProfile "prof-1" true))
      ([.start directEdit, .start approveEdit, .step 0 .plain] ++
        List.replicate 5 (.step 1 .plain))
      (show Idle (editedPool false) from rfl) (by decide +kernel)
    exact ⟨_, gate, s, m, s', rfl, rfl, rfl, reached, taken, fails⟩

end Exhibits

end Certctl.Guarantees.ProfileEdits

import Certctl.Source.Jobs.Decisions
import Certctl.Source.Jobs.Footprints

/-!
The profile service. An update reads the live profile; if that profile or the edit itself
requires approval, the edit becomes the payload of an approval request, otherwise it is
written. The write does not look at the row again. Audit rows are left out.

Source: internal/service/profile.go; internal/domain/profile.go.
-/
namespace Certctl.Source.Jobs

open Lib

structure KeyAlgorithmRule where
  algorithm : String
  minSize : Int

/-- A profile as a client sends it, with the fields that only its validation reads. -/
structure ProfileEdit extends Profile where
  name : String
  allowedKeyAlgorithms : List KeyAlgorithmRule

def validKeyAlgorithms : List String := ["RSA", "ECDSA", "Ed25519"]

def validEKUs : List String :=
  ["serverAuth", "clientAuth", "codeSigning", "emailProtection", "timeStamping"]

def validateKeyAlgorithm (rule : KeyAlgorithmRule) : Except String Unit :=
  if rule.algorithm ∉ validKeyAlgorithms then
    .error ("invalid key algorithm: " ++ rule.algorithm ++ " (allowed: RSA, ECDSA, Ed25519)")
  else if rule.algorithm = "RSA" ∧ rule.minSize < 2048 then
    .error ("RSA minimum key size must be at least 2048, got " ++
      String.ofList (decimal rule.minSize))
  else if rule.algorithm = "ECDSA" ∧ rule.minSize < 256 then
    .error ("ECDSA minimum key size must be at least 256, got " ++
      String.ofList (decimal rule.minSize))
  else .ok ()

def validateEKU (eku : String) : Except String Unit :=
  if eku ∈ validEKUs then .ok () else .error ("invalid EKU: " ++ eku)

def validateProfile (p : ProfileEdit) : Except String Unit := do
  if p.name = "" then throw "profile name is required"
  if p.name.utf8ByteSize > 255 then throw "profile name exceeds 255 characters"
  p.allowedKeyAlgorithms.forM validateKeyAlgorithm
  p.allowedEKUs.forM validateEKU
  if p.maxTTLSeconds < 0 then throw "max_ttl_seconds cannot be negative"
  if p.allowShortLived ∧ p.maxTTLSeconds ≥ 3600 then
    throw ("allow_short_lived is true but max_ttl_seconds (" ++
      String.ofList (decimal p.maxTTLSeconds) ++
      ") is >= 3600; short-lived certs must have TTL under 1 hour")

/-- The approval service may be wired or not; the encoding of a profile is taken as given. -/
structure ProfileService where
  approvalService : Bool
  marshal : ProfileEdit → Except String (List UInt8)

/-- What the authentication middleware left in the context. -/
structure Caller where
  actorID : String
  user : Option String

def actorFromContext : Option Caller → String
  | none => "api"
  | some caller =>
    if caller.actorID ≠ "" then caller.actorID
    else
      match caller.user with
      | some user => if user ≠ "" then user else "api"
      | none => "api"

def profileEditPendingApproval : String := "profile edit gated by approval workflow"

def writeProfile (profile : ProfileEdit) : Service :=
  query (.updateProfile profile.toProfile) fun
  | .error e => .done (.error ("failed to update profile: " ++ e.message))
  | .ok _ => .done .ok

def updateProfile (env : Env) (svc : ProfileService) (caller : Option Caller) (id : String)
    (edit : ProfileEdit) : Service :=
  match validateProfile edit with
  | .error e => .done (.error e)
  | .ok () =>
    let profile := { edit with id }
    if svc.approvalService then
      query (.getProfile id) fun
      | .error e => .done (.error ("failed to load live profile: " ++ e.message))
      | .ok live =>
        if live.requiresApproval || profile.requiresApproval then
          match svc.marshal profile with
          | .error e => .done (.error ("marshal profile for approval payload: " ++ e))
          | .ok payload =>
            requestProfileEditApproval env id (actorFromContext caller) payload fun
            | .error e => .done (.error ("approval gate: " ++ e))
            | .ok approvalID =>
              .done (.error (profileEditPendingApproval ++ ": approval=" ++ approvalID))
        else writeProfile profile
    else writeProfile profile

section Effects

variable {env : Env} {db db' : DB} {c : Choice}

/-- A stored profile stays as it is, or an update for it is carried out. -/
theorem perform_profile {q : Query} {value : q.Value}
    (performed : perform env db c q = .ok (db', value)) {id : String} {row : Profile}
    (found : db.profiles.get? id = some row) :
    db'.profiles.get? id = some row ∨ ∃ profile, q = .updateProfile profile ∧ profile.id = id ∧
      db'.profiles.get? id = some (env.profileColumns.write profile row) := by
  cases q with
  | updateProfile profile =>
    simp only [perform] at performed
    split at performed
    next profiles updated =>
      cases performed
      by_cases same : id = profile.id
      · refine .inr ⟨profile, rfl, same.symm, ?_⟩
        rw [Table.get?_update updated, if_pos same, ← same, found, Option.map_some]
      · left
        rw [Table.get?_update updated, if_neg same]
        exact found
    · cases performed
  | _ =>
    left
    rw [(perform_frame performed).2.2.2.2.2 (by simp)]
    exact found

end Effects

/-- A result of the approval repository that stays true: a request that was read keeps what
it is for, and one that was decided stays as it was decided. -/
def Witnessed : Event Op.Result → DB → Prop
  | ⟨.query (.getApproval id), .ok req⟩, db =>
    ∃ now, db.approvals.get? id = some now ∧ Progress req now
  | ⟨.query (.decidePending id state decidedBy ..), .ok rows⟩, db =>
    rows ≠ 0 → state ≠ .pending →
      ∃ req, db.approvals.get? id = some req ∧ req.state = state ∧ req.decidedBy = some decidedBy
  | _, _ => True

theorem Witnessed.kept {event : Event Op.Result} {db db' : DB} (seen : Witnessed event db)
    (kept : RequestsKept db db') : Witnessed event db' := by
  unfold Witnessed at seen ⊢
  split at seen
  next id req =>
    obtain ⟨now, found, progress⟩ := seen
    obtain ⟨later, found', progress'⟩ := kept id now found
    exact ⟨later, found', progress.trans progress'⟩
  next id state decidedBy at_ note rows =>
    intro hit closed
    obtain ⟨req, found, isState, by_⟩ := seen hit closed
    obtain ⟨later, found', progress⟩ := kept id req found
    rw [progress.settled (isState ▸ closed)] at found'
    exact ⟨req, found', isState, by_⟩
  · trivial

/-- A result is so when it is returned. -/
theorem witnessed_exec (env : Env) (db : DB) (o : Op) (c : Choice) :
    Witnessed ⟨o, (exec env db o c).2⟩ (exec env db o c).1 := by
  unfold Witnessed
  split
  next id req same =>
    simp only [Event.mk.injEq] at same
    obtain ⟨rfl, returned⟩ := same
    obtain ⟨found, store⟩ := getApproval_ok (eq_of_heq returned)
    exact ⟨req, store.symm ▸ found, .refl req⟩
  next id state decidedBy at_ note rows same =>
    simp only [Event.mk.injEq] at same
    obtain ⟨rfl, returned⟩ := same
    intro hit _
    obtain ⟨req, -, -, after⟩ := decidePending_ok hit (eq_of_heq returned)
    exact ⟨_, after, rfl, rfl⟩
  · trivial

end Certctl.Source.Jobs

import Certctl.Source.Acme.Service

/-!
`RespondToChallenge`, the validator callback `recordChallengeOutcome`, and the
authorization read. The key authorization handed to the validator is left out:
the validator's verdict is an argument.

Source: internal/service/acme_authz.go, acme_challenges.go.
-/
namespace Certctl.Source.Acme

open Lib

/-- An authorization as the repository returns it, with its challenges. -/
def lookupAuthz (st : Store) (authzID : String) :
    Except AcmeError (Authorization × List Challenge) := do
  let authz ← orFail (st.authzs.get? authzID) .authzNotFound
  return (authz, st.listChallengesByAuthz authzID)

inductive RespondEntry where
  /-- the challenge is already past `pending`; the row is returned as it is -/
  | settled (ch : Challenge)
  | dispatch (ch : Challenge) (authz : Authorization)

/-- Everything before the write to `processing`. The status test comes before the
ownership test. -/
def respondEntry (env : Env) (st : Store) (accountID challengeID : String) (allowed : Bool) :
    Except AcmeError RespondEntry := do
  ensure (env.tx ∧ env.auditService)
    (.unwired "acme: respond-to-challenge requires SetTransactor + SetAuditService")
  ensure env.validatorPool .challengePoolUnconfigured
  ensure (¬ (env.rateLimiter ∧ env.cfg.rateLimitChallengeRespondsPerHour > 0 ∧ ¬ allowed))
    .rateLimited
  let ch ← orFail (st.challenges.get? challengeID) .challengeNotFound
  if ch.status = .valid ∨ ch.status = .invalid then return .settled ch
  else if ch.status = .processing then return .settled ch
  else
    let authz ← orFail (st.authzs.get? ch.authzID) .lookupParentAuthz
    let order ← orFail (st.orders.get? authz.orderID) .lookupParentOrder
    ensure (order.accountID = accountID) .orderUnauthorized
    return .dispatch ch authz

/-- The challenge image of the first write, and the row the caller gets back. -/
def dispatchWrite (ch : Challenge) : Challenge := { ch with status := .processing }

/-- The validator's verdict; a failure carries the problem derived from its
error, when there is one. -/
inductive Verdict where
  | passed
  | failed (problem : Option Problem)

def Verdict.authzStatus : Verdict → AuthzStatus
  | .passed => .valid
  | .failed _ => .invalid

/-- The challenge image the callback writes. -/
def outcomeChallenge (now : Time) (ch : Challenge) : Verdict → Challenge
  | .passed => { ch with status := .valid, validatedAt := some now, error := none }
  | .failed none => { ch with status := .invalid }
  | .failed (some problem) => { ch with status := .invalid, error := some problem }

/-- The status the cascade assumes for a listed row: its own new status for the
authorization being decided, the stored one for the others. -/
def assumedStatus (authzID : String) (new : AuthzStatus) (a : Authorization) : AuthzStatus :=
  if a.authzID = authzID then new else a.status

def cascadeAllValid (authzs : List Authorization) (authzID : String) (new : AuthzStatus) : Bool :=
  !authzs.isEmpty && authzs.all (fun a => decide (assumedStatus authzID new a = .valid))

def cascadeAnyInvalid (authzs : List Authorization) (authzID : String) (new : AuthzStatus) :
    Bool :=
  authzs.any (fun a => decide (assumedStatus authzID new a = .invalid))

/-- The order image the callback writes, if it writes one. -/
def cascadeWrite (authzs : List Authorization) (authzID : String) (new : AuthzStatus)
    (order : Order) : Option Order :=
  if cascadeAllValid authzs authzID new ∧ order.status = .pending then
    some { order with status := .ready }
  else if cascadeAnyInvalid authzs authzID new ∧ order.status = .pending then
    some { order with
      status := .invalid
      error := some ⟨"urn:ietf:params:acme:error:incorrectResponse",
        "one or more authorizations failed", 403⟩ }
  else none

theorem respondEntry_ok {env : Env} {st : Store} {accountID challengeID : String} {allowed : Bool}
    {entry : RespondEntry}
    (entered : respondEntry env st accountID challengeID allowed = .ok entry) :
    ∃ ch, st.challenges.get? challengeID = some ch ∧
      ((ch.status ≠ .pending ∧ entry = .settled ch) ∨
        (ch.status = .pending ∧ ∃ authz order, st.authzs.get? ch.authzID = some authz ∧
          st.orders.get? authz.orderID = some order ∧ order.accountID = accountID ∧
          entry = .dispatch ch authz)) := by
  simp only [respondEntry, bind_eq_ok, ensure_eq_ok, orFail_eq_ok, exists_const] at entered
  obtain ⟨_, _, _, ch, found, rest⟩ := entered
  refine ⟨ch, found, ?_⟩
  split at rest
  next decided =>
    refine .inl ⟨?_, (Except.ok.inj rest).symm⟩
    rcases decided with h | h <;> simp [h]
  next undecided =>
    split at rest
    next running => exact .inl ⟨by simp [running], (Except.ok.inj rest).symm⟩
    next idle =>
      have pending : ch.status = .pending := by
        cases status : ch.status <;> simp_all
      simp only [bind_eq_ok, orFail_eq_ok, ensure_eq_ok, exists_const] at rest
      obtain ⟨authz, foundAuthz, order, foundOrder, owner, result⟩ := rest
      exact .inr ⟨pending, authz, order, foundAuthz, foundOrder, owner,
        (Except.ok.inj result).symm⟩

variable {authzs : List Authorization} {new : AuthzStatus} {authzID : String}

/-- The cascade only ever moves a pending order, to `ready` or `invalid`. -/
theorem cascadeWrite_eq_some
    {order image : Order} (written : cascadeWrite authzs authzID new order = some image) :
    order.status = .pending ∧ image.orderID = order.orderID ∧
      image.certificateID = order.certificateID ∧ image.identifiers = order.identifiers ∧
      ((image.status = .ready ∧ cascadeAllValid authzs authzID new) ∨ image.status = .invalid) := by
  unfold cascadeWrite at written
  split at written
  next ready =>
    cases written
    exact ⟨ready.2, rfl, rfl, rfl, .inl ⟨rfl, ready.1⟩⟩
  next =>
    split at written
    next failed =>
      cases written
      exact ⟨failed.2, rfl, rfl, rfl, .inr rfl⟩
    next => cases written

theorem cascadeAllValid_iff :
    cascadeAllValid authzs authzID new = true ↔
      authzs ≠ [] ∧ ∀ a ∈ authzs, assumedStatus authzID new a = .valid := by
  simp [cascadeAllValid]

end Certctl.Source.Acme

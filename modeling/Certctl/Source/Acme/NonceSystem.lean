import Certctl.Lib.Transition
import Certctl.Source.Acme.Verifier

/-!
Requests, nonces and the sweep as one system. A request stops between the checks before
the nonce, its consumption in one statement, and the checks behind it; revoke-cert may go
through them a second time. The database clock and the account table may change at will
between steps, and any repository call may fail.

Source: internal/api/handler/acme.go; internal/service/acme.go, acme_gc.go;
internal/api/acme/jws.go.
-/
namespace Certctl.Source.Acme

open Lib

/-- The endpoints by the way they call the verifier. -/
inductive Endpoint where
  | newAccount
  | existingAccount
  | revokeCert
  deriving DecidableEq

/-- What the first call expects. -/
def Endpoint.expectNewAccount : Endpoint → Bool
  | .newAccount => true
  | .existingAccount => false
  | .revokeCert => false

inductive CallPhase where
  | checking (expectNewAccount : Bool)
  | resolving (expectNewAccount : Bool) (jws : Jws) (sig : JwsSignature)
  | refused (e : JwsError)
  | verified (v : VerifiedEnvelope)
  deriving DecidableEq

structure VerifyCall where
  request : Inbound
  endpoint : Endpoint
  phase : CallPhase
  deriving DecidableEq

/-- The handlers refuse on any error, except that revoke-cert tries the second way after
two errors of the first. -/
def VerifyCall.afterError (call : VerifyCall) (expectNewAccount : Bool) (e : JwsError) :
    CallPhase :=
  if call.endpoint = .revokeCert ∧ expectNewAccount = false ∧
      (e = .expectKidGotJWK ∨ e = .accountNotFound) then .checking true
  else .refused e

/-- Besides the tables and the calls the state records the nonces issued and the nonces
of the successful calls of the verifier; no step reads these. -/
structure NonceSys where
  now : Time
  nonces : Nonces
  accounts : Table Account.accountID
  calls : List VerifyCall
  issued : List String
  accepted : List String

structure NonceEnv where
  nonceTTL : Time
  storedKey : String → Except String JsonWebKey

/-- A failing statement of the consumption may have been carried out or not. -/
inductive NonceAct where
  | clock (now : Time)
  | issueNonce (nonce : String) (clock : Time)
  | gcExpiredNonces
  | setAccounts (accounts : Table Account.accountID)
  | arrive (request : Inbound) (endpoint : Endpoint)
  | consume (c : Nat) (fault : Option (String × Bool))
  | resolve (c : Nat) (fault : Option String)

def NonceSys.move (s : NonceSys) (c : Nat) (call : VerifyCall) (phase : CallPhase) : NonceSys :=
  { s with calls := s.calls.set c { call with phase := phase } }

/-- The checks of the header and the update of the nonce. -/
def consumeStep (s : NonceSys) (c : Nat) (call : VerifyCall) (expectNewAccount : Bool)
    (fault : Option (String × Bool)) : NonceSys :=
  match checkHeader call.request.body call.request.requestURL with
  | .error e => s.move c call (call.afterError expectNewAccount e)
  | .ok (jws, sig) =>
    let consumed := s.nonces.consume s.now sig.nonce
    match fault with
    | some (cause, applied) =>
      { s with nonces := if applied then consumed.1 else s.nonces }.move c call
        (call.afterError expectNewAccount (.badNonce cause))
    | none =>
      { s with nonces := consumed.1 }.move c call
        (if consumed.2 then .resolving expectNewAccount jws sig
          else call.afterError expectNewAccount (.badNonce "sql: no rows in result set"))

def resolveStep (env : NonceEnv) (s : NonceSys) (c : Nat) (call : VerifyCall)
    (expectNewAccount : Bool) (jws : Jws) (sig : JwsSignature) (fault : Option String) : NonceSys :=
  match checkKey env.storedKey s.accounts fault call.request expectNewAccount jws sig with
  | .error e => s.move c call (call.afterError expectNewAccount e)
  | .ok v => { s with accepted := s.accepted ++ [sig.nonce] }.move c call (.verified v)

def nonceStep (env : NonceEnv) (s : NonceSys) : NonceAct → Option NonceSys
  | .clock now => some { s with now := now }
  | .issueNonce nonce clock =>
    (s.nonces.issue s.now clock env.nonceTTL nonce).map
      (fun nonces => { s with nonces := nonces, issued := s.issued ++ [nonce] })
  | .gcExpiredNonces => some { s with nonces := s.nonces.gcExpired s.now }
  | .setAccounts accounts => some { s with accounts := accounts }
  | .arrive request endpoint =>
    some { s with calls := s.calls ++ [⟨request, endpoint, .checking endpoint.expectNewAccount⟩] }
  | .consume c fault =>
    match s.calls[c]? with
    | some ⟨request, endpoint, .checking new⟩ =>
      some (consumeStep s c ⟨request, endpoint, .checking new⟩ new fault)
    | _ => none
  | .resolve c fault =>
    match s.calls[c]? with
    | some ⟨request, endpoint, .resolving new jws sig⟩ =>
      some (resolveStep env s c ⟨request, endpoint, .resolving new jws sig⟩ new jws sig fault)
    | _ => none

/-- The shapes of a step: a quiet one that at most loses nonces, a nonce issued, a request
arriving, and the moves of a request. Where its nonce was not met or its key did not pass, a
request ends or, after the key, may go the second way. -/
inductive NonceEffect (env : NonceEnv) (s : NonceSys) : NonceAct → NonceSys → Prop where
  | quiet {a : NonceAct} {s' : NonceSys} (calls : s'.calls = s.calls)
      (accepted : s'.accepted = s.accepted) (issued : s'.issued = s.issued)
      (fewer : ∀ n, s'.nonces.unused n = true → s.nonces.unused n = true) : NonceEffect env s a s'
  | issued {nonce clock nonces} (added : s.nonces.issue s.now clock env.nonceTTL nonce =
      some nonces) : NonceEffect env s (.issueNonce nonce clock)
        { s with nonces := nonces, issued := s.issued ++ [nonce] }
  | arrived {request endpoint} : NonceEffect env s (.arrive request endpoint) { s with
      calls := s.calls ++ [⟨request, endpoint, .checking endpoint.expectNewAccount⟩] }
  | ended {a c call nonces phase} (current : s.calls[c]? = some call)
      (way : (∃ e, phase = .refused e) ∨ ∃ new jws sig e,
        call.phase = .resolving new jws sig ∧ phase = call.afterError new e)
      (fewer : ∀ n, nonces.unused n = true → s.nonces.unused n = true) :
      NonceEffect env s a ({ s with nonces := nonces }.move c call phase)
  | consumed {a c call new jws sig} (current : s.calls[c]? = some call)
      (phase : call.phase = .checking new)
      (header : checkHeader call.request.body call.request.requestURL = .ok (jws, sig))
      (met : (s.nonces.consume s.now sig.nonce).2 = true) :
      NonceEffect env s a ({ s with nonces := (s.nonces.consume s.now sig.nonce).1 }.move c call
        (.resolving new jws sig))
  | resolved {a c call new jws sig fault v} (current : s.calls[c]? = some call)
      (phase : call.phase = .resolving new jws sig)
      (passed : checkKey env.storedKey s.accounts fault call.request new jws sig = .ok v) :
      NonceEffect env s a ({ s with accepted := s.accepted ++ [sig.nonce] }.move c call
        (.verified v))

variable {s : NonceSys} {call : VerifyCall} {new : Bool} {env : NonceEnv} {c : Nat} {a : NonceAct}

theorem refused_of_other {e : JwsError} (other : e ≠ .expectKidGotJWK ∧ e ≠ .accountNotFound) :
    call.afterError new e = .refused e := by
  unfold VerifyCall.afterError
  rw [if_neg]
  rintro ⟨-, -, retry | retry⟩
  · exact other.1 retry
  · exact other.2 retry

theorem consumeStep_effect {fault : Option (String × Bool)} (current : s.calls[c]? = some call)
    (phase : call.phase = .checking new) :
    NonceEffect env s a (consumeStep s c call new fault) := by
  unfold consumeStep
  split
  next e failed =>
    exact .ended current (.inl ⟨e, refused_of_other (checkHeader_error failed)⟩) fun _ same => same
  next jws sig header =>
    have lost : ∀ n, (s.nonces.consume s.now sig.nonce).1.unused n = true →
        s.nonces.unused n = true := fun _ => Nonces.unused_consume
    split
    next cause applied =>
      refine .ended current (.inl ⟨_, refused_of_other (by simp)⟩) ?_
      cases applied with
      | true => exact lost
      | false => exact fun _ same => same
    · dsimp only
      split
      next met => exact .consumed current phase header met
      · exact .ended current (.inl ⟨_, refused_of_other (by simp)⟩) lost

theorem nonceStep_effect {s' : NonceSys} (taken : nonceStep env s a = some s') :
    NonceEffect env s a s' := by
  cases a with
  | clock now | setAccounts accounts =>
    cases taken
    exact .quiet rfl rfl rfl fun _ same => same
  | gcExpiredNonces =>
    cases taken
    exact .quiet rfl rfl rfl fun _ => Nonces.unused_gcExpired
  | issueNonce nonce clock =>
    obtain ⟨nonces, added, rfl⟩ := Option.map_eq_some_iff.mp taken
    exact .issued added
  | arrive request endpoint =>
    cases taken
    exact .arrived
  | consume c fault =>
    simp only [nonceStep] at taken
    split at taken
    next current =>
      cases taken
      exact consumeStep_effect current rfl
    · cases taken
  | resolve c fault =>
    simp only [nonceStep] at taken
    split at taken
    next new jws sig current =>
      cases taken
      unfold resolveStep
      split
      next e _ => exact .ended current (.inr ⟨new, jws, sig, e, rfl, rfl⟩) fun _ same => same
      next v passed => exact .resolved current rfl passed
    · cases taken

def NonceSys.Initial (s : NonceSys) : Prop :=
  s.nonces = Table.empty NonceRow.nonce ∧ s.calls = [] ∧ s.issued = [] ∧ s.accepted = []

/-- The call holds a nonce it has consumed and not yet answered for. -/
def VerifyCall.holds (n : String) (call : VerifyCall) : Bool :=
  match call.phase with
  | .resolving _ _ sig => decide (sig.nonce = n)
  | _ => false

/-- Where the issues of a nonce have gone: accepted, held by a call, or unused. -/
def NonceSys.spentOrOpen (s : NonceSys) (n : String) : Nat :=
  s.accepted.count n + s.calls.countP (VerifyCall.holds n) + (s.nonces.unused n).toNat

theorem holds_afterError (n : String) (call : VerifyCall) (new : Bool) (e : JwsError) :
    ({ call with phase := call.afterError new e } : VerifyCall).holds n = false := by
  unfold VerifyCall.afterError VerifyCall.holds
  split
  next held =>
    split at held <;> cases held
  · rfl

end Certctl.Source.Acme

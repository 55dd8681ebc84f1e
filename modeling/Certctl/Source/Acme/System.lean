import Certctl.Source.Acme.Jws
import Certctl.Source.Acme.Finalize
import Certctl.Source.Acme.Challenge
import Certctl.Lib.Transition

/-!
The ACME server as an interleaving of service calls over one database. A call in
flight is what its goroutine holds in memory at a repository or transaction
boundary; a step lets one call cross to its next boundary, admits a new request,
runs one sweep of the garbage collector, or advances the clock.

Transactions are READ COMMITTED. A callback's updates are applied when it commits;
until then it holds the locks of its challenge and authorization rows, and another
writer of those rows waits. Reads through the pool see committed rows only. A
repository failure, a rollback or a crash ends a call at any boundary (`abort`).
The log is history kept for the statements; no step reads it.

Source: internal/service/acme_challenges.go, acme_gc.go, acme_orders.go.
-/
namespace Certctl.Source.Acme

open Lib

/-- What a finalize call carries besides its copy of the order. -/
structure FinalizeJob where
  profile : CertificateProfile
  csr : CertificateRequest
  csrPEM : String

/-- What a validator callback has decided: the challenge image, the snapshot of
the authorization, and the status the authorization gets. -/
structure Outcome where
  challenge : Challenge
  authz : Authorization
  status : AuthzStatus

/-- A service call between two boundaries. The order it carries is its in-memory
copy, as last read or written by it. -/
inductive Call where
  | finalizeMismatch (order : Order) (problem : Problem)
  | finalizeStepA (order : Order) (job : FinalizeJob)
  | finalizeIssue (order : Order) (job : FinalizeJob)
  | finalizeRejected (order : Order)
  | finalizeCreate (order : Order) (job : FinalizeJob) (issuerID : String) (issuance : Issuance)
  | finalizeStepC (order : Order) (job : FinalizeJob) (certID : String) (issuance : Issuance)
  | respondCommit (ch : Challenge) (authz : Authorization)
  | validating (ch : Challenge) (authz : Authorization)
  | outcomeBegun (o : Outcome)
  | outcomeListed (o : Outcome) (authzs : List Authorization)
  | outcomeRead (o : Outcome) (authzs : List Authorization) (order : Order)
  | returned

namespace Call

/-- The order copy held in memory. -/
def held : Call → Option Order
  | finalizeMismatch order _ => some order
  | finalizeStepA order _ => some order
  | finalizeIssue order _ => some order
  | finalizeRejected order => some order
  | finalizeCreate order _ _ _ => some order
  | finalizeStepC order _ _ _ => some order
  | outcomeRead _ _ order => some order
  | _ => none

/-- The open callback transaction, which holds row locks. -/
def openOutcome : Call → Option Outcome
  | outcomeBegun o => some o
  | outcomeListed o _ => some o
  | outcomeRead o _ _ => some o
  | _ => none

/-- The finalize transactions that do nothing but overwrite the order: the image
they write and the boundary behind them. -/
def overwrite : Call → Option (Order × Call)
  | finalizeMismatch order problem => some (mismatchWrite order problem, returned)
  | finalizeStepA order job =>
    some (processingWrite order, finalizeIssue (processingWrite order) job)
  | finalizeRejected order => some (rejectedWrite order, returned)
  | _ => none

end Call

inductive Event where
  | orderCreated (orderID : String) (profile : CertificateProfile) (mode : AuthMode)
  | authzValidated (authzID : String)
  | issued (order : Order) (profile : CertificateProfile) (request : IssueRequest)
  /-- a finalize call that returned from its entry; the error or certificate id -/
  | finalizeAnswered (order : Order) (result : AcmeError ⊕ String)

structure Sys where
  now : Time
  store : Store
  calls : List Call
  log : List Event

namespace Sys

def setCall (s : Sys) (c : Nat) (call : Call) : Sys := { s with calls := s.calls.set c call }

def spawn (s : Sys) (call : Call) : Sys := { s with calls := s.calls ++ [call] }

def record (s : Sys) (e : Event) : Sys := { s with log := s.log ++ [e] }

/-- Whether an open callback transaction holds the challenge row. -/
def challengeLocked (s : Sys) (challengeID : String) : Bool :=
  s.calls.any (fun call =>
    call.openOutcome.any (fun o => decide (o.challenge.challengeID = challengeID)))

def authzLocked (s : Sys) (authzID : String) : Bool :=
  s.calls.any (fun call => call.openOutcome.any (fun o => decide (o.challenge.authzID = authzID)))

end Sys

inductive Action where
  | tick (elapsed : Nat)
  | newAccount (req : NewAccountRequest)
  | newOrder (req : SignedRequest) (body : NewOrderRequest) (draw : NewOrderDraw)
  | respond (req : SignedRequest) (challengeID : String) (allowed : Bool)
  | respondCommit (c : Nat)
  | validated (c : Nat) (verdict : Verdict)
  | outcomeList (c : Nat)
  | outcomeGetOrder (c : Nat)
  | outcomeCommit (c : Nat)
  | finalize (req : SignedRequest) (orderID : String) (csr : CertificateRequest) (csrPEM : String)
  | finalizeOverwrite (c : Nat)
  | finalizeIssue (c : Nat) (issuerID : String) (result : Option Issuance)
  | finalizeCreate (c : Nat) (suffix : String)
  | finalizeStepC (c : Nat) (versionID : String)
  | abort (c : Nat)
  | gcExpireAuthorizations
  | gcInvalidateExpiredOrders

/-- The new-order handler: authentication, identifier check, service call. -/
def handleNewOrder (env : Env) (s : Sys) (req : SignedRequest) (body : NewOrderRequest)
    (draw : NewOrderDraw) : Except AcmeError CreatedOrder := do
  let account ← verifyJWS s.store.accounts req
  let problems := validateIdentifiers env.unicode body.identifiers
  ensure (problems = []) (.rejectedIdentifiers problems)
  createOrder env s.store s.now account.accountID req.profileID body draw

/-- The challenge handler up to the first write. -/
def handleRespond (env : Env) (s : Sys) (req : SignedRequest) (challengeID : String)
    (allowed : Bool) : Except AcmeError RespondEntry := do
  let account ← verifyJWS s.store.accounts req
  respondEntry env s.store account.accountID challengeID allowed

/-- The transaction of the validator callback, with the order image it writes. -/
def commitOutcome (st : Store) (now : Time) (o : Outcome) (image : Option Order) :
    Option Store := do
  let withChallenge ← st.updateChallenge o.challenge
  let withAuthz ← withChallenge.updateAuthzStatus now o.challenge.authzID o.status
  match image with
  | none => some withAuthz
  | some order => withAuthz.updateOrder now order

/-- Step C: the version row and the order in one transaction. -/
def commitStepC (st : Store) (now : Time) (version : CertificateVersion) (image : Order) :
    Option Store := do
  let inventory ← st.inventory.createVersion version
  { st with inventory }.updateOrder now image

/-- A finalize request of an authenticated account. A call that returns from its
entry is only recorded; the others go on from their first write. -/
def stepFinalize (env : Env) (s : Sys) (account : Account) (profileID orderID : String)
    (csr : CertificateRequest) (csrPEM : String) : Option Sys :=
  match finalizeEntry env s.store account.accountID orderID profileID csr with
  | .error e =>
    match lookupOrder s.store orderID account.accountID with
    | .error _ => some s
    | .ok order => some (s.record (.finalizeAnswered order (.inl e)))
  | .ok (.settled order certID) => some (s.record (.finalizeAnswered order (.inr certID)))
  | .ok (.mismatch order problem) => some (s.spawn (.finalizeMismatch order problem))
  | .ok (.proceed order profile) => some (s.spawn (.finalizeStepA order ⟨profile, csr, csrPEM⟩))

/-- One boundary crossing of call `c`; `none` when the call does not stand at the
boundary or has to wait for a row lock. -/
def stepCall (env : Env) (s : Sys) (c : Nat) : Call → Action → Option Sys
  | .respondCommit ch authz, .respondCommit _ =>
    if s.challengeLocked ch.challengeID then none
    else (s.store.updateChallenge (dispatchWrite ch)).map (fun store =>
      { s with store }.setCall c (.validating (dispatchWrite ch) authz))
  | .validating ch authz, .validated _ verdict =>
    if s.challengeLocked ch.challengeID ∨ s.authzLocked ch.authzID then none
    else some (s.setCall c
      (.outcomeBegun ⟨outcomeChallenge s.now ch verdict, authz, verdict.authzStatus⟩))
  | .outcomeBegun o, .outcomeList _ =>
    some (s.setCall c (.outcomeListed o (s.store.listAuthzsByOrder o.authz.orderID)))
  | .outcomeListed o authzs, .outcomeGetOrder _ =>
    (s.store.orders.get? o.authz.orderID).map (fun order =>
      s.setCall c (.outcomeRead o authzs order))
  | .outcomeRead o authzs order, .outcomeCommit _ =>
    (commitOutcome s.store s.now o (cascadeWrite authzs o.challenge.authzID o.status order)).map
      (fun store =>
        let s' := { s with store }.setCall c .returned
        if o.status = .valid then s'.record (.authzValidated o.challenge.authzID) else s')
  | .finalizeIssue order job, .finalizeIssue _ issuerID result =>
    if issuerID ∈ env.issuers then
      match result with
      | none => some (s.setCall c (.finalizeRejected order))
      | some issuance =>
        some ((s.setCall c (.finalizeCreate order job issuerID issuance)).record
          (.issued order job.profile (issueRequest order job.profile job.csr job.csrPEM)))
    else none
  | .finalizeCreate order job issuerID issuance, .finalizeCreate _ suffix =>
    let cert := certificateRow s.now order job.profile job.csr issuerID suffix issuance
    (createCertificate s.store.inventory cert).map (fun inventory =>
      { s with store := { s.store with inventory } }.setCall c
        (.finalizeStepC order job cert.id issuance))
  | .finalizeStepC order job certID issuance, .finalizeStepC _ versionID =>
    (commitStepC s.store s.now (versionRow versionID certID job.csrPEM issuance)
      (validWrite order job.csrPEM certID)).map
      (fun store => { s with store }.setCall c .returned)
  | call, .finalizeOverwrite _ =>
    call.overwrite.bind (fun (image, next) =>
      (s.store.updateOrder s.now image).map (fun store => { s with store }.setCall c next))
  | _, .abort _ => some (s.setCall c .returned)
  | _, _ => none

/-- The call an action belongs to. -/
def Action.call : Action → Option Nat
  | .respondCommit c => some c
  | .validated c _ => some c
  | .outcomeList c => some c
  | .outcomeGetOrder c => some c
  | .outcomeCommit c => some c
  | .finalizeOverwrite c => some c
  | .finalizeIssue c _ _ => some c
  | .finalizeCreate c _ => some c
  | .finalizeStepC c _ => some c
  | .abort c => some c
  | _ => none

def step (env : Env) (s : Sys) (a : Action) : Option Sys :=
  match a with
  | .tick elapsed => some { s with now := s.now + elapsed }
  | .newAccount req =>
    (newAccount env s.store req).toOption.map (fun (_, store) => { s with store })
  | .newOrder req body draw =>
    (handleNewOrder env s req body draw).toOption.map (fun created =>
      { s with store := created.store }.record
        (.orderCreated created.order.orderID created.profile created.mode))
  | .respond req challengeID allowed =>
    (handleRespond env s req challengeID allowed).toOption.map (fun entry =>
      match entry with
      | .settled _ => s
      | .dispatch ch authz => s.spawn (.respondCommit ch authz))
  | .finalize req orderID csr csrPEM =>
    (verifyJWS s.store.accounts req).toOption.bind (fun account =>
      stepFinalize env s account req.profileID orderID csr csrPEM)
  | .gcExpireAuthorizations =>
    -- the sweep waits for the locks of the rows it is about to write
    if s.store.authzs.rows.any (fun row =>
      Store.expiredAuthz s.now row && s.authzLocked row.authzID)
    then none
    else some { s with store := s.store.gcExpireAuthorizations s.now }
  | .gcInvalidateExpiredOrders =>
    some { s with store := s.store.gcInvalidateExpiredOrders s.now }
  | a => a.call.bind (fun c => (s.calls[c]?).bind (fun call => stepCall env s c call a))

/-- A fresh server over an arbitrary inventory. -/
def Initial (s : Sys) : Prop :=
  (∃ inventory, s.store = .initial inventory) ∧ s.calls = [] ∧ s.log = []

end Certctl.Source.Acme

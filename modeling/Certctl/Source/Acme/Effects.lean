import Certctl.Source.Acme.System

/-!
What one step of the ACME server can do, stated once. `Effect` lists every
transition with its guards and its explicit after-state; `step_effect` shows that
the executable step does nothing else. The invariants are proved from the list.
-/
namespace Certctl.Source.Acme

open Lib

/-- The state after a callback committed `store`. -/
def afterOutcome (s : Sys) (c : Nat) (o : Outcome) (store : Store) : Sys :=
  if o.status = .valid then
    ({ s with store }.setCall c .returned).record (.authzValidated o.challenge.authzID)
  else { s with store }.setCall c .returned

inductive Effect (env : Env) (s : Sys) : Action → Sys → Prop where
  | tick (elapsed : Nat) : Effect env s (.tick elapsed) { s with now := s.now + elapsed }
  | newAccount {req : NewAccountRequest} {acct : Account} {store : Store}
      (handled : newAccount env s.store req = .ok (acct, store)) :
      Effect env s (.newAccount req) { s with store }
  | newOrder {req : SignedRequest} {body : NewOrderRequest} {draw : NewOrderDraw}
      {account : Account} {created : CreatedOrder}
      (verified : verifyJWS s.store.accounts req = .ok account)
      (accepted : validateIdentifiers env.unicode body.identifiers = [])
      (handled : createOrder env s.store s.now account.accountID req.profileID body draw =
        .ok created) :
      Effect env s (.newOrder req body draw)
        ({ s with store := created.store }.record
          (.orderCreated created.order.orderID created.profile created.mode))
  | respondSettled {req : SignedRequest} {challengeID : String} {allowed : Bool} :
      Effect env s (.respond req challengeID allowed) s
  | respondDispatch {req : SignedRequest} {challengeID : String} {allowed : Bool}
      {ch : Challenge} {authz : Authorization} {order : Order}
      (foundChallenge : s.store.challenges.get? challengeID = some ch)
      (pending : ch.status = .pending)
      (foundAuthz : s.store.authzs.get? ch.authzID = some authz)
      (foundOrder : s.store.orders.get? authz.orderID = some order) :
      Effect env s (.respond req challengeID allowed) (s.spawn (.respondCommit ch authz))
  | respondCommit {c : Nat} {ch : Challenge} {authz : Authorization} {store : Store}
      (current : s.calls[c]? = some (.respondCommit ch authz))
      (free : s.challengeLocked ch.challengeID = false)
      (written : s.store.updateChallenge (dispatchWrite ch) = some store) :
      Effect env s (.respondCommit c)
        ({ s with store }.setCall c (.validating (dispatchWrite ch) authz))
  | validated {c : Nat} {verdict : Verdict} {ch : Challenge} {authz : Authorization}
      (current : s.calls[c]? = some (.validating ch authz))
      (freeChallenge : s.challengeLocked ch.challengeID = false)
      (freeAuthz : s.authzLocked ch.authzID = false) :
      Effect env s (.validated c verdict) (s.setCall c
        (.outcomeBegun ⟨outcomeChallenge s.now ch verdict, authz, verdict.authzStatus⟩))
  | outcomeList {c : Nat} {o : Outcome} (current : s.calls[c]? = some (.outcomeBegun o)) :
      Effect env s (.outcomeList c)
        (s.setCall c (.outcomeListed o (s.store.listAuthzsByOrder o.authz.orderID)))
  | outcomeGetOrder {c : Nat} {o : Outcome} {authzs : List Authorization} {order : Order}
      (current : s.calls[c]? = some (.outcomeListed o authzs))
      (found : s.store.orders.get? o.authz.orderID = some order) :
      Effect env s (.outcomeGetOrder c) (s.setCall c (.outcomeRead o authzs order))
  | outcomeCommit {c : Nat} {o : Outcome} {authzs : List Authorization} {order : Order}
      {store : Store} (current : s.calls[c]? = some (.outcomeRead o authzs order))
      (committed : commitOutcome s.store s.now o
        (cascadeWrite authzs o.challenge.authzID o.status order) = some store) :
      Effect env s (.outcomeCommit c) (afterOutcome s c o store)
  | finalizeUnknown {req : SignedRequest} {orderID : String} {csr : CertificateRequest}
      {csrPEM : String} : Effect env s (.finalize req orderID csr csrPEM) s
  | finalizeAnswered {req : SignedRequest} {orderID : String} {csr : CertificateRequest}
      {csrPEM : String} {account : Account} {order : Order} {e : AcmeError}
      (verified : verifyJWS s.store.accounts req = .ok account)
      (found : s.store.orders.get? orderID = some order)
      (owner : order.accountID = account.accountID)
      (failed : finalizeEntry env s.store account.accountID orderID req.profileID csr = .error e) :
      Effect env s (.finalize req orderID csr csrPEM) (s.record (.finalizeAnswered order (.inl e)))
  | finalizeMismatch {req : SignedRequest} {orderID : String} {csr : CertificateRequest}
      {csrPEM : String} {account : Account} {order : Order} {problem : Problem}
      (verified : verifyJWS s.store.accounts req = .ok account)
      (found : s.store.orders.get? orderID = some order)
      (owner : order.accountID = account.accountID)
      (status : order.status = .ready ∨ order.status = .processing)
      (differs : csrMatchesIdentifiers env.unicode csr order.identifiers = some problem) :
      Effect env s (.finalize req orderID csr csrPEM) (s.spawn (.finalizeMismatch order problem))
  | finalizeProceed {req : SignedRequest} {orderID : String} {csr : CertificateRequest}
      {csrPEM : String} {account : Account} {order : Order} {profile : CertificateProfile}
      (verified : verifyJWS s.store.accounts req = .ok account)
      (found : s.store.orders.get? orderID = some order)
      (owner : order.accountID = account.accountID)
      (status : order.status = .ready ∨ order.status = .processing)
      (agrees : csrMatchesIdentifiers env.unicode csr order.identifiers = none)
      (bound : boundProfile env req.profileID = .ok profile) :
      Effect env s (.finalize req orderID csr csrPEM)
        (s.spawn (.finalizeStepA order ⟨profile, csr, csrPEM⟩))
  | finalizeOverwrite {c : Nat} {call next : Call} {image : Order} {store : Store}
      (current : s.calls[c]? = some call) (writes : call.overwrite = some (image, next))
      (written : s.store.updateOrder s.now image = some store) :
      Effect env s (.finalizeOverwrite c) ({ s with store }.setCall c next)
  | finalizeRejected {c : Nat} {issuerID : String} {order : Order} {job : FinalizeJob}
      (current : s.calls[c]? = some (.finalizeIssue order job)) :
      Effect env s (.finalizeIssue c issuerID none) (s.setCall c (.finalizeRejected order))
  | finalizeIssued {c : Nat} {issuerID : String} {order : Order} {job : FinalizeJob}
      {issuance : Issuance} (current : s.calls[c]? = some (.finalizeIssue order job)) :
      Effect env s (.finalizeIssue c issuerID (some issuance))
        ((s.setCall c (.finalizeCreate order job issuerID issuance)).record
          (.issued order job.profile (issueRequest order job.profile job.csr job.csrPEM)))
  | finalizeCreate {c : Nat} {suffix : String} {order : Order} {job : FinalizeJob}
      {issuerID : String} {issuance : Issuance} {inventory : Inventory}
      (current : s.calls[c]? = some (.finalizeCreate order job issuerID issuance))
      (created : createCertificate s.store.inventory
        (certificateRow s.now order job.profile job.csr issuerID suffix issuance) =
          some inventory) :
      Effect env s (.finalizeCreate c suffix)
        ({ s with store := { s.store with inventory } }.setCall c
          (.finalizeStepC order job ("mc-acme-" ++ suffix) issuance))
  | finalizeStepC {c : Nat} {versionID : String} {order : Order} {job : FinalizeJob}
      {certID : String} {issuance : Issuance} {store : Store}
      (current : s.calls[c]? = some (.finalizeStepC order job certID issuance))
      (committed : commitStepC s.store s.now (versionRow versionID certID job.csrPEM issuance)
        (validWrite order job.csrPEM certID) = some store) :
      Effect env s (.finalizeStepC c versionID) ({ s with store }.setCall c .returned)
  | abort {c : Nat} {call : Call} (current : s.calls[c]? = some call) :
      Effect env s (.abort c) (s.setCall c .returned)
  | gcExpireAuthorizations
      (free : ∀ row ∈ s.store.authzs.rows, Store.expiredAuthz s.now row = true →
        s.authzLocked row.authzID = false) :
      Effect env s .gcExpireAuthorizations { s with store := s.store.gcExpireAuthorizations s.now }
  | gcInvalidateExpiredOrders :
      Effect env s .gcInvalidateExpiredOrders
        { s with store := s.store.gcInvalidateExpiredOrders s.now }

variable {s s' : Sys} {env : Env} {a : Action}

theorem stepFinalize_effect {req : SignedRequest} {account : Account}
    {orderID : String} {csr : CertificateRequest} {csrPEM : String}
    (verified : verifyJWS s.store.accounts req = .ok account)
    (taken : stepFinalize env s account req.profileID orderID csr csrPEM = some s') :
    Effect env s (.finalize req orderID csr csrPEM) s' := by
  unfold stepFinalize at taken
  cases entered : finalizeEntry env s.store account.accountID orderID req.profileID csr with
  | error e =>
    rw [entered] at taken
    cases looked : lookupOrder s.store orderID account.accountID with
    | error miss =>
      rw [looked] at taken
      cases taken
      exact .finalizeUnknown
    | ok order =>
      rw [looked] at taken
      cases taken
      obtain ⟨found, owner⟩ := lookupOrder_eq_ok.mp looked
      exact .finalizeAnswered verified found owner entered
  | ok entry =>
    rw [entered] at taken
    obtain ⟨order, found, owner, status, way⟩ := finalizeEntry_ok entered
    rcases way with ⟨problem, differs, rfl⟩ | ⟨profile, agrees, bound, rfl⟩
    · cases taken
      exact .finalizeMismatch verified found owner status differs
    · cases taken
      exact .finalizeProceed verified found owner status agrees bound

theorem stepCall_effect {c : Nat} {call : Call} (current : s.calls[c]? = some call)
    (own : a.call = some c) (taken : stepCall env s c call a = some s') : Effect env s a s' := by
  unfold stepCall at taken
  split at taken
  case h_1 ch authz _ =>
    cases own
    obtain ⟨free, taken⟩ := of_else taken nofun
    obtain ⟨store, written, rfl⟩ := Option.map_eq_some_iff.mp taken
    exact .respondCommit current (by simpa using free) written
  case h_2 ch authz _ verdict =>
    cases own
    obtain ⟨free, ⟨⟩⟩ := of_else taken nofun
    simp only [not_or, Bool.not_eq_true] at free
    exact .validated current free.1 free.2
  case h_3 =>
    cases own
    cases taken
    exact .outcomeList current
  case h_4 =>
    cases own
    obtain ⟨order, found, rfl⟩ := Option.map_eq_some_iff.mp taken
    exact .outcomeGetOrder current found
  case h_5 =>
    cases own
    obtain ⟨store, committed, rfl⟩ := Option.map_eq_some_iff.mp taken
    exact .outcomeCommit current committed
  case h_6 _ issuerID result =>
    cases own
    split at taken
    next =>
      cases result with
      | none =>
        cases taken
        exact .finalizeRejected current
      | some issuance =>
        cases taken
        exact .finalizeIssued current
    next => cases taken
  case h_7 =>
    cases own
    obtain ⟨inventory, created, rfl⟩ := Option.map_eq_some_iff.mp taken
    exact .finalizeCreate current created
  case h_8 =>
    cases own
    obtain ⟨store, committed, rfl⟩ := Option.map_eq_some_iff.mp taken
    exact .finalizeStepC current committed
  case h_9 =>
    cases own
    obtain ⟨⟨image, next⟩, writes, rest⟩ := Option.bind_eq_some_iff.mp taken
    obtain ⟨store, written, rfl⟩ := Option.map_eq_some_iff.mp rest
    exact .finalizeOverwrite current writes written
  case h_10 =>
    cases own
    cases taken
    exact .abort current
  case h_11 => cases taken

/-- The executable step takes only the listed transitions. -/
theorem step_effect (taken : step env s a = some s') : Effect env s a s' := by
  have ofCall (c : Nat) (own : a.call = some c)
      (taken : (s.calls[c]?).bind (fun call => stepCall env s c call a) = some s') :
      Effect env s a s' := by
    obtain ⟨call, current, crossed⟩ := Option.bind_eq_some_iff.mp taken
    exact stepCall_effect current own crossed
  cases a with
  | tick elapsed =>
    cases taken
    exact .tick elapsed
  | newAccount req =>
    obtain ⟨⟨acct, store⟩, handled, rfl⟩ := Option.map_eq_some_iff.mp taken
    exact .newAccount (toOption_eq_some.mp handled)
  | newOrder req body draw =>
    obtain ⟨created, handled, rfl⟩ := Option.map_eq_some_iff.mp taken
    have handled := toOption_eq_some.mp handled
    simp only [handleNewOrder, bind_eq_ok, ensure_eq_ok, exists_const] at handled
    obtain ⟨account, verified, accepted, result⟩ := handled
    exact .newOrder verified accepted result
  | respond req challengeID allowed =>
    obtain ⟨entry, handled, rfl⟩ := Option.map_eq_some_iff.mp taken
    have handled := toOption_eq_some.mp handled
    obtain ⟨account, _, entered⟩ := bind_eq_ok.mp handled
    obtain ⟨ch, foundChallenge, way⟩ := respondEntry_ok entered
    rcases way with ⟨_, rfl⟩ | ⟨pending, authz, order, foundAuthz, foundOrder, _, rfl⟩
    · exact .respondSettled
    · exact .respondDispatch foundChallenge pending foundAuthz foundOrder
  | finalize req orderID csr csrPEM =>
    obtain ⟨account, verified, rest⟩ := Option.bind_eq_some_iff.mp taken
    exact stepFinalize_effect (toOption_eq_some.mp verified) rest
  | gcExpireAuthorizations =>
    obtain ⟨free, ⟨⟩⟩ := of_else taken nofun
    refine .gcExpireAuthorizations (fun row member expired => ?_)
    simp only [List.any_eq_true, Bool.and_eq_true, not_exists, not_and,
      Bool.not_eq_true] at free
    exact free row member expired
  | gcInvalidateExpiredOrders =>
    cases taken
    exact .gcInvalidateExpiredOrders
  | respondCommit c | validated c verdict | outcomeList c | outcomeGetOrder c | outcomeCommit c
  | finalizeOverwrite c | finalizeIssue c issuerID result | finalizeCreate c suffix
  | finalizeStepC c versionID | abort c => exact ofCall c rfl taken

end Certctl.Source.Acme

import Certctl.Source.Acme.Order
import Certctl.Source.Acme.Store

/-!
The ACME service functions, cut where the source leaves one repository call or
transaction for the next. An entry function covers everything a request does up
to its first write; the row images of the later writes are separate definitions.
What the service takes from outside (rate limiter verdicts, the unlocked count of
active orders, random suffixes, validator and issuer results) is an argument.
Metrics and audit rows are left out.

Source: internal/service/acme.go, acme_orders.go; internal/api/acme/account.go, jws.go,
order.go.
-/
namespace Certctl.Source.Acme

open Lib

structure Config where
  defaultAuthMode : String
  defaultProfileID : String
  orderTTL : Time
  authzTTL : Time
  rateLimitOrdersPerHour : Int
  rateLimitConcurrentOrders : Int
  rateLimitChallengeRespondsPerHour : Int

/-- Configuration, profile table, issuer registry, and which collaborators the
setters have wired. -/
structure Env where
  unicode : UnicodeCase
  cfg : Config
  profiles : Table CertificateProfile.id
  issuers : List String
  tx : Bool
  auditService : Bool
  certService : Bool
  certRepo : Bool
  issuerRegistry : Bool
  validatorPool : Bool
  rateLimiter : Bool

def hour : Time := 3600000000000

def resolveProfile (env : Env) (profileID : String) : Except AcmeError String := do
  ensure (profileID ≠ "" ∨ env.cfg.defaultProfileID ≠ "") .userActionRequired
  let resolved := if profileID = "" then env.cfg.defaultProfileID else profileID
  let _ ← orFail (env.profiles.get? resolved) .profileNotFound
  return resolved

/-- `resolveProfile` followed by the second profile read of its callers. -/
def boundProfile (env : Env) (profileID : String) : Except AcmeError CertificateProfile := do
  let resolved ← resolveProfile env profileID
  orFail (env.profiles.get? resolved) .profileNotFound

/-- The profile column, else the server default, else `trust_authenticated`. -/
def authModeName (cfg : Config) (profile : CertificateProfile) : String :=
  if profile.acmeAuthMode ≠ "" then profile.acmeAuthMode
  else if cfg.defaultAuthMode ≠ "" then cfg.defaultAuthMode
  else "trust_authenticated"

def effectiveAuthMode (cfg : Config) (profile : CertificateProfile) : Except AcmeError AuthMode :=
  if authModeName cfg profile = "trust_authenticated" then .ok .trustAuthenticated
  else if authModeName cfg profile = "challenge" then .ok .challenge
  else .error (.unsupportedAuthMode (authModeName cfg profile))

/-! Accounts. -/

def accountIDOf (thumbprint : String) : String := "acme-acc-" ++ thumbprint

structure NewAccountRequest where
  profileID : String
  jwkPEM : String
  thumbprint : String
  contact : List String
  onlyReturnExisting : Bool

/-- The account and the store after the request. -/
def newAccount (env : Env) (st : Store) (req : NewAccountRequest) :
    Except AcmeError (Account × Store) := do
  ensure (env.tx ∧ env.auditService)
    (.unwired "acme: new-account requires SetTransactor + SetAuditService")
  let resolved ← resolveProfile env req.profileID
  match st.getAccountByThumbprint resolved req.thumbprint with
  | some existing => return (existing, st)
  | none =>
    ensure (¬ req.onlyReturnExisting) .accountDoesNotExist
    let acct : Account :=
      { accountID := accountIDOf req.thumbprint
        jwkThumbprint := req.thumbprint
        jwkPEM := req.jwkPEM
        contact := req.contact
        status := .valid
        profileID := resolved }
    let st' ← orFail (st.createAccount acct) (.storage "acme: create account")
    return (acct, st')

/-! Orders. -/

structure NewOrderRequest where
  identifiers : List Identifier
  notBefore : Option Time
  notAfter : Option Time

/-- Random suffixes for the rows of one identifier. -/
structure IdentifierDraw where
  authz : String
  challenge : String
  token : String

/-- What the limiter answers, the active-order count as the unlocked read
returned it (`none` when it failed), and the random suffixes. -/
structure NewOrderDraw where
  allowed : Bool
  activeOrders : Option Int
  order : String
  identifiers : List IdentifierDraw

def AuthMode.orderStatus : AuthMode → OrderStatus
  | .trustAuthenticated => .ready
  | .challenge => .pending

def AuthMode.authzStatus : AuthMode → AuthzStatus
  | .trustAuthenticated => .valid
  | .challenge => .pending

def AuthMode.challengeStatus : AuthMode → ChallengeStatus
  | .trustAuthenticated => .valid
  | .challenge => .pending

def ttlOrDay (ttl : Time) : Time := if ttl ≤ 0 then 24 * hour else ttl

def orderRow (cfg : Config) (now : Time) (accountID : String) (mode : AuthMode)
    (req : NewOrderRequest) (suffix : String) : Order :=
  { orderID := "acme-ord-" ++ suffix
    accountID
    identifiers := req.identifiers
    status := mode.orderStatus
    expiresAt := now + ttlOrDay cfg.orderTTL
    notBefore := req.notBefore
    notAfter := req.notAfter
    error := none
    csrPEM := ""
    certificateID := ""
    createdAt := now
    updatedAt := now }

def authzRow (cfg : Config) (now : Time) (orderID : String) (mode : AuthMode)
    (id : Identifier) (draw : IdentifierDraw) : Authorization :=
  { authzID := "acme-authz-" ++ draw.authz
    orderID
    identifier := id
    status := mode.authzStatus
    expiresAt := now + ttlOrDay cfg.authzTTL
    wildcard := hasPrefixText "*." id.value
    createdAt := now
    updatedAt := now }

def challengeRow (now : Time) (mode : AuthMode) (draw : IdentifierDraw) : Challenge :=
  { challengeID := "acme-chall-" ++ draw.challenge
    authzID := "acme-authz-" ++ draw.authz
    type := .http01
    status := mode.challengeStatus
    token := draw.token
    validatedAt := if mode.challengeStatus = .valid then some now else none
    error := none
    createdAt := now }

/-- The per-identifier loop inside the new-order transaction. -/
def createAuthzRows (cfg : Config) (now : Time) (orderID : String) (mode : AuthMode) :
    Store → List (Identifier × IdentifierDraw) → Option Store
  | st, [] => some st
  | st, (id, draw) :: rest => do
    let withAuthz ← st.createAuthz (authzRow cfg now orderID mode id draw)
    let withChallenge ← withAuthz.createChallenge (challengeRow now mode draw)
    createAuthzRows cfg now orderID mode withChallenge rest

/-- All rows of one new order, in one transaction. -/
def createOrderRows (cfg : Config) (now : Time) (accountID : String) (mode : AuthMode)
    (req : NewOrderRequest) (draw : NewOrderDraw) (st : Store) : Option Store := do
  let order := orderRow cfg now accountID mode req draw.order
  let withOrder ← st.createOrder order
  createAuthzRows cfg now order.orderID mode withOrder (req.identifiers.zip draw.identifiers)

structure CreatedOrder where
  order : Order
  profile : CertificateProfile
  mode : AuthMode
  store : Store

def createOrder (env : Env) (st : Store) (now : Time) (accountID profileID : String)
    (req : NewOrderRequest) (draw : NewOrderDraw) : Except AcmeError CreatedOrder := do
  ensure (env.tx ∧ env.auditService)
    (.unwired "acme: new-order requires SetTransactor + SetAuditService")
  ensure (¬ (env.rateLimiter ∧ env.cfg.rateLimitOrdersPerHour > 0 ∧ ¬ draw.allowed)) .rateLimited
  ensure (¬ (env.cfg.rateLimitConcurrentOrders > 0 ∧
    draw.activeOrders.any (fun n => decide (n ≥ env.cfg.rateLimitConcurrentOrders))))
    .concurrentOrdersExceeded
  let profile ← boundProfile env profileID
  let mode ← effectiveAuthMode env.cfg profile
  -- the loop draws one set of suffixes for each identifier
  ensure (draw.identifiers.length = req.identifiers.length) (.storage "acme: create order")
  let store ← orFail (createOrderRows env.cfg now accountID mode req draw st)
    (.storage "acme: create order")
  return ⟨orderRow env.cfg now accountID mode req draw.order, profile, mode, store⟩

def lookupOrder (st : Store) (orderID accountID : String) : Except AcmeError Order := do
  let order ← orFail (st.orders.get? orderID) .orderNotFound
  ensure (order.accountID = accountID) .orderUnauthorized
  return order

variable {st st' : Store} {now : Time} {env : Env}

theorem newAccount_ok {req : NewAccountRequest} {acct : Account}
    (handled : newAccount env st req = .ok (acct, st')) :
    ∃ accounts, st' = { st with accounts } := by
  simp only [newAccount, bind_eq_ok, ensure_eq_ok, exists_const] at handled
  obtain ⟨_, resolved, _, rest⟩ := handled
  split at rest
  · cases rest
    exact ⟨st.accounts, rfl⟩
  · simp only [bind_eq_ok, ensure_eq_ok, orFail_eq_ok, exists_const] at rest
    obtain ⟨_, next, created, result⟩ := rest
    cases result
    obtain ⟨accounts, _, rfl⟩ := Option.map_eq_some_iff.mp created
    exact ⟨accounts, rfl⟩

/-- The loop appends one authorization and one challenge for each identifier. -/
theorem createAuthzRows_spec {cfg : Config} {orderID : String} {mode : AuthMode}
    {pairs : List (Identifier × IdentifierDraw)}
    (created : createAuthzRows cfg now orderID mode st pairs = some st') :
    ∃ authzs challenges, st' = { st with authzs, challenges } ∧ authzs.rows = st.authzs.rows ++
        pairs.map (fun p => authzRow cfg now orderID mode p.1 p.2) ∧
      challenges.rows = st.challenges.rows ++ pairs.map (fun p => challengeRow now mode p.2) := by
  induction pairs generalizing st with
  | nil =>
    simp only [createAuthzRows, Option.some.injEq] at created
    subst st'
    exact ⟨st.authzs, st.challenges, rfl, by simp, by simp⟩
  | cons pair rest ih =>
    obtain ⟨id, draw⟩ := pair
    simp only [createAuthzRows, Option.bind_eq_bind, Option.bind_eq_some_iff] at created
    obtain ⟨withAuthz, hAuthz, withChallenge, hChallenge, tail⟩ := created
    obtain ⟨authzs, newAuthz, rfl⟩ := Option.map_eq_some_iff.mp hAuthz
    obtain ⟨challenges, newChallenge, rfl⟩ := Option.map_eq_some_iff.mp hChallenge
    obtain ⟨authzs', challenges', rfl, rowsAuthz, rowsChallenge⟩ := ih tail
    refine ⟨authzs', challenges', rfl, ?_, ?_⟩
    · rw [rowsAuthz, (Table.insert_rows (Table.insertUnless_eq_some newAuthz).2).1]
      simp
    · rw [rowsChallenge, (Table.insert_rows (Table.insertUnless_eq_some newChallenge).2).1]
      simp

theorem createOrder_ok {accountID profileID : String}
    {req : NewOrderRequest} {draw : NewOrderDraw} {created : CreatedOrder}
    (handled : createOrder env st now accountID profileID req draw = .ok created) :
    created.order = orderRow env.cfg now accountID created.mode req draw.order ∧
      boundProfile env profileID = .ok created.profile ∧
      effectiveAuthMode env.cfg created.profile = .ok created.mode ∧
      draw.identifiers.length = req.identifiers.length ∧
      ∃ orders authzs challenges, created.store = { st with orders, authzs, challenges } ∧
        st.orders.insert created.order = some orders ∧
        authzs.rows = st.authzs.rows ++ (req.identifiers.zip draw.identifiers).map
          (fun p => authzRow env.cfg now created.order.orderID created.mode p.1 p.2) ∧
        challenges.rows = st.challenges.rows ++ (req.identifiers.zip draw.identifiers).map
          (fun p => challengeRow now created.mode p.2) := by
  simp only [createOrder, bind_eq_ok, ensure_eq_ok, orFail_eq_ok, exists_const] at handled
  obtain ⟨_, _, _, profile, bound, mode, modeOk, sameLength, store, rows, result⟩ := handled
  cases result
  simp only [createOrderRows, Option.bind_eq_bind, Option.bind_eq_some_iff] at rows
  obtain ⟨withOrder, hOrder, loop⟩ := rows
  obtain ⟨orders, inserted, rfl⟩ := Option.map_eq_some_iff.mp hOrder
  obtain ⟨authzs, challenges, rfl, rowsAuthz, rowsChallenge⟩ := createAuthzRows_spec loop
  exact ⟨rfl, bound, modeOk, sameLength, orders, authzs, challenges, rfl,
    (Table.insertUnless_eq_some inserted).2, rowsAuthz, rowsChallenge⟩

end Certctl.Source.Acme

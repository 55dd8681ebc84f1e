import Certctl.Guarantees.AcmeSamples
import Certctl.Source.Acme.Linkage

/-!
Account isolation of the ACME reads. `LookupOrder` compares the order's account and
`RespondToChallenge` does so for a challenge still `pending`; past `pending` it
returns the row before it looks at the account, `LookupAuthz` has no account at all,
and the ownership test of `LookupCertificate` accepts everyone. In every reachable
store these are exactly the requests that leave the account's own resources.

The insert of `FinalizeOrder` names no owner, team or renewal policy. Under the foreign
keys of the schema, which the inventory leaves out, it fails unless those tables have a row
with the empty id; the runs that store a certificate for an order are about tables that do.
-/
namespace Certctl.Guarantees.TenantIsolation

open Lib Source Source.Acme

/-- A request for one resource; the flag of a challenge response is the answer of
the rate limiter. -/
inductive Access where
  | order (orderID : String)
  | authz (authzID : String)
  | challenge (challengeID : String) (allowed : Bool)
  | certificate (certID : String)

/-- Whether the service answers the account with success. -/
def grants (env : Env) (st : Store) (account : String) : Access → Bool
  | .order id => (lookupOrder st id account).isOk
  | .authz id => (lookupAuthz st id).isOk
  | .challenge id allowed => (respondEntry env st account id allowed).isOk
  | .certificate id => (lookupCertificate env st id account).isOk

def orderOwner (st : Store) (orderID : String) : Option String :=
  (st.orders.get? orderID).map Order.accountID

def authzOwner (st : Store) (authzID : String) : Option String :=
  (st.authzs.get? authzID).bind (fun authz => orderOwner st authz.orderID)

/-- The accounts whose orders the resource belongs to. -/
def owners (st : Store) : Access → List String
  | .order id => (orderOwner st id).toList
  | .authz id => (authzOwner st id).toList
  | .challenge id _ => ((st.challenges.get? id).bind (fun ch => authzOwner st ch.authzID)).toList
  | .certificate id => if id = "" then [] else
      (st.orders.rows.filter (fun o => decide (o.certificateID = id))).map Order.accountID

/-- The resource belongs to orders of other accounts only. -/
def foreign (st : Store) (account : String) (access : Access) : Bool :=
  decide (owners st access ≠ [] ∧ account ∉ owners st access)

def Isolated (env : Env) (st : Store) (account : String) (access : Access) : Prop :=
  grants env st account access = true → foreign st account access = false

/-- The challenge endpoint is wired and not rate limited. -/
def respondOpen (env : Env) (allowed : Bool) : Bool :=
  decide (env.tx ∧ env.auditService) && env.validatorPool &&
    decide (¬ (env.rateLimiter ∧ env.cfg.rateLimitChallengeRespondsPerHour > 0 ∧ ¬ allowed))

/-- The requests that meet an ownership test, or no service at all. -/
def guarded (env : Env) (st : Store) : Access → Bool
  | .order _ => true
  | .authz _ => false
  | .challenge id allowed =>
    !respondOpen env allowed ||
      (st.challenges.get? id).any (fun ch => decide (ch.status = .pending))
  | .certificate _ => !env.certRepo

variable {env : Env} {st : Store} {account id : String}

theorem order_isolated (env : Env) (st : Store) (account id : String) :
    Isolated env st account (.order id) := by
  intro granted
  obtain ⟨order, found⟩ := isOk_iff.mp granted
  obtain ⟨row, owner⟩ := lookupOrder_eq_ok.mp found
  simp [foreign, owners, orderOwner, row, owner]

theorem authz_granted (alien : foreign st account (.authz id) = true) :
    grants env st account (.authz id) = true := by
  have nonempty := (of_decide_eq_true alien).1
  obtain ⟨owner, member⟩ := List.exists_mem_of_ne_nil _ nonempty
  obtain ⟨authz, found, _⟩ := Option.bind_eq_some_iff.mp (Option.mem_toList.mp member)
  refine isOk_iff.mpr ⟨(authz, st.listChallengesByAuthz id), ?_⟩
  simp [lookupAuthz, found, orFail]

variable {allowed : Bool} {access : Access} {ch : Challenge}

/-- A challenge past `pending` is returned to anyone. -/
theorem challenge_granted
    (opened : respondOpen env allowed = true) (found : st.challenges.get? id = some ch)
    (settled : ch.status ≠ .pending) : grants env st account (.challenge id allowed) = true := by
  simp only [respondOpen, Bool.and_eq_true, decide_eq_true_eq] at opened
  obtain ⟨⟨wired, pool⟩, limit⟩ := opened
  refine isOk_iff.mpr ⟨.settled ch, ?_⟩
  simp only [respondEntry, bind_eq_ok, ensure_eq_ok, orFail_eq_ok, exists_const]
  refine ⟨wired, pool, limit, ch, found, ?_⟩
  cases status : ch.status with
  | pending => exact absurd status settled
  | processing | valid | invalid => simp [pure, Except.pure]

/-- A pending challenge is the owner's. -/
theorem challenge_pending_isolated
    (found : st.challenges.get? id = some ch) (pending : ch.status = .pending) :
    Isolated env st account (.challenge id allowed) := by
  intro granted
  obtain ⟨entry, entered⟩ := isOk_iff.mp granted
  simp only [respondEntry, bind_eq_ok, ensure_eq_ok, orFail_eq_ok, exists_const] at entered
  obtain ⟨_, _, _, row, foundRow, rest⟩ := entered
  cases found.symm.trans foundRow
  rw [if_neg (by simp [pending]), if_neg (by simp [pending])] at rest
  simp only [bind_eq_ok, ensure_eq_ok, orFail_eq_ok, exists_const] at rest
  obtain ⟨authz, foundAuthz, order, foundOrder, owner, _⟩ := rest
  simp [foreign, owners, authzOwner, orderOwner, found, foundAuthz, foundOrder, owner]

/-- Any account downloads a certificate that an order points to. -/
theorem certificate_granted {s : Sys} (linked : Linked s) (wired : env.certRepo = true)
    (alien : foreign s.store account (.certificate id) = true) :
    grants env s.store account (.certificate id) = true := by
  have nonempty := (of_decide_eq_true alien).1
  simp only [owners] at nonempty
  split at nonempty
  · exact absurd rfl nonempty
  next set =>
    obtain ⟨owner, member⟩ := List.exists_mem_of_ne_nil _ nonempty
    obtain ⟨order, row, _⟩ := List.mem_map.mp member
    obtain ⟨stored, points⟩ := List.mem_filter.mp row
    have named := of_decide_eq_true points
    have has := linked.rows order.orderID order (Table.get?_of_mem stored) (named ▸ set)
    rw [named] at has
    obtain ⟨cert, found, acme⟩ := has.certificate
    obtain ⟨v, version, of⟩ := has.version
    obtain ⟨latest, newest⟩ := Inventory.getLatestVersion_of_mem version
    rw [of] at newest
    refine isOk_iff.mpr ⟨latest.pemChain, ?_⟩
    simp only [lookupCertificate, bind_eq_ok, ensure_eq_ok, orFail_eq_ok, exists_const]
    exact ⟨wired, cert, found, acme, rfl, latest, newest, rfl⟩

theorem respondOpen_of_granted (granted : grants env st account (.challenge id allowed) = true) :
    respondOpen env allowed = true := by
  obtain ⟨entry, entered⟩ := isOk_iff.mp granted
  simp only [respondEntry, bind_eq_ok, ensure_eq_ok, exists_const] at entered
  obtain ⟨wired, pool, limit, _⟩ := entered
  unfold respondOpen
  rw [decide_eq_true wired, pool, decide_eq_true limit]
  rfl

theorem isolated_of_guarded (met : guarded env st access = true) :
    Isolated env st account access := by
  cases access with
  | order id => exact order_isolated env st account id
  | authz id => cases met
  | challenge id allowed =>
    intro granted
    simp only [guarded, respondOpen_of_granted granted, Bool.not_true, Bool.false_or] at met
    cases found : st.challenges.get? id with
    | none => simp [found] at met
    | some ch =>
      rw [found] at met
      exact challenge_pending_isolated found (of_decide_eq_true met) granted
  | certificate id =>
    intro granted
    obtain ⟨pem, served⟩ := isOk_iff.mp granted
    simp only [lookupCertificate, bind_eq_ok, ensure_eq_ok, exists_const] at served
    simp [guarded, served.1] at met

/-- An unguarded request for another account's resource succeeds. -/
theorem granted_of_unguarded {s : Sys} (linked : Linked s)
    (alien : foreign s.store account access = true)
    (unguarded : guarded env s.store access = false) :
    grants env s.store account access = true := by
  cases access with
  | order id => cases unguarded
  | authz id => exact authz_granted alien
  | challenge id allowed =>
    simp only [guarded, Bool.or_eq_false_iff, Bool.not_eq_false'] at unguarded
    obtain ⟨opened, past⟩ := unguarded
    cases found : s.store.challenges.get? id with
    | none => simp [foreign, owners, found] at alien
    | some ch =>
      rw [found] at past
      exact challenge_granted opened found (of_decide_eq_false past)
  | certificate id =>
    have wired : env.certRepo = true := by simpa [guarded] using unguarded
    exact certificate_granted linked wired alien

/-- In every reachable store an account is kept to its own resources exactly by the
requests that are guarded or concern no other account's resource. -/
theorem isolated_iff_guarded (env : Env) {s : Sys} (reached : Reachable (step env) Initial s)
    (account : String) (access : Access) :
    Isolated env s.store account access ↔
      (foreign s.store account access = true → guarded env s.store access = true) := by
  constructor
  · intro isolated alien
    cases met : guarded env s.store access with
    | true => rfl
    | false =>
      have kept := isolated (granted_of_unguarded (reachable_linked reached) alien met)
      rw [alien] at kept
      cases kept
  · intro condition granted
    cases alien : foreign s.store account access with
    | false => rfl
    | true => exact alien.symm.trans (isolated_of_guarded (condition alien) granted)

/-- Two accounts; the first takes an order through to its certificate. -/
def sharedRun : List Action :=
  sampleOrder "internal" "web.example" ++ [.newAccount (sampleAccount "internal" "b"),
    sampleFinalize "internal" "web.example", .finalizeOverwrite 0,
    .finalizeIssue 0 "iss-local" (some sampleIssuance), .finalizeCreate 0 "1",
    .finalizeStepC 0 "v1"]

/-- The second account is kept from the first one's order. -/
theorem isolated_sharedRun : ∃ s, Reachable (step sampleEnv) Initial s ∧
    foreign s.store (accountIDOf "b") (.order "acme-ord-1") = true ∧
    Isolated sampleEnv s.store (accountIDOf "b") (.order "acme-ord-1") := by
  obtain ⟨s, reached, alien⟩ := exists_reached_of_replay (step sampleEnv) sampleStart_initial
    sharedRun (fun s => foreign s.store (accountIDOf "b") (.order "acme-ord-1")) (by decide +kernel)
  exact ⟨s, reached, alien, (isolated_iff_guarded sampleEnv reached _ _).mpr (fun _ => rfl)⟩

def firstAccountResources : List Access :=
  [.authz "acme-authz-11", .challenge "acme-chall-11" true, .certificate "mc-acme-1"]

/-- It is served the first one's authorization, challenge and certificate. -/
theorem crossed_sharedRun : ∃ s, Reachable (step sampleEnv) Initial s ∧
    ∀ access ∈ firstAccountResources, ¬ Isolated sampleEnv s.store (accountIDOf "b") access := by
  obtain ⟨s, reached, crossed⟩ := exists_reached_of_replay (step sampleEnv) sampleStart_initial
    sharedRun (fun s => ∀ access ∈ firstAccountResources,
      grants sampleEnv s.store (accountIDOf "b") access ∧
        foreign s.store (accountIDOf "b") access) (by decide +kernel)
  refine ⟨s, reached, ?_⟩
  intro access member isolated
  obtain ⟨granted, alien⟩ := crossed access member
  rw [isolated granted] at alien
  cases alien

end Certctl.Guarantees.TenantIsolation

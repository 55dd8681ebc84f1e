import Certctl.Source.Acme.Types
import Certctl.Source.Inventory

/-!
The ACME repository over its tables. Every statement of the SQL repository is one
operation here; `none` is a statement that fails (a constraint violation, or an
update that affects no row).

Source: internal/repository/postgres/acme.go; internal/service/acme_authz.go.
-/
namespace Certctl.Source.Acme

open Lib

structure Store where
  accounts : Table Account.accountID
  orders : Table Order.orderID
  authzs : Table Authorization.authzID
  challenges : Table Challenge.challengeID
  inventory : Inventory

namespace Store

/-- No ACME row yet, over an arbitrary inventory. -/
def initial (inventory : Inventory) : Store :=
  ⟨.empty _, .empty _, .empty _, .empty _, inventory⟩

def getAccountByThumbprint (st : Store) (profileID thumbprint : String) : Option Account :=
  st.accounts.rows.find? (fun a =>
    decide (a.profileID = profileID) && decide (a.jwkThumbprint = thumbprint))

/-- The primary key and the `(profile_id, jwk_thumbprint)` constraint both guard
the insert. -/
def createAccount (st : Store) (acct : Account) : Option Store :=
  (st.accounts.insertUnless (acct.accountID = "" ∨ acct.jwkThumbprint = "" ∨ acct.jwkPEM = "" ∨
      acct.profileID = "" ∨ (st.getAccountByThumbprint acct.profileID acct.jwkThumbprint).isSome)
    acct).map (fun accounts => { st with accounts })

def createOrder (st : Store) (order : Order) : Option Store :=
  (st.orders.insertUnless (order.orderID = "" ∨ order.accountID = "") order).map
    (fun orders => { st with orders })

def createAuthz (st : Store) (authz : Authorization) : Option Store :=
  (st.authzs.insertUnless (authz.authzID = "" ∨ authz.orderID = "") authz).map
    (fun authzs => { st with authzs })

def createChallenge (st : Store) (ch : Challenge) : Option Store :=
  (st.challenges.insertUnless (ch.challengeID = "" ∨ ch.authzID = "" ∨ ch.token = "") ch).map
    (fun challenges => { st with challenges })

/-- The columns an order update overwrites, all taken from the in-memory copy. -/
def overwriteOrder (now : Time) (copy row : Order) : Order :=
  { row with
    status := copy.status
    error := copy.error
    csrPEM := copy.csrPEM
    certificateID := copy.certificateID
    updatedAt := now }

def updateOrder (st : Store) (now : Time) (copy : Order) : Option Store :=
  (st.orders.update copy.orderID (overwriteOrder now copy) (fun _ => rfl)).map
    (fun orders => { st with orders })

def overwriteChallenge (copy row : Challenge) : Challenge :=
  { row with status := copy.status, validatedAt := copy.validatedAt, error := copy.error }

def updateChallenge (st : Store) (copy : Challenge) : Option Store :=
  (st.challenges.update copy.challengeID (overwriteChallenge copy) (fun _ => rfl)).map
    (fun challenges => { st with challenges })

def updateAuthzStatus (st : Store) (now : Time) (authzID : String) (status : AuthzStatus) :
    Option Store :=
  (st.authzs.update authzID (fun row => { row with status, updatedAt := now }) (fun _ => rfl)).map
    (fun authzs => { st with authzs })

/-- The authorizations of one order share `created_at`, so insertion order is one
of the orders the query may return. -/
def listAuthzsByOrder (st : Store) (orderID : String) : List Authorization :=
  st.authzs.rows.filter (fun a => decide (a.orderID = orderID))

def listChallengesByAuthz (st : Store) (authzID : String) : List Challenge :=
  st.challenges.rows.filter (fun c => decide (c.authzID = authzID))

def accountOwnsCertificate (st : Store) (accountID certificateID : String) : Bool :=
  decide (accountID ≠ "") && decide (certificateID ≠ "") && st.orders.rows.any (fun o =>
    decide (o.accountID = accountID) && decide (o.certificateID = certificateID))

def expiredAuthz (now : Time) (a : Authorization) : Bool :=
  decide (a.status = .pending) && decide (a.expiresAt < now)

def expireAuthz (now : Time) (row : Authorization) : Authorization :=
  { row with status := .expired, updatedAt := now }

theorem expireAuthz_authzID (now : Time) (row : Authorization) :
    (expireAuthz now row).authzID = row.authzID := rfl

def gcExpireAuthorizations (st : Store) (now : Time) : Store :=
  let authzs := st.authzs.updateWhere (expiredAuthz now) (expireAuthz now) (expireAuthz_authzID now)
  { st with authzs }

def expiredOrder (now : Time) (o : Order) : Bool :=
  !o.status.terminal && decide (o.expiresAt < now)

def invalidateOrder (now : Time) (row : Order) : Order :=
  { row with
    status := .invalid
    error := some ⟨"urn:ietf:params:acme:error:serverInternal",
      "order expired before issuance", 500⟩
    updatedAt := now }

theorem invalidateOrder_orderID (now : Time) (row : Order) :
    (invalidateOrder now row).orderID = row.orderID := rfl

def gcInvalidateExpiredOrders (st : Store) (now : Time) : Store :=
  let orders :=
    st.orders.updateWhere (expiredOrder now) (invalidateOrder now) (invalidateOrder_orderID now)
  { st with orders }

variable {st st' : Store} {now : Time}

/-- An order update writes its five columns on one row and nothing else. -/
theorem updateOrder_spec {copy : Order} (written : st.updateOrder now copy = some st') :
    ∃ orders row, st' = { st with orders } ∧ st.orders.get? copy.orderID = some row ∧
      ∀ id, orders.get? id =
        if id = copy.orderID then some (overwriteOrder now copy row) else st.orders.get? id := by
  obtain ⟨orders, updated, rfl⟩ := Option.map_eq_some_iff.mp written
  obtain ⟨_, row, found⟩ := Table.update_eq updated
  refine ⟨orders, row, rfl, found, fun id => ?_⟩
  rw [Table.get?_update updated, found, Option.map_some]

theorem updateChallenge_spec {copy : Challenge} (written : st.updateChallenge copy = some st') :
    ∃ challenges row, st' = { st with challenges } ∧
      st.challenges.get? copy.challengeID = some row ∧
      ∀ id, challenges.get? id =
        if id = copy.challengeID then some (overwriteChallenge copy row)
        else st.challenges.get? id := by
  obtain ⟨challenges, updated, rfl⟩ := Option.map_eq_some_iff.mp written
  obtain ⟨_, row, found⟩ := Table.update_eq updated
  refine ⟨challenges, row, rfl, found, fun id => ?_⟩
  rw [Table.get?_update updated, found, Option.map_some]

theorem updateAuthzStatus_spec {authzID : String} {status : AuthzStatus}
    (written : st.updateAuthzStatus now authzID status = some st') :
    ∃ authzs row, st' = { st with authzs } ∧ st.authzs.get? authzID = some row ∧
      ∀ id, authzs.get? id =
        if id = authzID then some { row with status, updatedAt := now }
        else st.authzs.get? id := by
  obtain ⟨authzs, updated, rfl⟩ := Option.map_eq_some_iff.mp written
  obtain ⟨_, row, found⟩ := Table.update_eq updated
  refine ⟨authzs, row, rfl, found, fun id => ?_⟩
  rw [Table.get?_update updated, found, Option.map_some]

theorem mem_listAuthzsByOrder {orderID : String} {a : Authorization} :
    a ∈ st.listAuthzsByOrder orderID ↔
      st.authzs.get? a.authzID = some a ∧ a.orderID = orderID := by
  simp [listAuthzsByOrder, Table.get?_eq_some_iff]

end Store

end Certctl.Source.Acme

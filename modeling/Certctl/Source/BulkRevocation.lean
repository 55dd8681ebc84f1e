import Certctl.Source.RevocationSvc

/-!
Bulk revocation. The certificates are found one by one when only ids are given, and by the filter
of `List` otherwise; ids and source then narrow the page that was listed. Each certificate found
goes through the revocation of a single one, and a failure does not stop the others.

Source: internal/domain/revocation.go; internal/service/bulk_revocation.go;
internal/repository/postgres/certificate.go.
-/
namespace Certctl.Source.BulkRevocation

open Lib

/-- Columns of a certificate that only the listing reads, and the agents of its targets. -/
structure Columns where
  ownerID : String
  teamID : String
  createdAt : Time
  agentIDs : List String

structure Criteria where
  profileID : String
  ownerID : String
  agentID : String
  issuerID : String
  teamID : String
  certificateIDs : List String
  source : CertificateSource

namespace Criteria

/-- `hasFilterCriteria`. -/
def hasFilter (c : Criteria) : Bool :=
  c.profileID ≠ "" || c.ownerID ≠ "" || c.agentID ≠ "" || c.issuerID ≠ "" || c.teamID ≠ ""

/-- The source alone is no criterion. -/
def isEmpty (c : Criteria) : Bool := !c.hasFilter && c.certificateIDs.isEmpty

/-- The conditions of the listing. -/
def selects (c : Criteria) (columns : String → Columns) (cert : ManagedCertificate) : Bool :=
  (c.ownerID = "" || (columns cert.id).ownerID = c.ownerID) &&
  (c.teamID = "" || (columns cert.id).teamID = c.teamID) &&
  (c.issuerID = "" || cert.issuerID = c.issuerID) &&
  (c.profileID = "" || cert.certificateProfileID = c.profileID) &&
  (c.agentID = "" || (columns cert.id).agentIDs.contains c.agentID)

end Criteria

/-- The page size of a request for `perPage` rows. -/
def pageSize (perPage : Nat) : Nat := if perPage = 0 ∨ perPage > 500 then 50 else perPage

/-- The first page of `List`, oldest first. -/
def list (columns : String → Columns) (inventory : Inventory) (c : Criteria) (perPage : Nat) :
    List ManagedCertificate :=
  ((inventory.certs.rows.filter (c.selects columns)).insertionSort
    (fun a b => (columns a.id).createdAt ≤ (columns b.id).createdAt)).take (pageSize perPage)

/-- What fails, and what each revocation meets. -/
structure Surroundings where
  getFails : String → Bool
  listFault : Option String
  revocation : Nat → RevocationFaults × Time × String

/-- `resolveCertificates`. -/
def resolveCertificates (around : Surroundings) (columns : String → Columns)
    (inventory : Inventory) (c : Criteria) : Except String (List ManagedCertificate) := do
  if c.certificateIDs ≠ [] ∧ c.hasFilter = false then
    return c.certificateIDs.filterMap fun id => lookup (around.getFails id) (inventory.get id)
  attempt around.listFault id
  let certs := list columns inventory c 10000
  let certs := if c.certificateIDs ≠ [] then
    certs.filter (fun cert => c.certificateIDs.contains cert.id) else certs
  return if c.source ≠ .unspecified then
    certs.filter (fun cert => cert.source = c.source) else certs

structure Result where
  totalMatched : Nat
  totalRevoked : Nat
  totalSkipped : Nat
  totalFailed : Nat
  errors : List (String × String)

/-- The statuses that are passed over. -/
def skips (cert : ManagedCertificate) : Bool :=
  cert.status = .revoked || cert.status = .archived

/-- The loop over the certificates; the last component are those whose revocation it attempts. -/
def revokeEach (svc : RevocationSvc) (around : Surroundings) (reason actor : String) :
    List ManagedCertificate → Nat → RevocationDB → Result →
      RevocationDB × Result × List ManagedCertificate
  | [], _, db, result => (db, result, [])
  | cert :: rest, n, db, result =>
    if skips cert then
      revokeEach svc around reason actor rest n db
        { result with totalSkipped := result.totalSkipped + 1 }
    else
      let (faults, now, rowID) := around.revocation n
      let (db, result) :=
        match svc.revokeCertificateWithActor faults db now rowID cert.id reason actor with
        | .error e => (db, { result with
            totalFailed := result.totalFailed + 1
            errors := result.errors ++ [(cert.id, e.message)] })
        | .ok db => (db, { result with totalRevoked := result.totalRevoked + 1 })
      let (db, result, attempted) := revokeEach svc around reason actor rest (n + 1) db result
      (db, result, cert :: attempted)

/-- `BulkRevoke`. -/
def bulkRevoke (svc : RevocationSvc) (around : Surroundings) (columns : String → Columns)
    (db : RevocationDB) (c : Criteria) (reason actor : String) :
    Except String (RevocationDB × Result × List ManagedCertificate) := do
  ensure (c.isEmpty = false) "at least one filter criterion is required"
  ensure (reason ≠ "") "revocation reason is required"
  ensure (isValidRevocationReason reason = true) ("invalid revocation reason: " ++ reason)
  let certs ← (resolveCertificates around columns db.inventory c).mapError
    ("failed to resolve certificates: " ++ ·)
  return revokeEach svc around reason actor certs 0 db ⟨certs.length, 0, 0, 0, []⟩

theorem revokeEach_attempted (svc : RevocationSvc) (around : Surroundings) (reason actor : String)
    (certs : List ManagedCertificate) (n : Nat) (db : RevocationDB) (result : Result) :
    (revokeEach svc around reason actor certs n db result).2.2 =
      certs.filter (fun cert => !skips cert) := by
  induction certs generalizing n db result with
  | nil => rfl
  | cons cert rest ih =>
    unfold revokeEach
    by_cases passed : skips cert = true
    · simp [passed, ih]
    · simp [passed, ih]

end Certctl.Source.BulkRevocation

import Certctl.Source.Inventory
import Certctl.Source.Revocations

/-!
`RevokeCertificateWithActor`, the revocation pipeline of the API, of bulk revocation
and of ACME. With a transactor the certificate, the revocation row and the audit row
commit together; without one the failure to store the row is only logged. The calls
that fail are an argument, with the text of their error where it reaches the caller.
Cache invalidation, audit rows and notifications do not change the result.

Source: internal/repository/postgres/revocation.go; internal/service/certificate.go,
revocation_svc.go.
-/
namespace Certctl.Source

open Lib

/-- What the setters have wired, and the registered issuers. -/
structure RevocationSvc where
  tx : Bool
  revocationRepo : Bool
  issuerRegistry : Bool
  issuers : List String

structure RevocationFaults where
  fetch : Option String
  latestVersion : Option String
  beginTx : Option String
  update : Option String
  record : Option String
  audit : Option String
  commit : Option String
  notifyIssuer : Bool
  listRevocations : Bool
  markNotified : CertificateRevocation → Bool

structure RevocationDB where
  inventory : Inventory
  revocations : Revocations

inductive RevocationError where
  | fetch (cause : String)
  | alreadyRevoked
  | archived
  | invalidReason (reason : String)
  | latestVersion (cause : String)
  | beginTx (cause : String)
  | updateStatus (cause : String)
  | record (cause : String)
  | audit (cause : String)
  | commit (cause : String)

def RevocationError.message : RevocationError → String
  | fetch cause => "failed to fetch certificate: " ++ cause
  | alreadyRevoked => "certificate is already revoked"
  | archived => "cannot revoke archived certificate"
  | invalidReason reason => "invalid revocation reason: " ++ reason
  | latestVersion cause =>
    "failed to get certificate version: failed to get latest certificate version: " ++ cause
  | beginTx cause => "begin tx: " ++ cause
  | updateStatus cause => "failed to update certificate status: " ++ cause
  | record cause => "failed to record revocation: failed to create revocation record: " ++ cause
  | audit cause => "failed to record audit event: " ++ cause
  | commit cause => cause

def certificateNotFound : String := "certificate not found: repository: row not found"

def noRows : String := "sql: no rows in result set"

def revokedImage (now : Time) (reason : String) (cert : ManagedCertificate) : ManagedCertificate :=
  { cert with
    status := .revoked
    revokedAt := some now
    revocationReason := reason
    updatedAt := now }

/-- The row names the latest version's serial. -/
def revocationRow (now : Time) (rowID reason actor : String) (cert : ManagedCertificate)
    (version : CertificateVersion) : CertificateRevocation :=
  { id := rowID
    certificateID := cert.id
    serialNumber := version.serialNumber
    reason
    revokedBy := actor
    revokedAt := now
    issuerID := cert.issuerID
    issuerNotified := false
    createdAt := now }

namespace RevocationSvc

/-- The row is stored once the call gets this far. -/
def stores (svc : RevocationSvc) (faults : RevocationFaults) : Bool :=
  svc.revocationRepo && (svc.tx || faults.record.isNone)

def commitRevocation (svc : RevocationSvc) (faults : RevocationFaults) (db : RevocationDB)
    (image : ManagedCertificate) (row : CertificateRevocation) :
    Except RevocationError RevocationDB := do
  attempt (if svc.tx then faults.beginTx else none) .beginTx
  attempt faults.update .updateStatus
  let inventory ← orFail (db.inventory.update image) (.updateStatus certificateNotFound)
  attempt (if svc.tx ∧ svc.revocationRepo then faults.record else none) .record
  attempt (if svc.tx then faults.audit else none) .audit
  attempt (if svc.tx then faults.commit else none) .commit
  return ⟨inventory, if svc.stores faults then db.revocations.create row else db.revocations⟩

def markNotified (rev : CertificateRevocation) : CertificateRevocation :=
  { rev with issuerNotified := true }

theorem markNotified_key (rev : CertificateRevocation) : (markNotified rev).key = rev.key := rfl

/-- A connector that accepts the revocation has the rows of the serial marked. -/
def notifyIssuer (svc : RevocationSvc) (faults : RevocationFaults) (cert : ManagedCertificate)
    (serial : String) (revocations : Revocations) : Revocations :=
  if svc.issuerRegistry ∧ cert.issuerID ∈ svc.issuers ∧ svc.revocationRepo ∧
      ¬ faults.notifyIssuer ∧ ¬ faults.listRevocations then
    revocations.updateWhere
      (fun rev => decide (rev.certificateID = cert.id) && decide (rev.serialNumber = serial) &&
        !faults.markNotified rev)
      markNotified markNotified_key
  else revocations

def revokeCertificateWithActor (svc : RevocationSvc) (faults : RevocationFaults)
    (db : RevocationDB) (now : Time) (rowID certID reason actor : String) :
    Except RevocationError RevocationDB := do
  attempt faults.fetch .fetch
  let cert ← orFail (db.inventory.get certID) (.fetch certificateNotFound)
  ensure (cert.status ≠ .revoked) .alreadyRevoked
  ensure (cert.status ≠ .archived) .archived
  let reason := if reason = "" then "unspecified" else reason
  ensure (isValidRevocationReason reason) (.invalidReason reason)
  attempt faults.latestVersion .latestVersion
  let version ← orFail (db.inventory.getLatestVersion certID) (.latestVersion noRows)
  let db' ← svc.commitRevocation faults db (revokedImage now reason cert)
    (revocationRow now rowID reason actor cert version)
  return ⟨db'.inventory, svc.notifyIssuer faults cert version.serialNumber db'.revocations⟩

variable {faults : RevocationFaults} {db db' : RevocationDB} {svc : RevocationSvc}

/-- The keys of the table after the commit. -/
theorem commitRevocation_ok {image : ManagedCertificate} {row : CertificateRevocation}
    (committed : svc.commitRevocation faults db image row = .ok db') (key : String × String) :
    (db'.revocations.get? key).isSome = true ↔
      (db.revocations.get? key).isSome = true ∨ svc.stores faults = true ∧ key = row.key := by
  have written : db'.revocations =
      if svc.stores faults then db.revocations.create row else db.revocations := by
    simp only [commitRevocation, bind_eq_ok, attempt_eq_ok, exists_const] at committed
    obtain ⟨_, _, _, _, _, _, _, result⟩ := committed
    cases result
    rfl
  rw [written]
  split
  next stored =>
    rw [Revocations.create, Table.get?_insertOrIgnore]
    by_cases same : key = row.key
    · simp [same, stored]
    · simp [same]
  next unstored => simp [unstored]

/-- A successful revocation adds at most the row of the latest version. -/
theorem revokeCertificateWithActor_ok {now : Time} {rowID certID reason actor : String}
    (revoked : svc.revokeCertificateWithActor faults db now rowID certID reason actor = .ok db') :
    ∃ cert latest, db.inventory.get certID = some cert ∧
      db.inventory.getLatestVersion certID = some latest ∧
      ∀ key, (db'.revocations.get? key).isSome = true ↔ (db.revocations.get? key).isSome = true ∨
        svc.stores faults = true ∧ key = (cert.issuerID, latest.serialNumber) := by
  simp only [revokeCertificateWithActor, bind_eq_ok, attempt_eq_ok, orFail_eq_ok, ensure_eq_ok,
    exists_const] at revoked
  obtain ⟨_, cert, found, _, _, _, _, latest, newest, done, committed, result⟩ := revoked
  cases result
  refine ⟨cert, latest, found, newest, fun key => ?_⟩
  unfold notifyIssuer
  split
  · rw [Table.get?_updateWhere, Option.isSome_map]
    exact commitRevocation_ok committed key
  · exact commitRevocation_ok committed key

end RevocationSvc

end Certctl.Source

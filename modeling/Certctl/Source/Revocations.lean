import Certctl.Source.Domain
import Certctl.Lib.Table

/-!
The table `certificate_revocations`: rows unique per issuer and serial, inserted with
ON CONFLICT DO NOTHING, and the reason codes of the CRL. Row ids are random, so the
primary key is not part of the model.

Source: internal/domain/revocation.go; internal/repository/postgres/revocation.go.
-/
namespace Certctl.Source

open Lib

def validRevocationReasons : List (String × Nat) :=
  [("unspecified", 0), ("keyCompromise", 1), ("caCompromise", 2), ("affiliationChanged", 3),
    ("superseded", 4), ("cessationOfOperation", 5), ("certificateHold", 6),
    ("privilegeWithdrawn", 9)]

def isValidRevocationReason (reason : String) : Bool :=
  (validRevocationReasons.lookup reason).isSome

/-- The code of a reason; unknown reasons count as unspecified. -/
def crlReasonCode (reason : String) : Nat := (validRevocationReasons.lookup reason).getD 0

structure CertificateRevocation where
  id : String
  certificateID : String
  serialNumber : String
  reason : String
  revokedBy : String
  revokedAt : Time
  issuerID : String
  issuerNotified : Bool
  createdAt : Time
  deriving DecidableEq

def CertificateRevocation.key (r : CertificateRevocation) : String × String :=
  (r.issuerID, r.serialNumber)

abbrev Revocations := Table CertificateRevocation.key

namespace Revocations

/-- A row that conflicts is dropped without an error. -/
def create (t : Revocations) (r : CertificateRevocation) : Revocations := t.insertOrIgnore r

def getByIssuerAndSerial (t : Revocations) (issuerID serial : String) :
    Option CertificateRevocation := t.get? (issuerID, serial)

def listByIssuer (t : Revocations) (issuerID : String) : List CertificateRevocation :=
  (t.rows.filter (fun r => decide (r.issuerID = issuerID))).mergeSort
    (fun a b => decide (a.revokedAt ≤ b.revokedAt))

theorem getByIssuerAndSerial_eq_some {t : Revocations} {issuerID serial : String}
    {r : CertificateRevocation} :
    t.getByIssuerAndSerial issuerID serial = some r ↔
      r ∈ t.rows ∧ r.issuerID = issuerID ∧ r.serialNumber = serial := by
  rw [getByIssuerAndSerial, Table.get?_eq_some_iff]
  simp [CertificateRevocation.key]

end Revocations

end Certctl.Source

import Certctl.Source.Inventory
import Certctl.Source.Revocations

/-!
The revocation answers of the CA: the entry list of `GenerateDERCRL` and the status
that `LiveSignOCSPResponse` signs. Every repository call can fail on its own; the
faults of one request are an argument. Nonces, the DER encoding and failures of the
connector after the status is decided are left out.

Source: internal/service/ca_operations.go, renewal.go.
-/
namespace Certctl.Source

open Lib

/-- What the setters have wired, the registered issuers, and what `SetString` leaves
in a serial whose text is not a number. -/
structure CAServices where
  revocationRepo : Bool
  issuerRegistry : Bool
  profileRepo : Bool
  certRepo : Bool
  issuers : List String
  undefinedSerial : String → Int

structure CADatabase where
  revocations : Revocations
  inventory : Inventory
  profiles : Table CertificateProfile.id

/-- The repository calls of one OCSP request that fail. -/
structure SignFaults where
  exemptionLookup : Bool
  certificate : Bool
  profile : Bool
  revocationLookup : Bool
  inventory : Bool

/-- The repository calls of one CRL request that fail, the later two per row. -/
structure CRLFaults where
  list : Bool
  certificate : CertificateRevocation → Bool
  profile : CertificateRevocation → Bool

inductive CAError where
  | revocationRepoUnconfigured
  | issuerRegistryUnconfigured
  | issuerNotFound (issuerID : String)
  | listRevocations (issuerID : String)
  deriving DecidableEq

inductive CertStatus where
  | good | revoked | unknown
  deriving DecidableEq

structure OCSPSignRequest where
  certSerial : Int
  certStatus : CertStatus
  revokedAt : Option Time
  revocationReason : Nat
  thisUpdate : Time
  nextUpdate : Time
  deriving DecidableEq

structure CRLEntry where
  serialNumber : Int
  revokedAt : Time
  reasonCode : Nat

def CAServices.serial (svc : CAServices) (serialHex : String) : Int :=
  (hexInt serialHex.toList).getD (svc.undefinedSerial serialHex)

/-- The profile of the revoked certificate, as far as the two lookups get. -/
def revokedProfile (db : CADatabase) (certFails profileFails : Bool)
    (rev : CertificateRevocation) : Option CertificateProfile :=
  (lookup certFails (db.inventory.get rev.certificateID)).bind (fun cert =>
    if cert.certificateProfileID = "" then none
    else lookup profileFails (db.profiles.get? cert.certificateProfileID))

/-- The short-lived exemption as a request decides it. -/
def exempted (svc : CAServices) (db : CADatabase) (certFails profileFails : Bool)
    (rev : CertificateRevocation) : Bool :=
  svc.profileRepo && svc.certRepo &&
    (revokedProfile db certFails profileFails rev).any CertificateProfile.isShortLived

def CAServices.connector (svc : CAServices) (issuerID : String) : Except CAError Unit := do
  ensure svc.revocationRepo .revocationRepoUnconfigured
  ensure svc.issuerRegistry .issuerRegistryUnconfigured
  ensure (issuerID ∈ svc.issuers) (.issuerNotFound issuerID)

def generateDERCRL (svc : CAServices) (db : CADatabase) (faults : CRLFaults) (issuerID : String) :
    Except CAError (List CRLEntry) := do
  svc.connector issuerID
  ensure (faults.list = false) (.listRevocations issuerID)
  let listed := (db.revocations.listByIssuer issuerID).filter (fun rev =>
    !exempted svc db (faults.certificate rev) (faults.profile rev) rev)
  return listed.map (fun rev =>
    { serialNumber := svc.serial rev.serialNumber
      revokedAt := rev.revokedAt
      reasonCode := crlReasonCode rev.reason })

def signRequest (svc : CAServices) (now : Time) (serialHex : String) (status : CertStatus) :
    OCSPSignRequest :=
  { certSerial := svc.serial serialHex
    certStatus := status
    revokedAt := none
    revocationReason := 0
    thisUpdate := now
    nextUpdate := now + 3600000000000 }

/-- The exemption looks the revocation up once, the decision a second time; a failed
second lookup counts as no revocation. -/
def liveSignOCSPResponse (svc : CAServices) (db : CADatabase) (faults : SignFaults) (now : Time)
    (issuerID serialHex : String) : Except CAError OCSPSignRequest := do
  svc.connector issuerID
  let stored := db.revocations.getByIssuerAndSerial issuerID serialHex
  if (lookup faults.exemptionLookup stored).any (exempted svc db faults.certificate faults.profile)
  then return signRequest svc now serialHex .good
  else
    match lookup faults.revocationLookup stored with
    | some rev =>
      return { signRequest svc now serialHex .revoked with
        revokedAt := some rev.revokedAt
        revocationReason := crlReasonCode rev.reason }
    | none =>
      if svc.certRepo ∧
          lookup faults.inventory (db.inventory.getByIssuerAndSerial issuerID serialHex) = none
      then return signRequest svc now serialHex .unknown
      else return signRequest svc now serialHex .good

/-- The profile of the certificate behind the revocation is a short-lived one. -/
def shortLived (db : CADatabase) (rev : CertificateRevocation) : Bool :=
  (revokedProfile db false false rev).any CertificateProfile.isShortLived

/-- The inventory does not stand in the way of `good`: it knows the serial, or there
is none to ask. -/
def knownSerial (svc : CAServices) (db : CADatabase) (faults : SignFaults)
    (issuerID serialHex : String) : Bool :=
  !svc.certRepo ||
    (lookup faults.inventory (db.inventory.getByIssuerAndSerial issuerID serialHex)).isSome

variable {svc : CAServices} {db : CADatabase}

theorem exempted_iff {certFails profileFails : Bool} {rev : CertificateRevocation} :
    exempted svc db certFails profileFails rev = true ↔
      svc.profileRepo = true ∧ svc.certRepo = true ∧ certFails = false ∧ profileFails = false ∧
        shortLived db rev = true := by
  cases certFails <;> cases profileFails <;>
    simp [exempted, shortLived, revokedProfile, lookup, and_assoc]

/-- The requests that are answered `good`: the exemption applies, or no revocation
came out of the second lookup and the serial is known. -/
theorem liveSign_good_iff {faults : SignFaults} {now : Time} {issuerID serialHex : String} :
    (∃ req, liveSignOCSPResponse svc db faults now issuerID serialHex = .ok req ∧
      req.certStatus = .good) ↔
    svc.connector issuerID = .ok () ∧
      ((∃ rev, db.revocations.getByIssuerAndSerial issuerID serialHex = some rev ∧
          faults.exemptionLookup = false ∧
          exempted svc db faults.certificate faults.profile rev = true) ∨
        (lookup faults.revocationLookup (db.revocations.getByIssuerAndSerial issuerID serialHex) =
          none ∧ knownSerial svc db faults issuerID serialHex = true)) := by
  have exemption : (∃ rev, db.revocations.getByIssuerAndSerial issuerID serialHex = some rev ∧
        faults.exemptionLookup = false ∧
        exempted svc db faults.certificate faults.profile rev = true) ↔
      (lookup faults.exemptionLookup
        (db.revocations.getByIssuerAndSerial issuerID serialHex)).any
      (exempted svc db faults.certificate faults.profile) = true := by
    cases faults.exemptionLookup <;> simp [lookup, Option.any_eq_true]
  rw [exemption]
  unfold liveSignOCSPResponse
  cases connected : svc.connector issuerID with
  | error e => simp [bind, Except.bind]
  | ok _ =>
    by_cases exempt : (lookup faults.exemptionLookup
        (db.revocations.getByIssuerAndSerial issuerID serialHex)).any
        (exempted svc db faults.certificate faults.profile) = true
    · simp [exempt, signRequest]
    · simp only [exempt, Bool.false_eq_true, if_false, false_or]
      cases found : lookup faults.revocationLookup
          (db.revocations.getByIssuerAndSerial issuerID serialHex) with
      | some rev => simp [signRequest]
      | none =>
        by_cases unknown : svc.certRepo ∧
            lookup faults.inventory (db.inventory.getByIssuerAndSerial issuerID serialHex) = none
        · simp [unknown, signRequest, knownSerial]
        · have known : knownSerial svc db faults issuerID serialHex = true := by
            simp only [not_and] at unknown
            cases wired : svc.certRepo with
            | false => simp [knownSerial, wired]
            | true => simpa [knownSerial, wired, Option.isSome_iff_ne_none] using unknown wired
          simp [unknown, signRequest, known]

/-- The rows were listed, and the entries are those that are not exempted. -/
theorem generateDERCRL_ok {faults : CRLFaults} {issuerID : String} {entries : List CRLEntry}
    (generated : generateDERCRL svc db faults issuerID = .ok entries) :
    faults.list = false ∧ ∀ n, (∃ e ∈ entries, e.serialNumber = n) ↔
      ∃ rev ∈ db.revocations.rows, rev.issuerID = issuerID ∧
        exempted svc db (faults.certificate rev) (faults.profile rev) rev = false ∧
        svc.serial rev.serialNumber = n := by
  simp only [generateDERCRL, bind_eq_ok, ensure_eq_ok, exists_const] at generated
  obtain ⟨_, _, listed, result⟩ := generated
  cases result
  refine ⟨listed, fun n => ?_⟩
  simp [Revocations.listByIssuer, List.mem_mergeSort, and_assoc]

end Certctl.Source

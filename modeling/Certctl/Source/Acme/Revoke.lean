import Certctl.Source.Acme.Service
import Certctl.Source.RevocationSvc
import Certctl.Source.Serials

/-!
ACME revoke-cert: the presented certificate is resolved to a version row by the serial
number, the caller is authorized by account or by key, and the managed certificate of
that row goes to the revocation pipeline. A key stands for its thumbprint.

Source: internal/service/acme.go; internal/api/acme/jws.go, order.go.
-/
namespace Certctl.Source.Acme

open Lib

/-- `none` where the thumbprint cannot be computed. -/
structure JWK where
  thumbprint : Option String
  deriving DecidableEq

structure VerifiedRequest where
  account : Option Account
  jwk : Option JWK

/-- The parsed certificate. The service reads serial number and key; which registered
issuer signed it is not looked at. -/
structure PresentedCertificate where
  issuerID : String
  serialNumber : Nat
  publicKey : JWK

/-- A certificate that does not parse is `none`. -/
structure RevokeCertRequest where
  verified : Option VerifiedRequest
  certificate : Option PresentedCertificate
  reasonCode : Int

structure RevokeCertFaults where
  version : Bool
  certificate : Bool
  ownership : Bool
  pipeline : RevocationFaults

/-- Everything outside the tables: wiring, the place in the registry the map iteration
starts at, the calls that fail, clock and random row id. -/
structure RevokeCertContext where
  env : Env
  revoker : Option RevocationSvc
  draw : Nat
  faults : RevokeCertFaults
  now : Time
  rowID : String

structure RevokeCertState where
  store : Store
  revocations : Revocations

inductive RevokeCertError where
  | revocationUnconfigured
  | certRepoUnwired
  | revocationUnauthorized
  | revocationBadCSR
  | revocationCertNotFound
  | revocationAlreadyRevoked
  | ownershipLookup
  | keyCompare
  | pipeline (cause : RevocationError)

/-- Go ranges over a map from a random place. -/
def firstAvailableIssuer (env : Env) (draw : Nat) : Option String :=
  if env.issuerRegistry then env.issuers[draw % env.issuers.length]? else none

def mapACMERevocationReason : Int → String
  | 0 => "unspecified"
  | 1 => "keyCompromise"
  | 2 => "caCompromise"
  | 3 => "affiliationChanged"
  | 4 => "superseded"
  | 5 => "cessationOfOperation"
  | 6 => "certificateHold"
  | 9 => "privilegeWithdrawn"
  | _ => "unspecified"

def jwksThumbprintsEqualSvc (a b : JWK) : Except RevokeCertError Bool := do
  let ta ← orFail a.thumbprint .keyCompare
  let tb ← orFail b.thumbprint .keyCompare
  return decide (ta = tb)

/-- The actor of an authorized request. -/
def authorizeRevocation (c : RevokeCertContext) (store : Store) (verified : VerifiedRequest)
    (leaf : PresentedCertificate) (certID : String) : Except RevokeCertError String := do
  match verified.account, verified.jwk with
  | some account, _ =>
    ensure (c.faults.ownership = false) .ownershipLookup
    ensure (store.accountOwnsCertificate account.accountID certID) .revocationUnauthorized
    return "acme:" ++ account.accountID
  | none, some jwk =>
    let equal ← jwksThumbprintsEqualSvc jwk leaf.publicKey
    ensure equal .revocationUnauthorized
    return "acme-cert-key:" ++ revokeCertSerial c.env.unicode leaf.serialNumber
  | none, none => .error .revocationUnauthorized

/-- An error of the pipeline that reads `already revoked` becomes the ACME error. -/
def pipelineError (e : RevocationError) : RevokeCertError :=
  if "already revoked".toList <:+: e.message.toList then .revocationAlreadyRevoked else .pipeline e

def revokeCert (c : RevokeCertContext) (s : RevokeCertState) (req : RevokeCertRequest) :
    Except RevokeCertError RevokeCertState := do
  let revoker ← orFail c.revoker .revocationUnconfigured
  ensure c.env.certRepo .certRepoUnwired
  let verified ← orFail req.verified .revocationUnauthorized
  let leaf ← orFail req.certificate .revocationBadCSR
  let issuerID ← orFail (firstAvailableIssuer c.env c.draw) .revocationCertNotFound
  let serialHex := revokeCertSerial c.env.unicode leaf.serialNumber
  let version ← orFail (lookup c.faults.version
    (s.store.inventory.getVersionBySerial issuerID serialHex)) .revocationCertNotFound
  let cert ← orFail (lookup c.faults.certificate (s.store.inventory.get version.certificateID))
    .revocationCertNotFound
  ensure (cert.status ≠ .revoked) .revocationAlreadyRevoked
  let actor ← authorizeRevocation c s.store verified leaf cert.id
  let db ← (revoker.revokeCertificateWithActor c.faults.pipeline ⟨s.store.inventory, s.revocations⟩
    c.now c.rowID cert.id (mapACMERevocationReason req.reasonCode) actor).mapError pipelineError
  return ⟨{ s.store with inventory := db.inventory }, db.revocations⟩

/-- What a successful request has resolved: the version row of the serial at the issuer
the registry gave, and the row its managed certificate was revoked under. -/
theorem revokeCert_ok {c : RevokeCertContext} {s s' : RevokeCertState} {req : RevokeCertRequest}
    {leaf : PresentedCertificate} (parsed : req.certificate = some leaf)
    (returned : revokeCert c s req = .ok s') :
    ∃ revoker issuerID version latest, c.revoker = some revoker ∧
      firstAvailableIssuer c.env c.draw = some issuerID ∧
      s.store.inventory.getVersionBySerial issuerID
        (revokeCertSerial c.env.unicode leaf.serialNumber) = some version ∧
      s.store.inventory.getLatestVersion version.certificateID = some latest ∧
      ∀ key, (s'.revocations.get? key).isSome = true ↔
        (s.revocations.get? key).isSome = true ∨
          revoker.stores c.faults.pipeline = true ∧ key = (issuerID, latest.serialNumber) := by
  simp only [revokeCert, bind_eq_ok, orFail_eq_ok, ensure_eq_ok, exists_const,
    mapError_eq_ok] at returned
  obtain ⟨revoker, wired, _, _, _, other, same, issuerID, picked, version, found, cert, resolved, _,
    _, _, db, revoked, result⟩ := returned
  cases same.symm.trans parsed
  cases result
  have resolved := eq_some_of_lookup resolved
  have found := eq_some_of_lookup found
  obtain ⟨owner, latest, again, newest, keys⟩ :=
    RevocationSvc.revokeCertificateWithActor_ok revoked
  have named : cert.id = version.certificateID := Table.get?_key resolved
  rw [named] at again newest
  obtain ⟨joined, isJoined, issued⟩ := Inventory.getVersionBySerial_issuer found
  cases again.symm.trans isJoined
  rw [issued] at keys
  exact ⟨revoker, issuerID, version, latest, wired, picked, found, newest, keys⟩

end Certctl.Source.Acme

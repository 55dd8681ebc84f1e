import Certctl.Source.CAOperations

/-!
OCSP and CRL over the same tables, under any pattern of repository failures. The CRL
keeps a row whenever a lookup of the exemption fails; OCSP drops the revocation when
its second lookup fails and then asks the inventory only. The two agree, and OCSP
fails closed, exactly when none of three situations occurs.
-/
namespace Certctl.Guarantees.RevocationAnswers

open Lib Source

/-- One OCSP request and one CRL request over the same tables. -/
structure Requests where
  svc : CAServices
  db : CADatabase
  signFaults : SignFaults
  crlFaults : CRLFaults
  now : Time
  issuerID : String
  serialHex : String

namespace Requests

variable (r : Requests)

/-- The revocation row of the queried serial. -/
def stored : Option CertificateRevocation :=
  r.db.revocations.getByIssuerAndSerial r.issuerID r.serialHex

def SignsGood : Prop :=
  ∃ req, liveSignOCSPResponse r.svc r.db r.signFaults r.now r.issuerID r.serialHex = .ok req ∧
    req.certStatus = .good

/-- A revoked serial of a certificate that is not short-lived is never answered
`good` and stands in the CRL; a serial in the CRL is never answered `good`. -/
structure Agree : Prop where
  failClosed : ∀ rev, r.stored = some rev → shortLived r.db rev = false → ¬ r.SignsGood
  inCRL : ∀ rev entries, r.stored = some rev → shortLived r.db rev = false →
    generateDERCRL r.svc r.db r.crlFaults r.issuerID = .ok entries →
    ∃ e ∈ entries, e.serialNumber = r.svc.serial r.serialHex
  notGood : ∀ entries, generateDERCRL r.svc r.db r.crlFaults r.issuerID = .ok entries →
    (∃ e ∈ entries, e.serialNumber = r.svc.serial r.serialHex) → ¬ r.SignsGood

/-- Some row of the issuer with the number of the queried serial escapes the
exemption of the CRL request. -/
def Listed : Prop :=
  r.crlFaults.list = false ∧ ∃ rev ∈ r.db.revocations.rows, rev.issuerID = r.issuerID ∧
    exempted r.svc r.db (r.crlFaults.certificate rev) (r.crlFaults.profile rev) rev = false ∧
    r.svc.serial rev.serialNumber = r.svc.serial r.serialHex

/-- The three situations that do not occur: a second lookup that fails for a known
serial (harmless only for a short-lived certificate that is not listed either); an
exempted certificate that the CRL request lists; a known serial without a row of its
own whose number is listed under another spelling. -/
structure SoundLookups : Prop where
  secondLookup : ∀ rev, r.stored = some rev → r.signFaults.revocationLookup = true →
    knownSerial r.svc r.db r.signFaults r.issuerID r.serialHex = true →
    shortLived r.db rev = true ∧ ¬ r.Listed
  exemption : ∀ rev, r.stored = some rev → r.signFaults.exemptionLookup = false →
    exempted r.svc r.db r.signFaults.certificate r.signFaults.profile rev = true → ¬ r.Listed
  spelling : r.stored = none →
    knownSerial r.svc r.db r.signFaults r.issuerID r.serialHex = true → ¬ r.Listed

end Requests

variable {r : Requests}

theorem generateDERCRL_listed {entries : List CRLEntry}
    (generated : generateDERCRL r.svc r.db r.crlFaults r.issuerID = .ok entries) :
    (∃ e ∈ entries, e.serialNumber = r.svc.serial r.serialHex) ↔ r.Listed := by
  obtain ⟨listed, members⟩ := generateDERCRL_ok generated
  rw [members, Requests.Listed]
  simp [listed]

theorem signsGood_iff : r.SignsGood ↔ r.svc.connector r.issuerID = .ok () ∧
    ((∃ rev, r.stored = some rev ∧ r.signFaults.exemptionLookup = false ∧
        exempted r.svc r.db r.signFaults.certificate r.signFaults.profile rev = true) ∨
      (lookup r.signFaults.revocationLookup r.stored = none ∧
        knownSerial r.svc r.db r.signFaults r.issuerID r.serialHex = true)) :=
  liveSign_good_iff

/-- A revoked certificate that is not short-lived always stands in the CRL. -/
theorem listed_of_stored {rev : CertificateRevocation} (stored : r.stored = some rev)
    (lasting : shortLived r.db rev = false) (reachable : r.crlFaults.list = false) : r.Listed := by
  obtain ⟨row, issuer, serial⟩ := Revocations.getByIssuerAndSerial_eq_some.mp stored
  refine ⟨reachable, rev, row, issuer, ?_, by rw [serial]⟩
  cases exempt : exempted r.svc r.db (r.crlFaults.certificate rev) (r.crlFaults.profile rev)
      rev with
  | false => rfl
  | true =>
    rw [(exempted_iff.mp exempt).2.2.2.2] at lasting
    cases lasting

theorem agree_of_soundLookups (sound : r.svc.connector r.issuerID = .ok () → r.SoundLookups) :
    r.Agree := by
  -- every way to `good` is one of the three situations
  have notGood (good : r.SignsGood) : ¬ r.Listed := by
    obtain ⟨connected, way⟩ := signsGood_iff.mp good
    rcases way with ⟨rev, stored, first, exempt⟩ | ⟨missed, known⟩
    · exact (sound connected).exemption rev stored first exempt
    · cases stored : r.stored with
      | none => exact (sound connected).spelling stored known
      | some rev =>
        rcases lookup_eq_none.mp missed with fails | absent
        · exact ((sound connected).secondLookup rev stored fails known).2
        · rw [stored] at absent
          cases absent
  refine ⟨?_, ?_, ?_⟩
  · intro rev stored lasting good
    obtain ⟨connected, way⟩ := signsGood_iff.mp good
    rcases way with ⟨other, found, _, exempt⟩ | ⟨missed, known⟩
    · cases stored.symm.trans found
      rw [(exempted_iff.mp exempt).2.2.2.2] at lasting
      cases lasting
    · rcases lookup_eq_none.mp missed with fails | absent
      · rw [((sound connected).secondLookup rev stored fails known).1] at lasting
        cases lasting
      · rw [stored] at absent
        cases absent
  · intro rev entries stored lasting generated
    have listed := listed_of_stored stored lasting (generateDERCRL_ok generated).1
    exact (generateDERCRL_listed generated).mpr listed
  · intro entries generated inCRL good
    exact notGood good ((generateDERCRL_listed generated).mp inCRL)

theorem soundLookups_of_agree (agree : r.Agree) (connected : r.svc.connector r.issuerID = .ok ()) :
    r.SoundLookups := by
  have notGood (listed : r.Listed) : ¬ r.SignsGood := by
    have generated : ∃ entries, generateDERCRL r.svc r.db r.crlFaults r.issuerID = .ok entries :=
      ⟨_, bind_eq_ok.mpr ⟨(), connected, bind_eq_ok.mpr ⟨(), by simpa using listed.1, rfl⟩⟩⟩
    obtain ⟨entries, generated⟩ := generated
    exact agree.notGood entries generated ((generateDERCRL_listed generated).mpr listed)
  refine ⟨?_, ?_, ?_⟩
  · intro rev stored fails known
    have good : r.SignsGood :=
      signsGood_iff.mpr ⟨connected, .inr ⟨lookup_eq_none.mpr (.inl fails), known⟩⟩
    refine ⟨?_, fun listed => notGood listed good⟩
    cases lasting : shortLived r.db rev with
    | true => rfl
    | false => exact absurd good (agree.failClosed rev stored lasting)
  · intro rev stored first exempt listed
    exact notGood listed (signsGood_iff.mpr ⟨connected, .inl ⟨rev, stored, first, exempt⟩⟩)
  · intro absent known listed
    have good : r.SignsGood :=
      signsGood_iff.mpr ⟨connected, .inr ⟨lookup_eq_none.mpr (.inr absent), known⟩⟩
    exact notGood listed good

/-- For a served issuer the two answers agree and fail closed exactly under sound
lookups; for any other issuer both requests are refused. -/
theorem agree_iff_soundLookups (r : Requests) :
    r.Agree ↔ (r.svc.connector r.issuerID = .ok () → r.SoundLookups) :=
  ⟨soundLookups_of_agree, agree_of_soundLookups⟩

def wiredServices : CAServices := ⟨true, true, true, true, ["iss-local"], fun _ => 0⟩

def lastingProfile : CertificateProfile := ⟨"prof-web", 7776000, [], false, false, ""⟩

def webCertificate : ManagedCertificate :=
  { id := "mc-1"
    name := "web"
    commonName := "web.example"
    sans := []
    issuerID := "iss-local"
    certificateProfileID := "prof-web"
    status := .revoked
    expiresAt := 0
    revokedAt := some 5
    revocationReason := "keyCompromise"
    source := .api
    updatedAt := 5 }

def webRevocation : CertificateRevocation :=
  { id := "rev-1"
    certificateID := "mc-1"
    serialNumber := "0a"
    reason := "keyCompromise"
    revokedBy := "admin"
    revokedAt := 5
    issuerID := "iss-local"
    issuerNotified := false
    createdAt := 5 }

def webDatabase : CADatabase where
  revocations := ⟨[webRevocation], by decide⟩
  inventory := ⟨⟨[webCertificate], by decide⟩,
    ⟨[⟨"v-1", "mc-1", "0a", 0, 0, "fp", "pem", "csr", 0⟩], by decide⟩⟩
  profiles := ⟨[lastingProfile], by decide⟩

/-- A query for the revoked certificate whose second revocation lookup fails. -/
def lostLookup : Requests where
  svc := wiredServices
  db := webDatabase
  signFaults := ⟨false, false, false, true, false⟩
  crlFaults := ⟨false, fun _ => false, fun _ => false⟩
  now := 10
  issuerID := "iss-local"
  serialHex := "0a"

/-- The query is answered `good` although the row exists and the profile is lasting. -/
theorem lostLookup_disagrees : lostLookup.stored = some webRevocation ∧
    shortLived lostLookup.db webRevocation = false ∧ ¬ lostLookup.Agree := by
  have stored : lostLookup.stored = some webRevocation := by decide +kernel
  have lasting : shortLived lostLookup.db webRevocation = false := by decide +kernel
  refine ⟨stored, lasting, ?_⟩
  intro agree
  apply agree.failClosed webRevocation stored lasting
  exact ⟨signRequest lostLookup.svc 10 "0a" .good, by decide +kernel, rfl⟩

end Certctl.Guarantees.RevocationAnswers

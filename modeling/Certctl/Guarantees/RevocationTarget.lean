import Certctl.Guarantees.AcmeSamples
import Certctl.Source.Acme.Revoke

/-!
What an ACME revocation revokes. The presented serial selects a version row, but the
pipeline is handed the managed certificate and records the serial of its latest
version. After a renewal the two differ: the request succeeds, the row names the
renewed certificate, and the presented one stays unrevoked.
-/
namespace Certctl.Guarantees.RevocationTarget

open Lib Source Source.Acme

/-- The stored text is a hexadecimal form of the serial number. -/
def Denotes (serial : String) (n : Nat) : Prop := hexInt serial.toList = some (n : Int)

/-- The table has a row of the certificate's issuer and serial. -/
def Recorded (revocations : Revocations) (leaf : PresentedCertificate) : Prop :=
  ∃ rev ∈ revocations.rows, rev.issuerID = leaf.issuerID ∧
    Denotes rev.serialNumber leaf.serialNumber

instance (revocations : Revocations) (leaf : PresentedCertificate) :
    Decidable (Recorded revocations leaf) :=
  inferInstanceAs (Decidable (∃ rev ∈ revocations.rows, rev.issuerID = leaf.issuerID ∧
    hexInt rev.serialNumber.toList = some (leaf.serialNumber : Int)))

/-- The state before the request leads the pipeline to the presented certificate. -/
structure OnTarget (c : RevokeCertContext) (s : RevokeCertState) (leaf : PresentedCertificate) :
    Prop where
  /-- The registry gives the issuer that signed the certificate. -/
  issuer : firstAvailableIssuer c.env c.draw = some leaf.issuerID
  /-- The managed certificate of the serial has not been renewed to another one. -/
  current : ∀ version latest,
    s.store.inventory.getVersionBySerial leaf.issuerID
      (revokeCertSerial c.env.unicode leaf.serialNumber) = some version →
    s.store.inventory.getLatestVersion version.certificateID = some latest →
    Denotes latest.serialNumber leaf.serialNumber
  /-- The pipeline stores rows, and a failed insert is not passed over. -/
  stored : ∀ revoker, c.revoker = some revoker → revoker.stores c.faults.pipeline = true

theorem recorded_iff {revocations : Revocations} {leaf : PresentedCertificate} :
    Recorded revocations leaf ↔ ∃ serial, Denotes serial leaf.serialNumber ∧
      (revocations.get? (leaf.issuerID, serial)).isSome = true := by
  constructor
  · rintro ⟨rev, member, issued, denotes⟩
    have found := Table.get?_of_mem member
    rw [CertificateRevocation.key, issued] at found
    exact ⟨rev.serialNumber, denotes, by simp [found]⟩
  · rintro ⟨serial, denotes, present⟩
    obtain ⟨rev, found⟩ := Option.isSome_iff_exists.mp present
    obtain ⟨member, keyed⟩ := Table.get?_eq_some_iff.mp found
    obtain ⟨issued, named⟩ := Prod.mk.inj keyed
    exact ⟨rev, member, issued, named ▸ denotes⟩

/-- After a successful request the presented certificate is in the table exactly when
it was there before, or the state led the pipeline to it. -/
theorem recorded_iff_onTarget (c : RevokeCertContext) {s s' : RevokeCertState}
    {req : RevokeCertRequest} {leaf : PresentedCertificate} (parsed : req.certificate = some leaf)
    (returned : revokeCert c s req = .ok s') :
    Recorded s'.revocations leaf ↔ Recorded s.revocations leaf ∨ OnTarget c s leaf := by
  obtain ⟨revoker, issuerID, version, latest, wired, picked, found, newest, keys⟩ :=
    revokeCert_ok parsed returned
  rw [recorded_iff, recorded_iff]
  constructor
  · rintro ⟨serial, denotes, present⟩
    rcases (keys _).mp present with before | ⟨stores, same⟩
    · exact .inl ⟨serial, denotes, before⟩
    · obtain ⟨rfl, rfl⟩ := Prod.mk.inj same
      refine .inr ⟨picked, ?_, ?_⟩
      · intro other last again later
        cases again.symm.trans found
        cases later.symm.trans newest
        exact denotes
      · intro other again
        cases again.symm.trans wired
        exact stores
  · rintro (⟨serial, denotes, before⟩ | target)
    · exact ⟨serial, denotes, (keys _).mpr (.inl before)⟩
    · cases picked.symm.trans target.issuer
      refine ⟨latest.serialNumber, target.current version latest found newest, ?_⟩
      exact (keys _).mpr (.inr ⟨target.stored revoker wired, rfl⟩)

def clientKey : JWK := ⟨some "thumb-web"⟩

/-- Two serials of the size the local issuer draws. -/
def firstSerial : Nat := 0x4000000000000000000000000000000000000001

def secondSerial : Nat := 0x4000000000000000000000000000000000000002

def webCert : ManagedCertificate :=
  { id := "mc-web"
    name := "web"
    commonName := "web.example"
    sans := []
    issuerID := "iss-local"
    certificateProfileID := "prof-web"
    status := .active
    expiresAt := 1000
    revokedAt := none
    revocationReason := ""
    source := .acme
    updatedAt := 0 }

def webVersion (id : String) (n : Nat) (createdAt : Time) : CertificateVersion :=
  ⟨id, "mc-web", ocspPostSerial n, 0, 1000, "fp-" ++ id, "pem", "csr", createdAt⟩

def webLeaf (n : Nat) : PresentedCertificate := ⟨"iss-local", n, clientKey⟩

/-- The holder of the key presents the first certificate. -/
def presentFirst : RevokeCertRequest where
  verified := some ⟨none, some clientKey⟩
  certificate := some (webLeaf firstSerial)
  reasonCode := 1

def wiredContext : RevokeCertContext where
  env := sampleEnv
  revoker := some ⟨true, true, false, []⟩
  draw := 0
  faults := ⟨false, false, false, none, none, none, none, none, none, none, false, false,
    fun _ => false⟩
  now := 50
  rowID := "rev-1"

def onceIssued : RevokeCertState where
  store := .initial ⟨⟨[webCert], by decide⟩, ⟨[webVersion "v-1" firstSerial 0], by decide⟩⟩
  revocations := .empty _

def renewed : RevokeCertState where
  store := .initial ⟨⟨[webCert], by decide⟩,
    ⟨[webVersion "v-1" firstSerial 0, webVersion "v-2" secondSerial 10], by decide⟩⟩
  revocations := .empty _

theorem onTarget_onceIssued : OnTarget wiredContext onceIssued (webLeaf firstSerial) where
  issuer := by decide +kernel
  current := by
    intro version latest found newest
    have only : onceIssued.store.inventory.getVersionBySerial "iss-local"
        (revokeCertSerial .basic firstSerial) = some (webVersion "v-1" firstSerial 0) := by
      decide +kernel
    cases found.symm.trans only
    have last : onceIssued.store.inventory.getLatestVersion "mc-web" =
        some (webVersion "v-1" firstSerial 0) := by decide +kernel
    cases newest.symm.trans last
    show hexInt (ocspPostSerial firstSerial).toList = some (firstSerial : Int)
    decide +kernel
  stored := by
    intro revoker wired
    cases wired
    rfl

theorem recorded_onceIssued :
    ∃ s', revokeCert wiredContext onceIssued presentFirst = .ok s' ∧
      Recorded s'.revocations (webLeaf firstSerial) := by
  have succeeds : (revokeCert wiredContext onceIssued presentFirst).toOption.isSome = true := by
    decide +kernel
  obtain ⟨s', result⟩ := Option.isSome_iff_exists.mp succeeds
  have returned := toOption_eq_some.mp result
  exact ⟨s', returned,
    (recorded_iff_onTarget wiredContext rfl returned).mpr (.inr onTarget_onceIssued)⟩

/-- The old certificate of a renewed pair is presented; the row names the new one. -/
theorem renewed_misses :
    ∃ s', revokeCert wiredContext renewed presentFirst = .ok s' ∧
      Recorded s'.revocations (webLeaf secondSerial) ∧
      ¬ Recorded s'.revocations (webLeaf firstSerial) := by
  have misses : (revokeCert wiredContext renewed presentFirst).toOption.any (fun s' =>
      decide (Recorded s'.revocations (webLeaf secondSerial)) &&
        !decide (Recorded s'.revocations (webLeaf firstSerial))) = true := by decide +kernel
  obtain ⟨s', result, rows⟩ := (Option.any_eq_true ..).mp misses
  refine ⟨s', toOption_eq_some.mp result, ?_⟩
  simpa using rows

end Certctl.Guarantees.RevocationTarget

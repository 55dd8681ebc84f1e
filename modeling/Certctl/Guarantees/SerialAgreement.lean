import Certctl.Source.LocalIssuer
import Certctl.Source.Revocations
import Certctl.Source.Serials

/-!
One serial number, two spellings. The local issuer reports forty hexadecimal digits;
the lookups derive the digits without leading zeros. The two agree exactly for the
serials that need all forty digits.
-/
namespace Certctl.Guarantees.SerialAgreement

open Lib Source Source.LocalIssuer

/-- Every lookup derives the reported string, whether or not the bytes of the
renewal-info id start with a zero byte, and an OCSP POST query finds the revocation
row that carries it. -/
structure SerialsAgree (u : UnicodeCase) (n : Nat) (reported : String) : Prop where
  ocspPost : ocspPostSerial n = reported
  revokeCert : revokeCertSerial u n = reported
  renewalInfo : ∀ aki, (ARICertID.mk aki (bigEndian n)).serialHex u = reported
  renewalInfoPadded : ∀ aki, (ARICertID.mk aki (0 :: bigEndian n)).serialHex u = reported
  revocationFound : ∀ (t : Revocations) (rev : CertificateRevocation), rev ∈ t.rows →
    rev.serialNumber = reported → t.getByIssuerAndSerial rev.issuerID (ocspPostSerial n) = some rev

/-- All derived strings are the same one, so agreement is one equation. -/
theorem serialsAgree_iff (u : UnicodeCase) {n : Nat} (positive : 0 < n) (reported : String) :
    SerialsAgree u n reported ↔ ocspPostSerial n = reported := by
  constructor
  · exact fun agree => agree.ocspPost
  · intro same
    have bytes := ofBigEndian_bigEndian n
    refine ⟨same, ?_, ?_, ?_, ?_⟩
    · rw [revokeCertSerial_eq, same]
    · intro aki
      rw [serialHex_eq u positive bytes, same]
    · intro aki
      rw [serialHex_eq u positive ((ofBigEndian_zero_cons _).trans bytes), same]
    · intro t rev row carries
      exact Revocations.getByIssuerAndSerial_eq_some.mpr ⟨row, rfl, carries.trans same.symm⟩

/-- The serials of the local issuer agree exactly from forty digits on. -/
theorem serialsAgree_iff_fortyDigits (u : UnicodeCase) (n : Nat) (positive : 0 < n)
    (cfg : LocalIssuer.Config) (now : Time) (csr : CertificateRequest)
    (sans ekus : List String) (maxTTLSeconds : Int) (mustStaple : Bool) :
    SerialsAgree u n (generateCertificate cfg now n csr sans ekus maxTTLSeconds mustStaple).2 ↔
      16 ^ 39 ≤ n := by
  have padded : hexPadded 40 n = hex n ↔ 16 ^ 39 ≤ n := hexPadded_eq_iff (by decide)
  rw [serialsAgree_iff u positive, ← padded]
  simp only [generateCertificate, ocspPostSerial]
  constructor
  · intro same
    exact (String.ofList_injective same).symm
  · intro same
    rw [same]

def plainRequest : CertificateRequest := ⟨"web.example", ["web.example"], [], []⟩

/-- The serial as the issuer reports it for a plain request. -/
def reportedSerial (n : Nat) : String :=
  (generateCertificate ⟨365, []⟩ 0 n plainRequest [] [] 0 false).2

theorem serialsAgree_twoPow158 : 0 < 2 ^ 158 ∧ 2 ^ 158 < 2 ^ 159 ∧
    SerialsAgree .basic (2 ^ 158) (reportedSerial (2 ^ 158)) :=
  ⟨by decide, by decide, (serialsAgree_iff_fortyDigits .basic (2 ^ 158) (by decide) ⟨365, []⟩ 0
    plainRequest [] [] 0 false).mpr (by decide)⟩

/-- A revocation as it is recorded for a certificate of the issuer. -/
def recorded (n : Nat) : CertificateRevocation :=
  { id := "rev-1"
    certificateID := "mc-1"
    serialNumber := reportedSerial n
    reason := "keyCompromise"
    revokedBy := "admin"
    revokedAt := 0
    issuerID := "iss-local"
    issuerNotified := false
    createdAt := 0 }

/-- The serial 255 is reported with leading zeros: no lookup agrees, and an OCSP
POST query for the revoked certificate finds nothing. -/
theorem serial255_disagrees : 0 < 255 ∧ 255 < 2 ^ 159 ∧
    ¬ SerialsAgree .basic 255 (reportedSerial 255) ∧
    (Revocations.create (.empty _) (recorded 255)).getByIssuerAndSerial "iss-local"
      (ocspPostSerial 255) = none := by
  refine ⟨by decide, by decide, ?_, by decide +kernel⟩
  intro agree
  exact absurd agree.ocspPost (by decide +kernel)

end Certctl.Guarantees.SerialAgreement

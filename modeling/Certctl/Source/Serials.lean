import Certctl.Lib.Numeral

/-!
Serial numbers on their way back in: the strings that the OCSP POST handler, ACME
revoke-cert and the renewal-info certificate id derive from a serial number before
they look it up.

Source: internal/api/acme/ari.go; internal/api/handler/certificates.go.
-/
namespace Certctl.Source

open Lib

/-- `HandleOCSPPost`: the `%x` of the request's serial. -/
def ocspPostSerial (n : Nat) : String := String.ofList (hex n)

/-- `RevokeCert`: `strings.ToLower(SerialNumber.Text(16))`. -/
def revokeCertSerial (u : UnicodeCase) (n : Nat) : String := toLower u (String.ofList (hex n))

structure ARICertID where
  aki : List UInt8
  serial : List UInt8

def ARICertID.serialHex (u : UnicodeCase) (id : ARICertID) : String :=
  if id.serial = [] then ""
  else if ofBigEndian id.serial = 0 then "0"
  else toLower u (String.ofList (hex (ofBigEndian id.serial)))

theorem revokeCertSerial_eq (u : UnicodeCase) (n : Nat) :
    revokeCertSerial u n = ocspPostSerial n := by
  unfold revokeCertSerial toLower ocspPostSerial
  rw [String.toList_ofList, lower_hex]

/-- Bytes of a positive number give its plain hexadecimal form. -/
theorem serialHex_eq (u : UnicodeCase) {id : ARICertID} {n : Nat} (positive : 0 < n)
    (value : ofBigEndian id.serial = n) : id.serialHex u = ocspPostSerial n := by
  have some : id.serial ≠ [] := by
    intro empty
    rw [empty] at value
    simp only [ofBigEndian, List.foldl_nil] at value
    omega
  rw [ARICertID.serialHex, if_neg some, value, if_neg (by omega)]
  exact revokeCertSerial_eq u n

end Certctl.Source

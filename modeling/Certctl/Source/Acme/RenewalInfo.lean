import Certctl.Source.Scep.IntuneChallenge

/-!
The renewal window that the ACME server suggests for a certificate, as an interval of
instants. Products of durations keep their low 64 bits, differences of instants saturate.

Source: internal/api/acme/ari.go.
-/
namespace Certctl.Source.Acme

open Source.Scep (timeSub negateDuration)

def dayLength : Time := 86400000000000

def daysDuration (days : Int) : Time := Int.bmod (days * dayLength) (2 ^ 64)

/-- Zero without a version that says when it begins. -/
def validityOf (cert : ManagedCertificate) (version : Option CertificateVersion) : Time :=
  timeSub cert.expiresAt
    (((version.map CertificateVersion.notBefore).filter (· ≠ 0)).getD cert.expiresAt)

/-- A window that has begun starts now, and none ends before it starts. -/
def clampWindow (now start stop : Time) : Time × Time :=
  let start := if now ≠ 0 ∧ start < now then now else start
  (start, if stop < start then start else stop)

/-- Of the policy only the number of days is read. -/
def computeRenewalWindow (cert : Option ManagedCertificate) (version : Option CertificateVersion)
    (renewalWindowDays : Option Int) (now : Time) : Time × Time :=
  match cert with
  | none => (0, 0)
  | some cert =>
    let notAfter := cert.expiresAt
    if now ≠ 0 ∧ notAfter < now then (now, now + dayLength)
    else match renewalWindowDays.filter (0 < ·) with
      | some days =>
        let windowDays := daysDuration days
        let start := notAfter + negateDuration windowDays
        clampWindow now start (start + windowDays.tdiv 2)
      | none =>
        let validity := validityOf cert version
        if validity ≤ 0 then (notAfter - dayLength, notAfter)
        else
          let thirty3 := validity.tdiv 3
          clampWindow now (notAfter - thirty3) (notAfter + (-thirty3).tdiv 3)

end Certctl.Source.Acme

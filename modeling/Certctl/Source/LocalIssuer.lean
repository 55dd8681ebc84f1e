import Certctl.Source.Domain
import Mathlib.Data.List.Dedup

/-!
The local issuer: the certificate template that `generateCertificate` fills in from
a signing request and the names of the issuance request. The random serial and the
clock are arguments; key identifiers and the signature are not modelled. The Go map
that collects the names is a duplicate-free list, its order standing for the order
in which the runtime ranges over it.

Source: internal/connector/issuer/local/local.go.
-/
namespace Certctl.Source.LocalIssuer

open Lib

inductive ExtKeyUsage where
  | serverAuth | clientAuth | codeSigning | emailProtection | timeStamping

structure KeyUsage where
  digitalSignature : Bool
  keyEncipherment : Bool
  contentCommitment : Bool

def ekuNameToX509 : String → Option ExtKeyUsage
  | "serverAuth" => some .serverAuth
  | "clientAuth" => some .clientAuth
  | "codeSigning" => some .codeSigning
  | "emailProtection" => some .emailProtection
  | "timeStamping" => some .timeStamping
  | _ => none

/-- Unknown names are skipped; without a known one the TLS defaults apply. -/
def resolveEKUsAndKeyUsage (ekus : List String) : List ExtKeyUsage × KeyUsage :=
  let resolved := ekus.filterMap ekuNameToX509
  if resolved = [] then ([.serverAuth, .clientAuth], ⟨true, true, false⟩)
  else (resolved, ⟨true, decide ("serverAuth" ∈ ekus ∨ "clientAuth" ∈ ekus),
    decide ("emailProtection" ∈ ekus)⟩)

structure Config where
  validityDays : Int
  crlDistributionPointURLs : List String

structure CertificateTemplate where
  serialNumber : Nat
  subjectCommonName : String
  notBefore : Time
  notAfter : Time
  keyUsage : KeyUsage
  extKeyUsage : List ExtKeyUsage
  dnsNames : List String
  emailAddresses : List String
  ipAddresses : List IP
  crlDistributionPoints : List String
  mustStaple : Bool

/-- The name `localhost` and IP literals, in the four-byte form where there is one. -/
def parseIP (s : String) : Option IP :=
  if s = "localhost" then some (.v4 127 0 0 1) else (parseIPText s.toList).map IP.to4

def isEmail (s : String) : Bool := decide ('@' ∈ s.toList)

/-- All names, of the request and added, as strings of one set. -/
def sanSet (csr : CertificateRequest) (additionalSANs : List String) : List String :=
  (csr.dnsNames ++ csr.ipAddresses.map (fun ip => String.ofList ip.text) ++ csr.emailAddresses ++
    additionalSANs).dedup

/-- The configured validity, capped by the profile's maximum; the product of
seconds and nanoseconds is a wrapping 64-bit one. -/
def notAfter (cfg : Config) (now : Time) (maxTTLSeconds : Int) : Time :=
  let configured := now + cfg.validityDays * 86400000000000
  let capped := now + (maxTTLSeconds * 1000000000).bmod (2 ^ 64)
  if 0 < maxTTLSeconds ∧ capped < configured then capped else configured

/-- The template and the serial as it is reported. -/
def generateCertificate (cfg : Config) (now : Time) (serialNum : Nat) (csr : CertificateRequest)
    (additionalSANs ekus : List String) (maxTTLSeconds : Int) (mustStaple : Bool) :
    CertificateTemplate × String :=
  let names := sanSet csr additionalSANs
  ({ serialNumber := serialNum
     subjectCommonName := csr.commonName
     notBefore := now
     notAfter := notAfter cfg now maxTTLSeconds
     keyUsage := (resolveEKUsAndKeyUsage ekus).2
     extKeyUsage := (resolveEKUsAndKeyUsage ekus).1
     dnsNames := names.filter (fun san => (parseIP san).isNone && !isEmail san)
     emailAddresses := names.filter (fun san => (parseIP san).isNone && isEmail san)
     ipAddresses := names.filterMap parseIP
     crlDistributionPoints := cfg.crlDistributionPointURLs
     mustStaple },
   String.ofList (hexPadded 40 serialNum))

variable {u : UnicodeCase} {s : String}

theorem mem_sanSet {csr : CertificateRequest} {additionalSANs : List String} :
    s ∈ sanSet csr additionalSANs ↔ s ∈ csr.dnsNames ∨
      (∃ ip ∈ csr.ipAddresses, String.ofList ip.text = s) ∨ s ∈ csr.emailAddresses ∨
      s ∈ additionalSANs := by
  simp [sanSet]

/-- The text form of an address is read back as an address. -/
theorem parseIP_text (ip : IP) : ∃ read, parseIP (String.ofList ip.text) = some read := by
  unfold parseIP
  split
  · exact ⟨_, rfl⟩
  · rw [String.toList_ofList, parseIPText_text]
    exact ⟨_, rfl⟩

/-- A name that reads, up to case, like the text of an address is an address. -/
theorem parseIP_of_lower_eq {ip : IP}
    (same : toLower u s = toLower u (String.ofList ip.text)) : ∃ read, parseIP s = some read := by
  have texts : s.toList.map u.lower = ip.text.map u.lower := by
    have lists := congrArg String.toList same
    simpa [toLower_toList] using lists
  have parsed := parseIPText_lower u s.toList
  rw [texts, parseIPText_lower, parseIPText_text] at parsed
  unfold parseIP
  split
  · exact ⟨_, rfl⟩
  · rw [← parsed]
    exact ⟨_, rfl⟩

theorem isEmail_of_lower_eq {t : String} (same : toLower u s = toLower u t) :
    isEmail s = isEmail t := by
  have at' (c : Char) : u.lower c = '@' ↔ c = '@' :=
    u.lower_eq_iff (by decide) (by decide +kernel) (by decide) (by decide) c
  have folded (s : String) : '@' ∈ s.toList ↔ '@' ∈ (toLower u s).toList := by
    rw [toLower_toList]
    simp [at']
  unfold isEmail
  rw [decide_eq_decide, folded s, folded t, same]

end Certctl.Source.LocalIssuer

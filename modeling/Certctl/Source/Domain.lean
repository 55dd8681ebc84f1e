import Certctl.Lib.IPText

/-!
Records shared by the certificate services: profiles, managed certificates and
their versions, and the parsed certificate signing request. Fields that no
modelled function reads are left out.

Source: internal/domain/certificate.go, profile.go; internal/service/renewal.go.
-/
namespace Certctl.Source

open Lib (IP)

/-- Nanoseconds: a duration, or an instant counted from the zero time. -/
abbrev Time := Int

structure CertificateProfile where
  id : String
  maxTTLSeconds : Int
  allowedEKUs : List String
  allowShortLived : Bool
  mustStaple : Bool
  acmeAuthMode : String
  deriving DecidableEq

def CertificateProfile.isShortLived (p : CertificateProfile) : Bool :=
  p.allowShortLived && decide (p.maxTTLSeconds > 0) && decide (p.maxTTLSeconds < 3600)

def defaultEKUs : List String := ["serverAuth"]

inductive CertificateStatus where
  | pending | active | expiring | expired | renewalInProgress | failed | revoked | archived
  deriving DecidableEq

inductive CertificateSource where
  | unspecified | est | scep | api | agent | acme
  deriving DecidableEq

structure ManagedCertificate where
  id : String
  name : String
  commonName : String
  sans : List String
  issuerID : String
  certificateProfileID : String
  status : CertificateStatus
  expiresAt : Time
  revokedAt : Option Time
  revocationReason : String
  source : CertificateSource
  updatedAt : Time
  deriving DecidableEq

structure CertificateVersion where
  id : String
  certificateID : String
  serialNumber : String
  notBefore : Time
  notAfter : Time
  fingerprintSHA256 : String
  pemChain : String
  csrPEM : String
  createdAt : Time
  deriving DecidableEq

/-- The fields of a parsed PKCS#10 request that the services look at. -/
structure CertificateRequest where
  commonName : String
  dnsNames : List String
  ipAddresses : List IP
  emailAddresses : List String

/-- What an issuer connector returns for an accepted request. -/
structure Issuance where
  serial : String
  notBefore : Time
  notAfter : Time
  certPEM : String
  chainPEM : String
  deriving DecidableEq

end Certctl.Source

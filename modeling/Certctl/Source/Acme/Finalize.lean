import Certctl.Source.Acme.Service

/-!
`FinalizeOrder`, cut at its repository and transaction boundaries, and
`LookupCertificate`. The entry covers the checks up to the first write. Each later
write is the row image computed from the copy of the order the call holds in
memory since its only read.

Source: internal/service/acme_orders.go, certificate.go.
-/
namespace Certctl.Source.Acme

open Lib

/-- Where the checks before the first write lead. -/
inductive FinalizeEntry where
  /-- the branch for an order that already has its certificate -/
  | settled (order : Order) (certID : String)
  /-- the request's names differ from the order's; the order is to be marked -/
  | mismatch (order : Order) (problem : Problem)
  | proceed (order : Order) (profile : CertificateProfile)

def finalizeEntry (env : Env) (st : Store) (accountID orderID profileID : String)
    (csr : CertificateRequest) : Except AcmeError FinalizeEntry := do
  ensure (env.certService ∧ env.certRepo ∧ env.issuerRegistry) .finalizeUnconfigured
  ensure (env.tx ∧ env.auditService)
    (.unwired "acme: finalize requires SetTransactor + SetAuditService")
  let order ← lookupOrder st orderID accountID
  ensure (¬ (order.status ≠ .ready ∧ order.status ≠ .processing)) (.orderNotReady order.status)
  -- the source tests for a finished order only behind the status guard
  if order.status = .valid ∧ order.certificateID ≠ "" then
    return .settled order order.certificateID
  else
    match csrMatchesIdentifiers env.unicode csr order.identifiers with
    | some problem => return .mismatch order problem
    | none =>
      let profile ← boundProfile env profileID
      return .proceed order profile

/-- The row image after a name mismatch. -/
def mismatchWrite (order : Order) (problem : Problem) : Order :=
  { order with status := .invalid, error := some problem }

/-- The row image of Step A. -/
def processingWrite (order : Order) : Order := { order with status := .processing }

/-- The row image after the issuer refused. -/
def rejectedWrite (order : Order) : Order :=
  { order with
    status := .invalid
    error := some ⟨"urn:ietf:params:acme:error:serverInternal", "issuer rejected the CSR", 500⟩ }

/-- The row image of Step C. -/
def validWrite (order : Order) (csrPEM certID : String) : Order :=
  { order with status := .valid, csrPEM, certificateID := certID, error := none }

/-- The arguments of `IssueCertificate`. -/
structure IssueRequest where
  commonName : String
  sans : List String
  csrPEM : String
  ekus : List String
  maxTTLSeconds : Int
  mustStaple : Bool

def finalizeCommonName (order : Order) (csr : CertificateRequest) : String :=
  if csr.commonName = "" then (order.identifiers.head?.map Identifier.value).getD ""
  else csr.commonName

def issueRequest (order : Order) (profile : CertificateProfile) (csr : CertificateRequest)
    (csrPEM : String) : IssueRequest :=
  { commonName := finalizeCommonName order csr
    sans := dnsValues order.identifiers
    csrPEM
    ekus := if profile.allowedEKUs = [] then defaultEKUs else profile.allowedEKUs
    maxTTLSeconds := profile.maxTTLSeconds
    mustStaple := profile.mustStaple }

def certificateRow (now : Time) (order : Order) (profile : CertificateProfile)
    (csr : CertificateRequest) (issuerID suffix : String) (issuance : Issuance) :
    ManagedCertificate :=
  { id := "mc-acme-" ++ suffix
    name := "acme-" ++ order.orderID
    commonName := finalizeCommonName order csr
    sans := dnsValues order.identifiers
    issuerID
    certificateProfileID := profile.id
    status := .active
    expiresAt := issuance.notAfter
    revokedAt := none
    revocationReason := ""
    source := .acme
    updatedAt := now }

/-- The fields `CertificateService.Create` requires before it writes. -/
def createCertificate (inv : Inventory) (cert : ManagedCertificate) : Option Inventory :=
  if cert.id = "" ∨ cert.commonName = "" ∨ cert.issuerID = "" then none else inv.create cert

/-- `created_at` and the fingerprint stay at their zero values. -/
def versionRow (id certID csrPEM : String) (issuance : Issuance) : CertificateVersion :=
  { id
    certificateID := certID
    serialNumber := issuance.serial
    notBefore := issuance.notBefore
    notAfter := issuance.notAfter
    fingerprintSHA256 := ""
    pemChain := issuance.certPEM ++ issuance.chainPEM
    csrPEM
    createdAt := 0 }

/-- The ownership test of `LookupCertificate` accepts every account. -/
def accountOwnsACMECert (_accountID _certID : String) : Bool := true

def lookupCertificate (env : Env) (st : Store) (certID accountID : String) :
    Except AcmeError String := do
  ensure env.certRepo .finalizeUnconfigured
  let cert ← orFail (st.inventory.get certID) .certificateNotFound
  ensure (cert.source = .acme) .certificateNotFound
  ensure (accountOwnsACMECert accountID certID) .orderUnauthorized
  let version ← orFail (st.inventory.getLatestVersion certID) .latestVersion
  return version.pemChain

theorem createCertificate_spec {inv inv' : Inventory} {cert : ManagedCertificate}
    (created : createCertificate inv cert = some inv') :
    inv.Extends inv' ∧ inv'.get cert.id = some cert := by
  obtain ⟨-, created⟩ := of_else created nofun
  exact Inventory.create_spec created

variable {orderID accountID : String} {st : Store}

theorem lookupOrder_eq_ok {order : Order} :
    lookupOrder st orderID accountID = .ok order ↔
      st.orders.get? orderID = some order ∧ order.accountID = accountID := by
  simp only [lookupOrder, bind_eq_ok, orFail_eq_ok, ensure_eq_ok, pure, Except.pure,
    Except.ok.injEq, exists_const]
  constructor
  · rintro ⟨row, found, owner, rfl⟩
    exact ⟨found, owner⟩
  · rintro ⟨found, owner⟩
    exact ⟨order, found, owner, rfl⟩

/-- Inversion of the entry: whatever it accepts, it has read an order of the
caller in status `ready` or `processing`. -/
theorem finalizeEntry_ok {env : Env} {profileID : String}
    {csr : CertificateRequest} {entry : FinalizeEntry}
    (entered : finalizeEntry env st accountID orderID profileID csr = .ok entry) :
    ∃ order, st.orders.get? orderID = some order ∧ order.accountID = accountID ∧
      (order.status = .ready ∨ order.status = .processing) ∧
      ((∃ problem, csrMatchesIdentifiers env.unicode csr order.identifiers = some problem ∧
          entry = .mismatch order problem) ∨
        (∃ profile, csrMatchesIdentifiers env.unicode csr order.identifiers = none ∧
          boundProfile env profileID = .ok profile ∧ entry = .proceed order profile)) := by
  simp only [finalizeEntry, bind_eq_ok, ensure_eq_ok, exists_const] at entered
  obtain ⟨_, _, order, found, admitted, rest⟩ := entered
  obtain ⟨row, owner⟩ := lookupOrder_eq_ok.mp found
  have status : order.status = .ready ∨ order.status = .processing := by
    by_cases ready : order.status = .ready
    · exact .inl ready
    · exact .inr (by
        by_contra other
        exact admitted ⟨ready, other⟩)
  refine ⟨order, row, owner, status, ?_⟩
  have unfinished : ¬ (order.status = .valid ∧ order.certificateID ≠ "") := by
    rintro ⟨valid, _⟩
    rcases status with h | h <;> simp [h] at valid
  rw [if_neg unfinished] at rest
  cases compared : csrMatchesIdentifiers env.unicode csr order.identifiers with
  | some problem =>
    rw [compared] at rest
    exact .inl ⟨problem, rfl, (Except.ok.inj rest).symm⟩
  | none =>
    rw [compared] at rest
    obtain ⟨profile, bound, result⟩ := bind_eq_ok.mp rest
    exact .inr ⟨profile, rfl, bound, (Except.ok.inj result).symm⟩

end Certctl.Source.Acme

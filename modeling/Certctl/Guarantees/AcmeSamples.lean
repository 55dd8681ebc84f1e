import Certctl.Source.Acme.System

/-!
A fully wired ACME server with one profile of each mode, and the requests of the runs at
which its guarantees are instantiated.
-/
namespace Certctl.Source.Acme

open Lib

def sampleProfile (id mode : String) : CertificateProfile :=
  { id
    maxTTLSeconds := 86400
    allowedEKUs := []
    allowShortLived := false
    mustStaple := false
    acmeAuthMode := mode }

def sampleEnv : Env where
  unicode := .basic
  cfg := ⟨"", "", 0, 0, 0, 0, 0⟩
  profiles := ⟨[sampleProfile "internal" "trust_authenticated", sampleProfile "public" "challenge"],
    by decide⟩
  issuers := ["iss-local"]
  tx := true
  auditService := true
  certService := true
  certRepo := true
  issuerRegistry := true
  validatorPool := true
  rateLimiter := false

def sampleStart : Sys := ⟨0, .initial .empty, [], []⟩

def sampleAccount (profileID thumbprint : String) : NewAccountRequest :=
  ⟨profileID, "jwk-" ++ thumbprint, thumbprint, [], false⟩

/-- A request of the account with this key, sent to the profile's endpoint. -/
def sampleRequest (profileID thumbprint : String) : SignedRequest :=
  { base := "https://ca.example"
    profileID
    kid := accountKID "https://ca.example" profileID (accountIDOf thumbprint)
    signerPEM := "jwk-" ++ thumbprint }

def sampleNames (names : List String) : NewOrderRequest :=
  ⟨names.map (fun name => ⟨"dns", name⟩), none, none⟩

/-- Suffixes `suffix1`, `suffix2`, ... for the rows of an order. -/
def sampleDraw (suffix : String) (width : Nat) : NewOrderDraw :=
  { allowed := true
    activeOrders := some 0
    order := suffix
    identifiers := (List.range width).map (fun n =>
      ⟨suffix ++ toString (n + 1), suffix ++ toString (n + 1), "tok"⟩) }

def sampleCSR (names : List String) : CertificateRequest := ⟨"", names, [], []⟩

def sampleIssuance : Issuance := ⟨"0a", 0, 86400, "leaf", "chain"⟩

/-- The account `a` of a profile, and its order for one name. -/
def sampleOrder (profileID name : String) : List Action :=
  [.newAccount (sampleAccount profileID "a"),
    .newOrder (sampleRequest profileID "a") (sampleNames [name]) (sampleDraw "1" 1)]

def sampleFinalize (profileID name : String) : Action :=
  .finalize (sampleRequest profileID "a") "acme-ord-1" (sampleCSR [name]) "pem"

theorem sampleStart_initial : Initial sampleStart := ⟨⟨.empty, rfl⟩, rfl, rfl⟩

end Certctl.Source.Acme

import Certctl.Source.Acme.Jws
import Certctl.Source.Acme.Revoke

/-!
The verifier every ACME endpoint starts with, in the two parts that lie before and behind
the consumption of the nonce, and the nonce table. Parsing is the library's, so a body is
what it parses to; a signature verifies under exactly the key it was made with, and a key
stands for its thumbprint.

Source: internal/api/acme/jws.go; internal/repository/postgres/acme.go;
internal/api/handler/acme.go; internal/service/acme.go, acme_nonces.go.
-/
namespace Certctl.Source.Acme

open Lib

/-- A value of a decoded protected header; a JSON null is present but no string. -/
inductive HeaderValue where
  | null
  | text (s : String)
  | other (shown : String)
  deriving DecidableEq

structure JsonWebKey where
  key : JWK
  valid : Bool
  deriving DecidableEq

/-- One signature with its protected header. -/
structure JwsSignature where
  algorithm : String
  typ : Option HeaderValue
  url : Option HeaderValue
  nonce : String
  keyID : String
  jwk : Option JsonWebKey
  deriving DecidableEq

structure Jws where
  signatures : List JwsSignature
  payload : List UInt8
  signedBy : Option JWK
  deriving DecidableEq

inductive JwsError where
  | malformed (detail : String)
  | algorithmRejected (algorithm : String)
  | wrongType (got : String)
  | missingURL
  | urlMismatch (header request : String)
  | missingNonce
  | badNonce (cause : String)
  | bothKidAndJWK
  | neitherKidNorJWK
  | expectJWKGotKid
  | expectKidGotJWK
  | accountNotFound
  | lookupAccount (cause : String)
  | accountInactive (status : AccountStatus)
  | invalidJWK (detail : String)
  | signatureInvalid (cause : String)
  | payloadMismatch
  deriving DecidableEq

def AccountStatus.text : AccountStatus → String
  | .valid => "valid"
  | .deactivated => "deactivated"
  | .revoked => "revoked"

def JwsError.message : JwsError → String
  | .malformed detail => "acme jws: malformed: " ++ detail
  | .algorithmRejected algorithm =>
    "acme jws: signature algorithm not in \x7bRS256, ES256, EdDSA\x7d: " ++ algorithm
  | .wrongType got =>
    "acme jws: protected header `typ` must be `application/jose+json` or absent: got " ++ got
  | .missingURL => "acme jws: protected header `url` is required"
  | .urlMismatch header request =>
    "acme jws: protected header `url` does not match request URL: header=" ++ quote header ++
      " request=" ++ quote request
  | .missingNonce => "acme jws: protected header `nonce` is required"
  | .badNonce cause => "acme jws: nonce missing, replayed, or expired: " ++ cause
  | .bothKidAndJWK => "acme jws: protected header MUST contain exactly one of `kid` or `jwk`"
  | .neitherKidNorJWK => "acme jws: protected header MUST contain exactly one of `kid` or `jwk`"
  | .expectJWKGotKid => "acme jws: this endpoint requires `jwk` (new account); got `kid`"
  | .expectKidGotJWK => "acme jws: this endpoint requires `kid` (registered account); got `jwk`"
  | .accountNotFound => "acme jws: kid points at unknown account"
  | .lookupAccount cause => "acme: lookup account: " ++ cause
  | .accountInactive status => "acme jws: account status is not `valid`: status=" ++ status.text
  | .invalidJWK detail => "acme jws: embedded JWK is invalid" ++ detail
  | .signatureInvalid cause => "acme jws: signature did not verify: " ++ cause
  | .payloadMismatch => "acme jws: post-verify payload differs from pre-verify payload"

def allowedSignatureAlgorithms : List String := ["RS256", "ES256", "EdDSA"]

/-- `jose.ParseSigned` with the allow-list. -/
def parseSigned (body : Except String Jws) : Except String Jws := do
  let jws ← body
  ensure (∀ sig ∈ jws.signatures, sig.algorithm ∈ allowedSignatureAlgorithms)
    "go-jose/go-jose: unexpected signature algorithm"
  return jws

/-- `jws.Verify`. -/
def Jws.verify (jws : Jws) (key : JWK) : Except String (List UInt8) :=
  if jws.signedBy = some key then .ok jws.payload
  else .error "go-jose/go-jose: error in cryptographic primitive"

/-- An absent or null `typ`, an empty one and the registered one pass. -/
def checkType : Option HeaderValue → Except JwsError Unit
  | none => .ok ()
  | some .null => .ok ()
  | some (.text typ) => ensure (typ = "application/jose+json" ∨ typ = "") (.wrongType (quote typ))
  | some (.other shown) => .error (.wrongType shown)

def checkURL (requestURL : String) : Option HeaderValue → Except JwsError Unit
  | some (.text url) => do
    ensure (url ≠ "") .missingURL
    ensure (url = requestURL) (.urlMismatch url requestURL)
  | _ => .error .missingURL

/-- What is checked before the nonce is consumed. -/
def checkHeader (body : Except String Jws) (requestURL : String) :
    Except JwsError (Jws × JwsSignature) := do
  let jws ← (parseSigned body).mapError .malformed
  match jws.signatures with
  | [sig] =>
    ensure (sig.algorithm ∈ allowedSignatureAlgorithms) (.algorithmRejected sig.algorithm)
    checkType sig.typ
    checkURL requestURL sig.url
    ensure (sig.nonce ≠ "") .missingNonce
    return (jws, sig)
  | _ => .error (.malformed "multi-signature JWS rejected")

/-- A request as the handler sees it. -/
structure Inbound where
  base : String
  path : String
  profileID : String
  body : Except String Jws
  deriving DecidableEq

def Inbound.requestURL (r : Inbound) : String := r.base ++ r.path

/-- Exactly one of the two headers, and the one the endpoint wants. -/
def checkKeyPolicy (expectNewAccount : Bool) (sig : JwsSignature) : Except JwsError Unit := do
  let hasKid := decide (sig.keyID ≠ "")
  let hasJWK := sig.jwk.isSome
  ensure (¬ (hasKid ∧ hasJWK)) .bothKidAndJWK
  ensure (hasKid ∨ hasJWK) .neitherKidNorJWK
  ensure (¬ (expectNewAccount ∧ hasKid)) .expectJWKGotKid
  ensure (¬ (!expectNewAccount ∧ hasJWK)) .expectKidGotJWK

deriving instance DecidableEq for VerifiedRequest

/-- The result of the verifier. -/
structure VerifiedEnvelope where
  payload : List UInt8
  algorithm : String
  url : String
  nonce : String
  key : VerifiedRequest
  deriving DecidableEq

def kidError : AcmeError → JwsError
  | .jwsMalformed detail => .malformed detail
  | _ => .malformed ""

/-- The account of a `kid`; `fault` is a failure of the lookup. -/
def accountOfKID (accounts : Table Account.accountID) (fault : Option String) (r : Inbound)
    (kid : String) : Except JwsError Account := do
  let accountID ← (accountIDFromKID kid r.base r.profileID).mapError kidError
  attempt fault .lookupAccount
  let account ← orFail (accounts.get? accountID) .accountNotFound
  ensure (account.status = .valid) (.accountInactive account.status)
  return account

/-- The key to verify with, and what it authenticates; `storedKey` reads the PEM column of
an account. -/
def resolveKey (storedKey : String → Except String JsonWebKey)
    (accounts : Table Account.accountID) (fault : Option String) (r : Inbound)
    (sig : JwsSignature) : Except JwsError (JWK × VerifiedRequest) :=
  match sig.jwk with
  | none => do
    let account ← accountOfKID accounts fault r sig.keyID
    let stored ← (storedKey account.jwkPEM).mapError (fun e => .invalidJWK (": " ++ e))
    return (stored.key, ⟨some account, none⟩)
  | some jwk => do
    ensure jwk.valid (.invalidJWK "")
    return (jwk.key, ⟨none, some jwk.key⟩)

/-- What follows the consumption of the nonce. -/
def checkKey (storedKey : String → Except String JsonWebKey) (accounts : Table Account.accountID)
    (fault : Option String) (r : Inbound) (expectNewAccount : Bool) (jws : Jws)
    (sig : JwsSignature) : Except JwsError VerifiedEnvelope := do
  checkKeyPolicy expectNewAccount sig
  let (key, authenticated) ← resolveKey storedKey accounts fault r sig
  let verified ← (jws.verify key).mapError .signatureInvalid
  ensure (verified = jws.payload) .payloadMismatch
  return ⟨verified, sig.algorithm, r.requestURL, sig.nonce, authenticated⟩

/-- The header checks fail with none of the errors revoke-cert reacts to. -/
theorem checkHeader_error {body : Except String Jws} {requestURL : String} {e : JwsError}
    (failed : checkHeader body requestURL = .error e) :
    e ≠ .expectKidGotJWK ∧ e ≠ .accountNotFound := by
  rcases bind_eq_error.mp failed with unparsed | ⟨jws, -, failed⟩
  · cases parsed : parseSigned body with
    | error cause =>
      rw [parsed] at unparsed
      cases unparsed
      simp
    | ok jws =>
      rw [parsed] at unparsed
      cases unparsed
  split at failed
  next sig _ =>
    rcases bind_eq_error.mp failed with algorithm | ⟨-, -, failed⟩
    · simp [eq_of_ensure_eq_error algorithm]
    rcases bind_eq_error.mp failed with typ | ⟨-, -, failed⟩
    · unfold checkType at typ
      split at typ
      · cases typ
      · cases typ
      · simp [eq_of_ensure_eq_error typ]
      · cases typ
        simp
    rcases bind_eq_error.mp failed with url | ⟨-, -, failed⟩
    · unfold checkURL at url
      split at url
      · rcases bind_eq_error.mp url with empty | ⟨-, -, other⟩
        · simp [eq_of_ensure_eq_error empty]
        · simp [eq_of_ensure_eq_error other]
      · cases url
        simp
    rcases bind_eq_error.mp failed with nonce | ⟨-, -, failed⟩
    · simp [eq_of_ensure_eq_error nonce]
    · cases failed
  · cases failed
    simp

structure NonceRow where
  nonce : String
  issuedAt : Time
  expiresAt : Time
  used : Bool

abbrev Nonces := Table NonceRow.nonce

namespace Nonces

/-- `none` is the key violation. -/
def issue (t : Nonces) (now clock ttl : Time) (nonce : String) : Option Nonces :=
  t.insert ⟨nonce, now, clock + ttl, false⟩

def redeemable (now : Time) (nonce : String) (r : NonceRow) : Bool :=
  decide (r.nonce = nonce) && !r.used && decide (r.expiresAt > now)

/-- The single update, and whether it met a row. -/
def consume (t : Nonces) (now : Time) (nonce : String) : Nonces × Bool :=
  (t.updateWhere (redeemable now nonce) (fun r => { r with used := true }) (fun _ => rfl),
    t.rows.any (redeemable now nonce))

def gcExpired (t : Nonces) (now : Time) : Nonces :=
  t.deleteWhere (fun r => r.used || decide (r.expiresAt < now))

/-- There is a row of the nonce that has not been used. -/
def unused (t : Nonces) (nonce : String) : Bool := (t.get? nonce).any (fun r => !r.used)

variable {nonce n : String} {now : Time} {t : Nonces}

theorem unused_issue {t' : Nonces} {clock ttl : Time}
    (issued : t.issue now clock ttl nonce = some t') (n : String) :
    t'.unused n = if n = nonce then true else t.unused n := by
  unfold unused
  rw [Table.get?_insert issued]
  split <;> rfl

theorem unused_gcExpired (stays : (t.gcExpired now).unused n = true) : t.unused n = true := by
  unfold unused gcExpired at *
  rw [Table.get?_deleteWhere] at stays
  cases found : t.get? n with
  | none =>
    rw [found] at stays
    cases stays
  | some r =>
    rw [found, Option.filter_some] at stays
    split at stays
    · exact stays
    · cases stays

theorem unused_consume (stays : (t.consume now nonce).1.unused n = true) : t.unused n = true := by
  unfold unused consume at *
  rw [Table.get?_updateWhere] at stays
  cases found : t.get? n with
  | none =>
    rw [found] at stays
    cases stays
  | some r =>
    rw [found] at stays
    simp only [Option.map_some, Option.any_some] at stays ⊢
    split at stays
    · cases stays
    · exact stays

/-- An update that meets a row meets an unused one and uses it up. -/
theorem consume_met (met : (t.consume now nonce).2 = true) :
    t.unused nonce = true ∧ (t.consume now nonce).1.unused nonce = false := by
  obtain ⟨r, member, fits⟩ := List.any_eq_true.mp met
  have found : r.nonce = nonce ∧ r.used = false := by
    simp only [redeemable, Bool.and_eq_true, decide_eq_true_eq, Bool.not_eq_true'] at fits
    exact fits.1
  have row : t.get? nonce = some r := Table.get?_eq_some_iff.mpr ⟨member, found.1⟩
  unfold unused consume
  rw [Table.get?_updateWhere, row]
  simp [fits, found.2]

end Nonces

end Certctl.Source.Acme

import Mathlib.Data.List.Sort
import Mathlib.Data.List.DropRight
import Certctl.Lib.Result
import Certctl.Source.Domain

/-!
Signed Intune challenges: the compact serialization, the signature against the trust
anchors, the version dispatch, the time and audience checks, and the match of the claim
with the certificate request. Base64, JSON, the signature primitives, PKCS#10, the case
table of Unicode and the rendering of times are those of the standard library and come in
as one record.

Source: internal/scep/intune/challenge.go, claim.go; internal/service/scep.go.
-/
namespace Certctl.Source.Scep

open Lib

abbrev Bytes := List UInt8

/-- The wire form of a version 1 payload; absent numbers are zero. -/
structure ChallengePayloadV1 where
  issuer : String
  subject : String
  audience : String
  issuedAt : Int
  expiresAt : Int
  nonce : String
  deviceName : String
  sanDNS : List String
  sanRFC822 : List String
  sanUPN : List String

structure ChallengeClaim where
  issuer : String
  subject : String
  audience : String
  issuedAt : Time
  expiresAt : Time
  nonce : String
  deviceName : String
  sanDNS : List String
  sanRFC822 : List String
  sanUPN : List String
  deriving DecidableEq

inductive PublicKey (κ : Type) where
  | rsa (key : κ)
  | ecdsa (key : κ)
  | other

/-- What the challenge code takes from the standard library. The verifiers hash the
signing input themselves. -/
structure Codec (κ : Type) where
  base64url : String → Except String Bytes
  jsonObject : Bytes → Except String Unit
  headerAlg : Bytes → Except String String
  payloadVersion : Bytes → Except String String
  payloadV1 : Bytes → Except String ChallengePayloadV1
  rsaVerify : κ → String → Bytes → Bool
  ecdsaVerify : κ → String → Bytes → Bytes → Bool
  ecdsaVerifyASN1 : κ → String → Bytes → Bool
  parseCSR : String → Except String CertificateRequest
  unicode : UnicodeCase
  rfc3339 : Time → String

inductive ChallengeError where
  | malformed | signature | expired | notYetValid | wrongAudience | replay | unknownVersion

def ChallengeError.message : ChallengeError → String
  | .malformed => "intune: challenge is not in the JWT-like compact-serialization format"
  | .signature => "intune: challenge signature does not verify against any configured trust anchor"
  | .expired => "intune: challenge expired"
  | .notYetValid => "intune: challenge not yet valid (iat in future, possible clock skew)"
  | .wrongAudience => "intune: challenge audience does not match this SCEP endpoint URL"
  | .replay => "intune: challenge nonce already seen (replay attempt)"
  | .unknownVersion =>
    "intune: challenge has an unknown version claim — parser does not support this format"

inductive ClaimError where
  | cn | sanDNS | sanRFC822 | sanUPN

def ClaimError.message : ClaimError → String
  | .cn => "intune claim: device_name does not match CSR CommonName"
  | .sanDNS => "intune claim: SAN DNS set does not match CSR"
  | .sanRFC822 => "intune claim: SAN RFC822 (email) set does not match CSR"
  | .sanUPN => "intune claim: SAN UPN (userPrincipalName) set does not match CSR"

/-- A typed error with the text wrapped around it. -/
inductive IntuneError where
  | challenge (kind : ChallengeError) (detail : String)
  | claim (kind : ClaimError) (detail : String)
  | rateLimited
  | compliance (text : String)

def malformed (detail : String) : IntuneError := .challenge .malformed detail

/-- The instant of a Unix time; the seconds since the zero time are a 64-bit integer. -/
def unixTime (seconds : Int) : Time :=
  Int.bmod (seconds + 62135596800) (2 ^ 64) * 1000000000

def maxDuration : Time := 2 ^ 63 - 1

def minDuration : Time := -(2 ^ 63)

/-- The difference of two instants, saturating. -/
def timeSub (t u : Time) : Time := max minDuration (min maxDuration (t - u))

/-- The least duration is its own negative. -/
def negateDuration (d : Time) : Time := if d = minDuration then d else -d

theorem add_negateDuration {d : Time} (nonnegative : 0 ≤ d) (t : Time) :
    t + negateDuration d = t - d := by
  have other : d ≠ minDuration := by
    rintro rfl
    revert nonnegative
    decide
  rw [negateDuration, if_neg other, Int.sub_eq_add_neg]

/-- Trailing padding is tolerated. -/
def b64urlDecode {κ : Type} (codec : Codec κ) (s : String) : Except String Bytes :=
  codec.base64url (String.ofList (s.toList.rdropWhile (· = '=')))

/-- The dot-separated segments of the serialization, as they stand on the wire. -/
def segments (raw : String) : List String := (raw.toList.splitOn '.').map String.ofList

structure Challenge where
  header : Bytes
  payload : Bytes
  signature : Bytes

section Pipeline

variable {κ : Type} (codec : Codec κ)

def parseChallenge (raw : String) : Except IntuneError Challenge := do
  ensure (raw ≠ "") (malformed ": empty input")
  match segments raw with
  | [s0, s1, s2] =>
    ensure (s0 ≠ "") (malformed ": segment 0 is empty")
    ensure (s1 ≠ "") (malformed ": segment 1 is empty")
    ensure (s2 ≠ "") (malformed ": segment 2 is empty")
    let header ← (b64urlDecode codec s0).mapError (fun e => malformed (": header base64url: " ++ e))
    let payload ←
      (b64urlDecode codec s1).mapError (fun e => malformed (": payload base64url: " ++ e))
    let signature ←
      (b64urlDecode codec s2).mapError (fun e => malformed (": signature base64url: " ++ e))
    (codec.jsonObject header).mapError (fun e => malformed (": header is not JSON: " ++ e))
    return ⟨header, payload, signature⟩
  | parts =>
    .error (malformed (": expected 3 dot-separated segments, got " ++ toString parts.length))

/-- What the signature is over: the first two segments in their encoded form. -/
def signingInput (raw : String) : String :=
  match segments raw with
  | [s0, s1, _] => s0 ++ "." ++ s1
  | _ => ""

def verifyRS256 (input : String) (signature : Bytes) (trust : List (PublicKey κ)) : Bool :=
  trust.any (fun cert => match cert with
    | .rsa key => codec.rsaVerify key input signature
    | _ => false)

/-- The fixed-width form first, then the ASN.1 form. -/
def verifyES256 (input : String) (signature : Bytes) (trust : List (PublicKey κ)) : Bool :=
  trust.any (fun cert => match cert with
    | .ecdsa key =>
      (decide (signature.length = 64) &&
        codec.ecdsaVerify key input (signature.take 32) (signature.drop 32)) ||
      codec.ecdsaVerifyASN1 key input signature
    | _ => false)

def verifyChallengeSignature (alg input : String) (signature : Bytes)
    (trust : List (PublicKey κ)) : Except IntuneError Unit :=
  if alg = "RS256" then
    ensure (verifyRS256 codec input signature trust = true) (.challenge .signature "")
  else if alg = "ES256" then
    ensure (verifyES256 codec input signature trust = true) (.challenge .signature "")
  else if alg = "" then
    .error (.challenge .signature ": missing alg header (RFC 7515 §4.1.1 mandates)")
  else if alg = "none" then
    .error (.challenge .signature ": alg \"none\" rejected (RFC 7515 §3.6 attack)")
  else .error (.challenge .signature
    (": unsupported alg " ++ quote alg ++ " (only RS256 and ES256 are accepted)"))

def ChallengePayloadV1.claim (p : ChallengePayloadV1) : ChallengeClaim where
  issuer := p.issuer
  subject := p.subject
  audience := p.audience
  issuedAt := if p.issuedAt > 0 then unixTime p.issuedAt else 0
  expiresAt := if p.expiresAt > 0 then unixTime p.expiresAt else 0
  nonce := p.nonce
  deviceName := p.deviceName
  sanDNS := p.sanDNS
  sanRFC822 := p.sanRFC822
  sanUPN := p.sanUPN

/-- The version dispatch: no version and `v1` share one unmarshaler. -/
def unmarshalClaim (payload : Bytes) : Except IntuneError ChallengeClaim := do
  let version ←
    (codec.payloadVersion payload).mapError (fun e => malformed (": prelude unmarshal: " ++ e))
  ensure (version = "" ∨ version = "v1") (.challenge .unknownVersion (": " ++ quote version))
  let p ← (codec.payloadV1 payload).mapError (fun e => malformed (": v1 payload unmarshal: " ++ e))
  return p.claim

structure ValidateOptions (κ : Type) where
  trust : List (PublicKey κ)
  expectedAudience : String
  now : Time
  clockSkewTolerance : Time

/-- A negative tolerance counts by its absolute value. -/
def ValidateOptions.tolerance {κ : Type} (opts : ValidateOptions κ) : Time :=
  if opts.clockSkewTolerance < 0 then negateDuration opts.clockSkewTolerance
  else opts.clockSkewTolerance

def checkTimes (opts : ValidateOptions κ) (claim : ChallengeClaim) : Except IntuneError Unit := do
  let bounds := " now=" ++ codec.rfc3339 opts.now ++ " tolerance=" ++ durationText opts.tolerance
  ensure (¬ (claim.issuedAt ≠ 0 ∧ opts.now + opts.tolerance < claim.issuedAt))
    (.challenge .notYetValid (": iat=" ++ codec.rfc3339 claim.issuedAt ++ bounds))
  ensure (¬ (claim.expiresAt ≠ 0 ∧ ¬ opts.now + negateDuration opts.tolerance < claim.expiresAt))
    (.challenge .expired (": exp=" ++ codec.rfc3339 claim.expiresAt ++ bounds))

/-- An empty audience on either side disables the check. -/
def checkAudience (opts : ValidateOptions κ) (claim : ChallengeClaim) : Except IntuneError Unit :=
  ensure (¬ (opts.expectedAudience ≠ "" ∧ claim.audience ≠ "" ∧
      claim.audience ≠ opts.expectedAudience))
    (.challenge .wrongAudience
      (": claim=" ++ quote claim.audience ++ " expected=" ++ quote opts.expectedAudience))

def validateChallenge (raw : String) (opts : ValidateOptions κ) :
    Except IntuneError ChallengeClaim := do
  ensure (opts.trust.length ≠ 0) (.challenge .signature ": no trust anchors configured")
  let c ← parseChallenge codec raw
  let alg ← (codec.headerAlg c.header).mapError (fun e => malformed (": header JSON: " ++ e))
  verifyChallengeSignature codec alg (signingInput raw) c.signature opts.trust
  let claim ← unmarshalClaim codec c.payload
  checkTimes codec opts claim
  checkAudience opts claim
  return claim

/-- Trimmed and lower-cased, without empty and repeated members, sorted. -/
def normaliseSet (s : List String) : List String :=
  ((s.map (fun v => toLower codec.unicode (trimSpace v))).filter (· ≠ "")).eraseDups.insertionSort
    (· ≤ ·)

/-- The `%v` verb on a list of strings. -/
def listing (s : List String) : String := "[" ++ String.intercalate " " s ++ "]"

/-- One dimension of the match; an empty claim set is no constraint. -/
def matchSet (kind : ClaimError) (want got : List String) : Except IntuneError Unit :=
  ensure (want.length = 0 ∨ normaliseSet codec got = normaliseSet codec want)
    (.claim kind (": claim=" ++ listing (normaliseSet codec want) ++
      " csr=" ++ listing (normaliseSet codec got)))

/-- The UPN names of a request are not extracted, so a claim that pins one never
matches. -/
def extractUPNSans (_csr : CertificateRequest) : List String := []

def ChallengeClaim.deviceMatchesCSR (claim : ChallengeClaim) (csr : CertificateRequest) :
    Except IntuneError Unit := do
  ensure (claim.deviceName = "" ∨ claim.deviceName = csr.commonName)
    (.claim .cn (": claim=" ++ quote claim.deviceName ++ " csr=" ++ quote csr.commonName))
  matchSet codec .sanDNS claim.sanDNS csr.dnsNames
  matchSet codec .sanRFC822 claim.sanRFC822 csr.emailAddresses
  matchSet codec .sanUPN claim.sanUPN (extractUPNSans csr)

/-- The claim a challenge carries, whether or not it is valid. -/
def carriedClaim (raw : String) : Option ChallengeClaim :=
  ((parseChallenge codec raw).bind (fun c => unmarshalClaim codec c.payload)).toOption

variable {codec}

theorem validateChallenge_ok {raw : String} {opts : ValidateOptions κ} {claim : ChallengeClaim}
    (valid : validateChallenge codec raw opts = .ok claim) :
    carriedClaim codec raw = some claim ∧
      (claim.expiresAt ≠ 0 → opts.now + negateDuration opts.tolerance < claim.expiresAt) := by
  simp only [validateChallenge, bind_eq_ok, pure, Except.pure, Except.ok.injEq] at valid
  obtain ⟨_, _, c, parsed, alg, _, _, _, read, unmarshalled, _, timely, _, _, rfl⟩ := valid
  refine ⟨?_, fun expires => ?_⟩
  · unfold carriedClaim
    rw [parsed]
    exact toOption_eq_some.mpr unmarshalled
  · simp only [checkTimes, bind_eq_ok, ensure_eq_ok] at timely
    obtain ⟨_, _, inTime⟩ := timely
    by_contra late
    exact inTime ⟨expires, late⟩

end Pipeline

/-- A challenge is dispatched here when it is long enough and has two dots. -/
def looksIntuneShaped (s : String) : Bool :=
  if s.utf8ByteSize ≤ 200 then false else s.toList.count '.' == 2

/-- The labels of the enrolment counters. -/
inductive IntuneLabel where
  | success | signatureInvalid | expired | notYetValid | wrongAudience | replay | unknownVersion
  | malformed | rateLimited | claimMismatch | complianceFailed
  deriving DecidableEq

def intuneFailReason : IntuneError → IntuneLabel
  | .challenge .signature _ => .signatureInvalid
  | .challenge .expired _ => .expired
  | .challenge .notYetValid _ => .notYetValid
  | .challenge .wrongAudience _ => .wrongAudience
  | .challenge .replay _ => .replay
  | .challenge .unknownVersion _ => .unknownVersion
  | .challenge .malformed _ => .malformed
  | .rateLimited => .rateLimited
  | .claim _ _ => .claimMismatch
  | .compliance _ => .malformed

end Certctl.Source.Scep

import Mathlib.Data.String.Basic
import Certctl.Guarantees.ChallengeSingleUse
import Certctl.Lib.Lists

/-!
Which Intune challenges are accepted. A negative tolerance widens the window where the
documentation makes it zero, and a claim without an audience passes where one is expected.
A valid challenge of at most 200 bytes is not taken for one and goes to the static
password. The match with the request is equality of the sets of names.
-/
namespace Certctl.Guarantees.IntuneAcceptance

open Lib Source Source.Scep
open ChallengeSingleUse (SoleChallenge utf8)

variable {κ : Type} {codec : Codec κ}

section Window

/-- The challenge verifies under the trust anchors, and its payload reads. -/
structure Signed (codec : Codec κ) (raw : String) (trust : List (PublicKey κ)) (version : String)
    (p : ChallengePayloadV1) : Prop where
  anchored : trust.length ≠ 0
  verified : ∃ c alg, parseChallenge codec raw = .ok c ∧ codec.headerAlg c.header = .ok alg ∧
    verifyChallengeSignature codec alg (signingInput raw) c.signature trust = .ok () ∧
    codec.payloadVersion c.payload = .ok version ∧ codec.payloadV1 c.payload = .ok p

def Known (version : String) : Prop := version = "" ∨ version = "v1"

/-- The times that are present are within these bounds. -/
def Within (claim : ChallengeClaim) (latest earliest : Time) : Prop :=
  (claim.issuedAt ≠ 0 → claim.issuedAt ≤ latest) ∧
    (claim.expiresAt ≠ 0 → earliest < claim.expiresAt)

section Options

variable (opts : ValidateOptions κ) (claim : ChallengeClaim)

/-- The window of the code. -/
def InTolerance : Prop :=
  Within claim (opts.now + opts.tolerance) (opts.now + negateDuration opts.tolerance)

def Addressed : Prop := opts.expectedAudience = "" ∨ claim.audience = opts.expectedAudience

/-- An audience is expected and the claim names none. -/
def Unaddressed : Prop := opts.expectedAudience ≠ "" ∧ claim.audience = ""

end Options

variable {opts : ValidateOptions κ} {raw version : String} {p : ChallengePayloadV1}

theorem accepted_iff (signed : Signed codec raw opts.trust version p) :
    (∃ claim, validateChallenge codec raw opts = .ok claim) ↔
      Known version ∧ InTolerance opts p.claim ∧
        (Addressed opts p.claim ∨ Unaddressed opts p.claim) := by
  obtain ⟨anchored, c, alg, parsed, header, verified, prelude, payload⟩ := signed
  have read : ∀ claim, unmarshalClaim codec c.payload = .ok claim ↔
      Known version ∧ p.claim = claim := by
    simp [unmarshalClaim, bind_eq_ok, prelude, payload, mapError_eq_ok, Known, pure, Except.pure]
  have times : checkTimes codec opts p.claim = .ok () ↔ InTolerance opts p.claim := by
    simp [checkTimes, bind_eq_ok, InTolerance, Within]
  have audience : checkAudience opts p.claim = .ok () ↔
      Addressed opts p.claim ∨ Unaddressed opts p.claim := by
    rw [checkAudience, ensure_eq_ok, Addressed, Unaddressed]
    tauto
  simp [validateChallenge, bind_eq_ok, mapError_eq_ok, parsed, header, verified, read, audience,
    times, anchored, pure, Except.pure]

/-- A challenge that only says when it expires. -/
def briefPayload : ChallengePayloadV1 := ⟨"", "", "", 0, 3700, "", "", [], [], []⟩

/-- The header names ES256, and the signature is of 64 bytes. -/
def brief : SoleChallenge where
  alg := "ES256"
  header := ("eyJhbGciOiJFUzI1NiJ9", "\x7b\"alg\":\"ES256\"\x7d")
  payload := ("eyJleHAiOjM3MDB9", "\x7b\"exp\":3700\x7d")
  signature := (String.ofList (List.replicate 86 'A'), List.replicate 64 0)
  claims := briefPayload

abbrev briefCodec : Codec Unit := brief.codec

abbrev briefChallenge : String := brief.raw

theorem briefChallenge_signed : Signed briefCodec briefChallenge [.ecdsa ()] "" briefPayload := by
  have reads : (parseChallenge briefCodec briefChallenge).toOption.any (fun c =>
      decide (c.header = utf8 brief.header.2 ∧ c.payload = utf8 brief.payload.2 ∧
        c.signature = brief.signature.2)) = true := by
    decide +kernel
  obtain ⟨c, parsed, parts⟩ := (Option.any_eq_true ..).mp reads
  obtain ⟨header, payload, signature⟩ := of_decide_eq_true parts
  have verified : verifyES256 briefCodec (signingInput briefChallenge) brief.signature.2
      [.ecdsa ()] = true := by
    decide +kernel
  refine ⟨by decide, c, "ES256", toOption_eq_some.mp parsed, ?_, ?_, ?_, ?_⟩
  · rw [header]
    rfl
  · simp [verifyChallengeSignature, signature, verified]
  · rw [payload]
    rfl
  · rw [payload]
    rfl

end Window

section Routing

variable {opts : ValidateOptions κ} {claim : ChallengeClaim}

theorem dots_of_valid {raw : String}
    (valid : validateChallenge codec raw opts = .ok claim) : raw.toList.count '.' = 2 := by
  simp only [validateChallenge, parseChallenge, bind_eq_ok] at valid
  obtain ⟨_, _, c, ⟨_, _, parsed⟩, _⟩ := valid
  have counted : (segments raw).length = raw.toList.count '.' + 1 := by
    rw [segments, List.length_map, length_splitOn]
  split at parsed
  next parts =>
    rw [parts] at counted
    exact (Nat.succ.inj counted).symm
  · cases parsed

theorem looksIntuneShaped_iff {raw : String}
    (valid : validateChallenge codec raw opts = .ok claim) :
    looksIntuneShaped raw = true ↔ 200 < raw.utf8ByteSize := by
  unfold looksIntuneShaped
  rw [dots_of_valid valid]
  split
  · simpa
  · simpa using Nat.lt_of_not_le ‹_›

/-- The later gates pass or reject. -/
theorem afterReplay_decides (s : SCEPService) (claim : ChallengeClaim) (call : DispatchCall κ)
    (now : Time) : (s.afterReplay claim call now).2 ≠ .undecided := by
  unfold SCEPService.afterReplay
  split
  · exact nofun
  · unfold SCEPService.complianceGate
    split
    · exact nofun
    · split <;> exact nofun

/-- A challenge of the right shape does not reach the static password. -/
theorem dispatch_decides {s s' : SCEPService} {call : DispatchCall κ} {now : Time}
    {outcome : EnrollOutcome} (enabled : s.intuneEnabled = true)
    (shaped : looksIntuneShaped call.challengePassword = true)
    (dispatched : s.dispatchIntuneChallenge codec call now = some (s', outcome)) :
    outcome ≠ .undecided := by
  rintro rfl
  simp only [SCEPService.dispatchIntuneChallenge, enabled, shaped, Bool.not_true, Bool.or_false,
    Bool.false_eq_true, if_false] at dispatched
  split at dispatched
  · cases dispatched
  split at dispatched
  · cases dispatched
  obtain ⟨gated, -, result⟩ := Option.map_eq_some_iff.mp dispatched
  split at result
  · exact afterReplay_decides _ _ _ _ (congrArg Prod.snd result)
  · cases result

/-- A valid challenge is taken for one exactly when it is long. -/
theorem routed_iff_long (s : SCEPService) (call : DispatchCall κ) (now : Time)
    (opts : ValidateOptions κ) {claim : ChallengeClaim} (enabled : s.intuneEnabled = true)
    (valid : validateChallenge codec call.challengePassword opts = .ok claim) :
    (looksIntuneShaped call.challengePassword = true ∧ ∀ s' outcome,
        s.dispatchIntuneChallenge codec call now = some (s', outcome) → outcome ≠ .undecided) ↔
      200 < call.challengePassword.utf8ByteSize := by
  rw [← looksIntuneShaped_iff valid]
  exact and_iff_left_of_imp fun shaped _ _ => dispatch_decides enabled shaped

def briefCall : DispatchCall Unit := ⟨some [.ecdsa ()], "", briefChallenge, none, "", []⟩

/-- Before the challenge expires. -/
theorem briefChallenge_valid : ∃ claim,
    validateChallenge briefCodec briefChallenge ⟨[.ecdsa ()], "", 0, 0⟩ = .ok claim :=
  (accepted_iff briefChallenge_signed).mpr ⟨.inl rfl, ⟨by decide, by decide⟩, .inl (.inl rfl)⟩

theorem routed_iff_long_brief :
    (looksIntuneShaped briefChallenge = true ∧ ∀ s' outcome,
        (wireIntune "" 0 0 0).dispatchIntuneChallenge briefCodec briefCall 0 = some (s', outcome) →
          outcome ≠ .undecided) ↔ 200 < briefChallenge.utf8ByteSize := by
  obtain ⟨_, valid⟩ := briefChallenge_valid
  exact routed_iff_long (wireIntune "" 0 0 0) briefCall 0 ⟨[.ecdsa ()], "", 0, 0⟩ rfl valid

/-- The brief challenge is valid and goes to the static password. -/
theorem brief_challenge_not_routed :
    (∃ claim, validateChallenge briefCodec briefChallenge ⟨[.ecdsa ()], "", 0, 0⟩ = .ok claim) ∧
      looksIntuneShaped briefChallenge = false ∧
      (wireIntune "" 0 0 0).dispatchIntuneChallenge briefCodec briefCall 0 =
        some (wireIntune "" 0 0 0, .undecided) := by
  have short : looksIntuneShaped briefChallenge = false := if_pos (by decide +kernel)
  refine ⟨briefChallenge_valid, short, ?_⟩
  rw [SCEPService.dispatchIntuneChallenge, briefCall, short]
  rfl

end Routing

section Binding

variable (codec)

/-- The name is not empty, and an entry of the list is this name in lower case and without the
white space around it; order and repetitions do not matter. -/
def Named (s : List String) (name : String) : Prop :=
  name ≠ "" ∧ ∃ entry ∈ s, toLower codec.unicode (trimSpace entry) = name

def SameNames (s t : List String) : Prop := ∀ name, Named codec s name ↔ Named codec t name

theorem mem_normaliseSet {s : List String} {name : String} :
    name ∈ normaliseSet codec s ↔ Named codec s name := by
  simp [normaliseSet, Named, and_comm]

/-- Sorted and without repetition, a list is determined by its members. -/
theorem normaliseSet_eq_iff {s t : List String} :
    normaliseSet codec s = normaliseSet codec t ↔ SameNames codec t s := by
  constructor
  · intro same name
    rw [← mem_normaliseSet, ← same, mem_normaliseSet]
  · intro same
    have distinct : ∀ s, (normaliseSet codec s).Nodup := fun s =>
      (List.perm_insertionSort _ _).nodup_iff.mpr (nodup_eraseDups _)
    have perm : (normaliseSet codec s).Perm (normaliseSet codec t) := by
      refine (List.perm_ext_iff_of_nodup (distinct s) (distinct t)).mpr fun name => ?_
      rw [mem_normaliseSet, mem_normaliseSet, same]
    exact perm.eq_of_pairwise (fun _ _ _ _ => le_antisymm) (List.pairwise_insertionSort _ _)
      (List.pairwise_insertionSort _ _)

theorem matchSet_eq_ok {kind : ClaimError} {want got : List String} {u : Unit} :
    matchSet codec kind want got = .ok u ↔ want = [] ∨ SameNames codec want got := by
  rw [matchSet, ensure_eq_ok, normaliseSet_eq_iff, List.length_eq_zero_iff]

/-- The match is equality of the sets of names in each dimension the claim constrains. -/
theorem deviceMatchesCSR_iff (claim : ChallengeClaim) (csr : CertificateRequest) :
    claim.deviceMatchesCSR codec csr = .ok () ↔
      (claim.deviceName = "" ∨ claim.deviceName = csr.commonName) ∧
      (claim.sanDNS = [] ∨ SameNames codec claim.sanDNS csr.dnsNames) ∧
      (claim.sanRFC822 = [] ∨ SameNames codec claim.sanRFC822 csr.emailAddresses) ∧
      (claim.sanUPN = [] ∨ ∀ name, ¬ Named codec claim.sanUPN name) := by
  have nothing : SameNames codec claim.sanUPN [] ↔ ∀ name, ¬ Named codec claim.sanUPN name := by
    simp [SameNames, Named]
  unfold ChallengeClaim.deviceMatchesCSR
  simp only [bind_eq_ok, ensure_eq_ok, matchSet_eq_ok, extractUPNSans, nothing, exists_const]

end Binding

end Certctl.Guarantees.IntuneAcceptance

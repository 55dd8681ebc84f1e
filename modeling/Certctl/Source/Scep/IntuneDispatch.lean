import Certctl.Source.RateLimit.SlidingWindow
import Certctl.Source.Scep.IntuneChallenge
import Certctl.Source.Scep.ReplayCache

/-!
The Intune gate of an enrolment: validation, validity cap, match with the request,
replay cache, per-device limit and compliance hook, in that order, and the service as
the server wires it. Calls come one after the other and time does not go back; sweeps
of the cache run beside them, one map operation at a time.

Source: internal/service/scep.go; internal/api/handler/scep.go;
internal/scep/intune/rate_limit.go, replay.go.
-/
namespace Certctl.Source.Scep

open Lib Source.RateLimit

def IntuneError.message : IntuneError → String
  | .challenge kind detail => kind.message ++ detail
  | .claim kind detail => kind.message ++ detail
  | .rateLimited => LimiterError.errRateLimited.message
  | .compliance text => text

/-- `CheckAndInsert` without interruption; `victim` is the entry the eviction at capacity
picks. -/
def ReplayCache.checkAndInsert (c : ReplayCache) (nonce : String) (now : Time) (victim : String) :
    Option (ReplayCache × Bool) :=
  let insert (c : ReplayCache) := (c.count victim).map (fun c => (c.store nonce now, true))
  if nonce = "" then some (c, true)
  else match c.entries.get? nonce with
    | none => insert c
    | some e => if now < e.expiry then some (c, false) else insert (c.drop nonce).uncount

abbrev IntuneCounters := IntuneLabel → Nat

def IntuneCounters.inc (counters : IntuneCounters) (label : IntuneLabel) : IntuneCounters :=
  fun l => if l = label then counters l + 1 else counters l

/-- `Allow` of the per-device limiter; an empty subject skips it. -/
def perDeviceAllow (l : SlidingWindowLimiter) (subject issuer : String) (now : Time)
    (order : List Bucket) : SlidingWindowLimiter × Option LimiterError :=
  if subject = "" then (l, none) else l.allow (subject ++ "|" ++ issuer) now order

/-- The Intune fields of the service. -/
structure SCEPService where
  intuneEnabled : Bool
  intuneAudience : String
  intuneValidity : Time
  intuneClockSkew : Time
  intuneReplayCache : Option ReplayCache
  intuneRateLimiter : Option SlidingWindowLimiter
  intuneCounters : IntuneCounters

/-- The service as the server wires it: one duration is the validity cap and the lifetime
of the replay cache's entries. -/
def wireIntune (audience : String) (challengeValidity clockSkewTolerance : Time)
    (perDeviceRateLimit24h : Int) : SCEPService where
  intuneEnabled := true
  intuneAudience := audience
  intuneValidity := challengeValidity
  intuneClockSkew := clockSkewTolerance
  intuneReplayCache := some (newReplayCache challengeValidity 0)
  intuneRateLimiter := some (newSlidingWindowLimiter perDeviceRateLimit24h (24 * hour) 0)
  intuneCounters := fun _ => 0

/-- The outcome of the gate: not an Intune challenge, passed, or rejected. -/
inductive EnrollOutcome where
  | undecided
  | passed (claim : ChallengeClaim)
  | rejected (err : IntuneError)

inductive ComplianceAnswer where
  | failed (cause : String)
  | answered (compliant : Bool) (reason : String)

/-- One call and what its surroundings answer: the trust anchors the holder has, the
compliance hook, and the orders in which the maps are visited. -/
structure DispatchCall (κ : Type) where
  trust : Option (List (PublicKey κ))
  csrPEM : String
  challengePassword : String
  complianceCheck : Option (ChallengeClaim → ComplianceAnswer)
  victim : String
  order : List Bucket

namespace SCEPService

def reject (s : SCEPService) (label : IntuneLabel) (err : IntuneError) :
    SCEPService × EnrollOutcome :=
  ({ s with intuneCounters := s.intuneCounters.inc label }, .rejected err)

def accept (s : SCEPService) (claim : ChallengeClaim) : SCEPService × EnrollOutcome :=
  ({ s with intuneCounters := s.intuneCounters.inc .success }, .passed claim)

variable {κ : Type} (codec : Codec κ)

/-- The stages before the replay gate; they leave no trace but a counter. -/
def preflight (s : SCEPService) (call : DispatchCall κ) (trust : List (PublicKey κ)) (now : Time) :
    Except IntuneError ChallengeClaim := do
  let claim ← validateChallenge codec call.challengePassword
    ⟨trust, s.intuneAudience, now, s.intuneClockSkew⟩
  ensure (¬ (s.intuneValidity > 0 ∧ claim.issuedAt ≠ 0 ∧
      timeSub now claim.issuedAt > s.intuneValidity))
    (.challenge .expired (": iat=" ++ codec.rfc3339 claim.issuedAt ++
      " exceeds operator-configured validity cap " ++ durationText s.intuneValidity))
  let csr ← (codec.parseCSR call.csrPEM).mapError (fun e => malformed (": CSR parse: " ++ e))
  claim.deviceMatchesCSR codec csr
  return claim

/-- Replay protection, skipped without a cache or a nonce. -/
def replayGate (s : SCEPService) (claim : ChallengeClaim) (now : Time) (victim : String) :
    Option (SCEPService × Bool) :=
  match s.intuneReplayCache with
  | none => some (s, true)
  | some cache =>
    if claim.nonce = "" then some (s, true)
    else (cache.checkAndInsert claim.nonce now victim).map (fun result =>
      ({ s with intuneReplayCache := some result.1 }, result.2))

/-- The limiter of a device, skipped without a subject. -/
def rateGate (s : SCEPService) (claim : ChallengeClaim) (now : Time) (order : List Bucket) :
    SCEPService × Option LimiterError :=
  match s.intuneRateLimiter with
  | none => (s, none)
  | some limiter =>
    let result := perDeviceAllow limiter claim.subject claim.issuer now order
    ({ s with intuneRateLimiter := some result.1 }, result.2)

def complianceGate (s : SCEPService) (claim : ChallengeClaim)
    (complianceCheck : Option (ChallengeClaim → ComplianceAnswer)) : SCEPService × EnrollOutcome :=
  match complianceCheck with
  | none => s.accept claim
  | some check =>
    match check claim with
    | .failed cause =>
      s.reject .complianceFailed (.compliance ("intune compliance check: " ++ cause))
    | .answered false reason =>
      s.reject .complianceFailed (.compliance ("intune compliance: " ++ reason))
    | .answered true _ => s.accept claim

/-- What follows the replay gate. -/
def afterReplay (s : SCEPService) (claim : ChallengeClaim) (call : DispatchCall κ) (now : Time) :
    SCEPService × EnrollOutcome :=
  match s.rateGate claim now call.order with
  | (s, some _) => s.reject .rateLimited .rateLimited
  | (s, none) => s.complianceGate claim call.complianceCheck

/-- `none` when the named victim is not one the eviction may pick. -/
def dispatchIntuneChallenge (s : SCEPService) (call : DispatchCall κ) (now : Time) :
    Option (SCEPService × EnrollOutcome) :=
  if !s.intuneEnabled || !looksIntuneShaped call.challengePassword then some (s, .undecided)
  else match call.trust with
    | none => some (s.reject .signatureInvalid (.challenge .signature ""))
    | some trust =>
      match s.preflight codec call trust now with
      | .error err => some (s.reject (intuneFailReason err) err)
      | .ok claim => (s.replayGate claim now call.victim).map (fun gated =>
          if gated.2 then gated.1.afterReplay claim call now
          else gated.1.reject .replay
            (.challenge .replay (": nonce=" ++ quote claim.nonce)))

variable {codec} {call : DispatchCall κ} {now : Time} {outcome : EnrollOutcome}
  {claim : ChallengeClaim}

/-- What a challenge that reaches the replay gate satisfies. -/
theorem preflight_ok {s : SCEPService} {trust : List (PublicKey κ)}
    (passed : s.preflight codec call trust now = .ok claim) (skew : 0 ≤ s.intuneClockSkew) :
    carriedClaim codec call.challengePassword = some claim ∧
      (claim.expiresAt ≠ 0 → now - s.intuneClockSkew < claim.expiresAt) ∧
      (s.intuneValidity > 0 → claim.issuedAt ≠ 0 →
        timeSub now claim.issuedAt ≤ s.intuneValidity) := by
  simp only [preflight, bind_eq_ok, ensure_eq_ok, pure, Except.pure, Except.ok.injEq] at passed
  obtain ⟨read, valid, _, capped, _, _, _, _, rfl⟩ := passed
  obtain ⟨carried, inTime⟩ := validateChallenge_ok valid
  refine ⟨carried, ?_, ?_⟩
  · simpa only [ValidateOptions.tolerance, Int.not_lt.mpr skew, if_false,
      add_negateDuration skew] using inTime
  · intro positive issued
    by_contra old
    exact capped ⟨positive, issued, Int.not_le.mp old⟩

/-- The settings and the cache, which only the replay gate touches. -/
structure SameGate (s s' : SCEPService) : Prop where
  validity : s'.intuneValidity = s.intuneValidity
  clockSkew : s'.intuneClockSkew = s.intuneClockSkew
  cache : s'.intuneReplayCache = s.intuneReplayCache

/-- The later gates leave the cache alone and pass no other claim. -/
theorem afterReplay_spec {s g : SCEPService}
    (result : s.afterReplay claim call now = (g, outcome)) :
    SameGate s g ∧ ∀ other, outcome = .passed other → other = claim := by
  have compliance : ∀ s' : SCEPService, SameGate s s' →
      SameGate s (s'.complianceGate claim call.complianceCheck).1 ∧
        ∀ other, (s'.complianceGate claim call.complianceCheck).2 = .passed other →
          other = claim := by
    intro s' same
    unfold complianceGate
    split
    on_goal 2 => split
    all_goals
      refine ⟨⟨same.validity, same.clockSkew, same.cache⟩, fun _ passed => ?_⟩
      cases passed
    all_goals rfl
  have limited : SameGate s (s.rateGate claim now call.order).1 := by
    unfold rateGate
    split
    · exact ⟨rfl, rfl, rfl⟩
    · exact ⟨rfl, rfl, rfl⟩
  unfold afterReplay at result
  split at result
  next s' err gated =>
    cases result
    rw [gated] at limited
    exact ⟨⟨limited.validity, limited.clockSkew, limited.cache⟩, fun _ passed => nomatch passed⟩
  next s' gated =>
    rw [gated] at limited
    simpa only [result] using compliance s' limited

/-- Everything a call can do to the cache, and what it means that a challenge passed. -/
inductive DispatchEffect (codec : Codec κ) (s : SCEPService) (call : DispatchCall κ) (now : Time) :
    SCEPService → EnrollOutcome → Prop where
  /-- Turned away before the replay gate. -/
  | early {s' : SCEPService} {outcome : EnrollOutcome} (same : SameGate s s')
      (fails : ∀ claim, outcome ≠ .passed claim) : DispatchEffect codec s call now s' outcome
  /-- The replay gate has nothing to look at. -/
  | ungated {s' : SCEPService} {outcome : EnrollOutcome} {claim : ChallengeClaim}
      (same : SameGate s s') (skipped : s.intuneReplayCache = none ∨ claim.nonce = "")
      (named : ∀ other, outcome = .passed other → other = claim) :
      DispatchEffect codec s call now s' outcome
  | gated {s' : SCEPService} {outcome : EnrollOutcome} {claim : ChallengeClaim}
      {trust : List (PublicKey κ)} {cache cache' : ReplayCache} {fresh : Bool}
      (reached : s.preflight codec call trust now = .ok claim) (nonempty : claim.nonce ≠ "")
      (before : s.intuneReplayCache = some cache)
      (checked : cache.checkAndInsert claim.nonce now call.victim = some (cache', fresh))
      (same : SameGate { s with intuneReplayCache := some cache' } s')
      (named : ∀ other, outcome = .passed other → other = claim ∧ fresh = true) :
      DispatchEffect codec s call now s' outcome

theorem dispatch_effect {s s' : SCEPService}
    (dispatched : s.dispatchIntuneChallenge codec call now = some (s', outcome)) :
    DispatchEffect codec s call now s' outcome := by
  unfold dispatchIntuneChallenge at dispatched
  split at dispatched
  · cases dispatched
    exact .early ⟨rfl, rfl, rfl⟩ (fun _ equal => nomatch equal)
  split at dispatched
  · cases dispatched
    exact .early ⟨rfl, rfl, rfl⟩ (fun _ equal => nomatch equal)
  next trust _ =>
    split at dispatched
    · cases dispatched
      exact .early ⟨rfl, rfl, rfl⟩ (fun _ equal => nomatch equal)
    next claim reached =>
      obtain ⟨⟨g, passes⟩, gate, result⟩ := Option.map_eq_some_iff.mp dispatched
      unfold replayGate at gate
      split at gate
      next absent =>
        cases gate
        obtain ⟨same, named⟩ := afterReplay_spec result
        exact .ungated same (.inl absent) named
      next cache before =>
        split at gate
        next empty =>
          cases gate
          obtain ⟨same, named⟩ := afterReplay_spec result
          exact .ungated same (.inr empty) named
        next nonempty =>
          obtain ⟨⟨cache', fresh⟩, checked, gate⟩ := Option.map_eq_some_iff.mp gate
          cases gate
          cases fresh with
          | false =>
            cases result
            exact .gated reached nonempty before checked ⟨rfl, rfl, rfl⟩
              (fun _ equal => nomatch equal)
          | true =>
            obtain ⟨same, named⟩ := afterReplay_spec result
            exact .gated reached nonempty before checked same
              (fun other passed => ⟨named other passed, rfl⟩)

end SCEPService

/-- A challenge that passed the gate, with the time of the call. -/
structure Acceptance where
  claim : ChallengeClaim
  time : Time

/-- What a call at this time adds to the acceptances. -/
def EnrollOutcome.acceptances (now : Time) : EnrollOutcome → List Acceptance
  | .passed claim => [⟨claim, now⟩]
  | _ => []

structure Intune where
  service : SCEPService
  sweeps : List Thread
  clock : Time
  accepted : List Acceptance

inductive IntuneAction (κ : Type) where
  | tick (d : Nat)
  | dispatch (call : DispatchCall κ)
  | sweep
  | observe (t : Nat) (nonce : String)
  | drop (t : Nat)
  | uncount (t : Nat)

namespace Intune

variable {κ : Type}

/-- A step of a sweep on the service's cache. -/
def sweepStep (s : Intune) (a : CacheAction) : Option Intune :=
  s.service.intuneReplayCache.bind (fun cache =>
    (Scep.step ⟨cache, s.sweeps⟩ a).map (fun after =>
      { s with
        service := { s.service with intuneReplayCache := some after.cache }
        sweeps := after.threads }))

def step (codec : Codec κ) (s : Intune) : IntuneAction κ → Option Intune
  | .tick d => some { s with clock := s.clock + d }
  | .dispatch call =>
    (s.service.dispatchIntuneChallenge codec call s.clock).map (fun result =>
      { s with
        service := result.1
        accepted := s.accepted ++ result.2.acceptances s.clock })
  | .sweep => s.sweepStep (.sweep s.clock)
  | .observe t nonce => s.sweepStep (.observe t nonce)
  | .drop t => s.sweepStep (.drop t)
  | .uncount t => s.sweepStep (.uncount t)

def Initial (audience : String) (challengeValidity clockSkewTolerance : Time)
    (perDeviceRateLimit24h : Int) (s : Intune) : Prop :=
  s.service = wireIntune audience challengeValidity clockSkewTolerance perDeviceRateLimit24h ∧
    s.sweeps = [] ∧ s.accepted = []

end Intune

end Certctl.Source.Scep

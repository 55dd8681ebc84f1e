import Certctl.Source.Scep.IntuneDispatch

/-!
Single use of Intune challenges. The validity cap lets a challenge live until its issue
time plus the validity, and that instant included; the replay cache remembers a nonce
for the same duration, but from its first use. A challenge that is first used no later
than its issue time outlives its entry and passes again; one that is used after its
issue time, or that expires by itself before the entry does, passes at most once.
-/
namespace Certctl.Guarantees.ChallengeSingleUse

open Lib Source Source.Scep Source.RateLimit

/-- No challenge with a nonce and an issue time passed twice. -/
def SingleUse (s : Intune) : Prop :=
  ∀ claim : ChallengeClaim, claim.nonce ≠ "" → claim.issuedAt ≠ 0 →
    s.accepted.countP (fun a => decide (a.claim = claim)) ≤ 1

/-- The replay cache is not full when a challenge comes in. -/
def neverFull {κ : Type} (s : Intune) : IntuneAction κ → Bool
  | .dispatch _ => match s.service.intuneReplayCache with
    | some cache => decide (cache.size < cache.cap)
    | none => true
  | _ => true

/-- The challenge does not outlive the entry its use at this time leaves behind. -/
def outlived (validity skew : Time) (claim : ChallengeClaim) (now : Time) : Bool :=
  (decide (claim.issuedAt < now) && decide (validity < maxDuration)) ||
    (decide (claim.expiresAt ≠ 0) && decide (claim.expiresAt + skew ≤ now + validity))

/-- A sweep has found the nonce expired and has yet to delete it. -/
def condemned (nonce : String) : Thread → Bool
  | .sweep _ _ expired _ _ => decide (nonce ∈ expired)
  | _ => false

/-- The condition on a call: what the challenge carries does not outlive its entry, and no
sweep is about to delete its nonce. -/
def timely {κ : Type} (codec : Codec κ) (s : Intune) : IntuneAction κ → Bool
  | .dispatch call => match carriedClaim codec call.challengePassword with
    | none => true
    | some claim => decide (claim.nonce = "") ||
      ((decide (claim.issuedAt = 0) ||
        outlived s.service.intuneValidity s.service.intuneClockSkew claim s.clock) &&
          s.sweeps.all (fun sweep => !condemned claim.nonce sweep))
  | _ => true

/-- The entry of a nonce. -/
def stored (s : Intune) (nonce : String) : Option Entry :=
  s.service.intuneReplayCache.bind (fun cache => cache.entries.get? nonce)

variable {now validity skew : Time}

/-- What a call below capacity does to the entries. -/
theorem checkAndInsert_entries {c c' : ReplayCache} {nonce victim : String}
    {fresh : Bool} (below : c.size < c.cap) (nonempty : nonce ≠ "")
    (checked : c.checkAndInsert nonce now victim = some (c', fresh)) :
    c'.ttl = c.ttl ∧ (fresh = false ∧ c' = c ∨
        (∀ e, c.entries.get? nonce = some e → e.expiry ≤ now) ∧ ∀ n, c'.entries.get? n =
            if n = nonce then some ⟨nonce, now + c.ttl⟩ else c.entries.get? n) := by
  unfold ReplayCache.checkAndInsert at checked
  simp only [nonempty, if_false] at checked
  cases present : c.entries.get? nonce with
  | none =>
    simp only [present] at checked
    obtain ⟨m, made, equal⟩ := Option.map_eq_some_iff.mp checked
    cases equal
    rw [count_below below made]
    refine ⟨rfl, .inr ⟨?_, fun n => ?_⟩⟩
    · intro e found
      cases found
    · simp only [ReplayCache.store, Table.get?_upsert]
  | some e =>
    simp only [present] at checked
    split at checked
    · cases checked
      exact ⟨rfl, .inl ⟨rfl, rfl⟩⟩
    next expired =>
      obtain ⟨m, made, equal⟩ := Option.map_eq_some_iff.mp checked
      cases equal
      have smaller : (c.drop nonce).uncount.size < (c.drop nonce).uncount.cap := by
        rw [uncount_cap]
        exact Int.lt_of_le_of_lt (uncount_size_le _) below
      have lifetime : (c.drop nonce).uncount.ttl = c.ttl := uncount_ttl _
      rw [count_below smaller made]
      refine ⟨lifetime, .inr ⟨?_, fun n => ?_⟩⟩
      · intro e' found
        cases found
        exact Int.not_lt.mp expired
      · simp only [ReplayCache.store, Table.get?_upsert, uncount_entries, get?_drop, lifetime]
        split <;> rfl

/-- A used nonce is guarded by its entry until a lifetime has passed. -/
def Guarded (s : Intune) (a : Acceptance) : Prop :=
  (∃ e, stored s a.claim.nonce = some e ∧ a.time + s.service.intuneValidity ≤ e.expiry) ∨
    a.time + s.service.intuneValidity ≤ s.clock

/-- A sweep reads a clock that is not ahead, and what it is about to delete has expired. -/
def SweepSound (s : Intune) (thread : Thread) : Prop :=
  ∃ now visited expired uncounting evicted,
    thread = .sweep now visited expired uncounting evicted ∧ now ≤ s.clock ∧
      ∀ nonce ∈ expired, ∀ e, stored s nonce = some e → e.expiry ≤ s.clock

/-- While time passes, what a sweep is about to delete may go but not come back. -/
theorem SweepSound.mono {s s' : Intune} {thread : Thread} (swept : SweepSound s thread)
    (clock : s.clock ≤ s'.clock) (fewer : ∀ nonce e, condemned nonce thread = true →
      stored s' nonce = some e → stored s nonce = some e) : SweepSound s' thread := by
  obtain ⟨now, visited, expired, uncounting, evicted, rfl, reading, gone⟩ := swept
  refine ⟨now, visited, expired, uncounting, evicted, rfl, Int.le_trans reading clock, ?_⟩
  intro nonce listed e found
  exact Int.le_trans (gone nonce listed e (fewer nonce e (decide_eq_true listed) found)) clock

theorem stored_eq {s : Intune} {cache : ReplayCache}
    (wired : s.service.intuneReplayCache = some cache) (nonce : String) :
    stored s nonce = cache.entries.get? nonce := by
  simp [stored, wired]

structure Sound (s : Intune) : Prop where
  positive : 0 < s.service.intuneValidity
  skew : 0 ≤ s.service.intuneClockSkew
  wired : ∃ cache, s.service.intuneReplayCache = some cache ∧
    cache.ttl = s.service.intuneValidity
  swept : ∀ thread ∈ s.sweeps, SweepSound s thread
  past : ∀ a ∈ s.accepted, a.time ≤ s.clock
  guarded : ∀ a ∈ s.accepted, a.claim.nonce ≠ "" → Guarded s a
  ends : ∀ a ∈ s.accepted, a.claim.nonce ≠ "" → a.claim.issuedAt ≠ 0 →
    outlived s.service.intuneValidity s.service.intuneClockSkew a.claim a.time = true
  single : SingleUse s

variable {claim : ChallengeClaim}

/-- After the entry of a used challenge has gone, the challenge itself is refused. -/
theorem refused_after {first : Time}
    (ends : outlived validity skew claim first = true) (later : first + validity ≤ now)
    (inTime : claim.expiresAt ≠ 0 → now - skew < claim.expiresAt)
    (capped : timeSub now claim.issuedAt ≤ validity) : False := by
  simp only [outlived, Bool.or_eq_true, Bool.and_eq_true, decide_eq_true_eq] at ends
  unfold timeSub minDuration maxDuration at *
  unfold Time at *
  rcases ends with ⟨issued, bounded⟩ | ⟨expires, expired⟩
  · omega
  · omega

section Steps

variable {κ : Type} {codec : Codec κ} {s s' : Intune}

section

variable (sound : Sound s) {service : SCEPService}

include sound

/-- The part of the invariant that the passing of time and the sweeps can touch. -/
theorem sound_of_frame (service : s'.service.intuneValidity = s.service.intuneValidity ∧
      s'.service.intuneClockSkew = s.service.intuneClockSkew)
    (wired : ∃ cache, s'.service.intuneReplayCache = some cache ∧
      cache.ttl = s.service.intuneValidity)
    (swept : ∀ thread ∈ s'.sweeps, SweepSound s' thread) (clock : s.clock ≤ s'.clock)
    (accepted : s'.accepted = s.accepted) (entries : ∀ nonce e, stored s nonce = some e →
      stored s' nonce = some e ∨ e.expiry ≤ s'.clock) : Sound s' := by
  obtain ⟨validity, clockSkew⟩ := service
  constructor
  case positive =>
    rw [validity]
    exact sound.positive
  case skew =>
    rw [clockSkew]
    exact sound.skew
  case wired =>
    rw [validity]
    exact wired
  case swept => exact swept
  case past =>
    rw [accepted]
    intro a member
    exact Int.le_trans (sound.past a member) clock
  case guarded =>
    rw [accepted]
    intro a member named
    unfold Guarded
    rw [validity]
    rcases sound.guarded a member named with ⟨e, found, inside⟩ | passed
    · rcases entries _ e found with kept | expired
      · exact .inl ⟨e, kept, inside⟩
      · exact .inr (Int.le_trans inside expired)
    · exact .inr (Int.le_trans passed clock)
  case ends =>
    rw [accepted, validity, clockSkew]
    exact sound.ends
  case single =>
    unfold SingleUse
    rw [accepted]
    exact sound.single

theorem tick_sound (d : Nat) : Sound { s with clock := s.clock + d } := by
  have clock : s.clock ≤ s.clock + d := Int.le_add_of_nonneg_right (Int.natCast_nonneg d)
  refine sound_of_frame sound ⟨rfl, rfl⟩ sound.wired ?_ clock rfl (fun _ _ found => .inl found)
  exact fun thread member => (sound.swept thread member).mono clock fun _ _ _ found => found

/-- A sweep's step: one thread changes, entries only go, and those that go had expired. -/
theorem sweep_frame {after : CacheSys} {cache : ReplayCache}
    (before : s.service.intuneReplayCache = some cache) (lifetime : after.cache.ttl = cache.ttl)
    (entries : ∀ nonce, after.cache.entries.get? nonce = stored s nonce ∨
      after.cache.entries.get? nonce = none ∧ ∀ e, stored s nonce = some e → e.expiry ≤ s.clock)
    (threads : ∀ thread ∈ after.threads, SweepSound s thread) :
    Sound { s with
      service := { s.service with intuneReplayCache := some after.cache }
      sweeps := after.threads } := by
  obtain ⟨cache', wired, ttl⟩ := sound.wired
  rw [before] at wired
  cases wired
  refine sound_of_frame sound ⟨rfl, rfl⟩ ⟨after.cache, rfl, lifetime.trans ttl⟩ ?_ (Int.le_refl _)
    rfl ?_
  · intro thread member
    refine (threads thread member).mono (Int.le_refl _) fun nonce e _ found => ?_
    rcases entries nonce with same | ⟨gone, _⟩
    · exact same.symm.trans found
    · cases gone.symm.trans found
  · intro nonce e found
    exact (entries nonce).imp (fun same => same.trans found) (fun gone => gone.2 e found)

theorem sweepStep_sound {a : CacheAction} (kind : ∀ nonce now, a ≠ .checkAndInsert nonce now)
    (clock : ∀ now, a = .sweep now → now = s.clock)
    (taken : s.sweepStep a = some s') : Sound s' := by
  obtain ⟨cache, before, taken⟩ := Option.bind_eq_some_iff.mp taken
  obtain ⟨after, moved, rfl⟩ := Option.map_eq_some_iff.mp taken
  have known : ∀ (t : Nat) thread, s.sweeps[t]? = some thread → SweepSound s thread :=
    fun t thread found => sound.swept thread (List.mem_of_getElem? found)
  have noCheck : ∀ (t : Nat) nonce now progress,
      s.sweeps[t]? ≠ some (.check nonce now progress) := by
    intro t nonce now progress found
    obtain ⟨_, _, _, _, _, equal, _⟩ := known t _ found
    cases equal
  have was := stored_eq before
  cases step_effect moved with
  | started => exact absurd rfl (kind _ _)
  | loaded current | dropped current | uncounted current | counted current _ | stored current =>
    exact absurd current (noCheck _ _ _ _)
  | @sweepStarted now =>
    refine sweep_frame sound before rfl (fun n => .inl (was n).symm) ?_
    refine forall_mem_snoc sound.swept ⟨now, [], [], false, 0, rfl, ?_, nofun⟩
    rw [clock now rfl]
  | @swept t evicted nonce now visited expired current =>
    obtain ⟨_, _, _, _, _, equal, reading, listed⟩ := known t _ current
    cases equal
    refine sweep_frame sound before rfl (fun n => ?_) ?_
    · simp only [CacheSys.move, get?_drop]
      split
      next same => exact .inr ⟨rfl, listed n (same ▸ List.mem_cons_self)⟩
      · exact .inl (was n).symm
    · refine forall_mem_set sound.swept ⟨now, visited, expired, _, _, rfl, reading, ?_⟩
      exact fun n inside => listed n (List.mem_cons_of_mem _ inside)
  | @sweepUncounted t evicted now visited expired current =>
    obtain ⟨_, _, _, _, _, equal, reading, listed⟩ := known t _ current
    cases equal
    refine sweep_frame sound before (uncount_ttl cache) (fun n => .inl ?_) ?_
    · rw [CacheSys.move, uncount_entries, was]
    · exact forall_mem_set sound.swept ⟨now, visited, expired, _, _, rfl, reading, listed⟩
  | @observed t evicted nonce now visited expired uncounting e current found =>
    obtain ⟨_, _, _, _, _, equal, reading, listed⟩ := known t _ current
    cases equal
    refine sweep_frame sound before rfl (fun n => .inl (was n).symm) ?_
    refine forall_mem_set sound.swept
      ⟨now, nonce :: visited, _, uncounting, evicted, rfl, reading, ?_⟩
    intro n inside e' found'
    split at inside
    · exact listed n inside e' found'
    next dead =>
      rcases mem_snoc inside with old | rfl
      · exact listed n old e' found'
      · rw [was, found] at found'
        cases found'
        exact Int.le_trans (Int.not_lt.mp dead) reading

/-- A call that leaves the cache and the acceptances alone. -/
theorem sameGate_sound (same : SCEPService.SameGate s.service service) :
    Sound { s with service := service } := by
  have entries : ∀ nonce, stored { s with service := service } nonce = stored s nonce := by
    intro nonce
    simp only [stored, same.cache]
  refine sound_of_frame sound ⟨same.validity, same.clockSkew⟩ ?_ ?_ (Int.le_refl _) rfl ?_
  · rw [same.cache]
    exact sound.wired
  · intro thread member
    refine (sound.swept thread member).mono (Int.le_refl _) fun nonce e _ found => ?_
    exact (entries nonce).symm.trans found
  · intro nonce e found
    exact .inl ((entries nonce).trans found)

/-- A fresh nonce is written over an expired entry, and no sweep is about to delete it. -/
theorem store_sound {cache cache' : ReplayCache} {nonce : String}
    (before : s.service.intuneReplayCache = some cache) (lifetime : cache'.ttl = cache.ttl)
    (expired : ∀ e, cache.entries.get? nonce = some e → e.expiry ≤ s.clock)
    (entries : ∀ n, cache'.entries.get? n =
      if n = nonce then some ⟨nonce, s.clock + cache.ttl⟩ else cache.entries.get? n)
    (spared : ∀ sweep ∈ s.sweeps, condemned nonce sweep = false) :
    Sound { s with service := { s.service with intuneReplayCache := some cache' } } := by
  have was := stored_eq before
  obtain ⟨_, wired, ttl⟩ := sound.wired
  rw [before] at wired
  cases wired
  refine sound_of_frame sound ⟨rfl, rfl⟩ ⟨cache', rfl, lifetime.trans ttl⟩ ?_ (Int.le_refl _) rfl ?_
  · intro thread member
    refine (sound.swept thread member).mono (Int.le_refl _) fun n e deleted found => ?_
    have other : n ≠ nonce := by
      rintro rfl
      rw [spared _ member] at deleted
      cases deleted
    change cache'.entries.get? n = some e at found
    rw [entries, if_neg other] at found
    exact (was n).trans found
  · intro n e found
    rw [was] at found
    change cache'.entries.get? n = some e ∨ _
    rw [entries]
    split
    next same =>
      subst same
      exact .inr (expired e found)
    · exact .inl found

/-- One more acceptance: of an unnamed challenge, or of one that has its entry and was
not accepted before. -/
theorem accept_sound (entry : claim.nonce ≠ "" → ∃ e, stored s claim.nonce = some e ∧
      s.clock + s.service.intuneValidity ≤ e.expiry) (ends : claim.nonce ≠ "" → claim.issuedAt ≠ 0 →
      outlived s.service.intuneValidity s.service.intuneClockSkew claim s.clock = true)
    (unused : claim.nonce ≠ "" → claim.issuedAt ≠ 0 → ∀ a ∈ s.accepted, a.claim ≠ claim) :
    Sound { s with accepted := s.accepted ++ [⟨claim, s.clock⟩] } where
  positive := sound.positive
  skew := sound.skew
  wired := sound.wired
  swept := sound.swept
  past := forall_mem_snoc sound.past (Int.le_refl _)
  guarded := forall_mem_snoc sound.guarded fun named => .inl (entry named)
  ends := forall_mem_snoc sound.ends ends
  single := by
    intro other named issued
    have before := sound.single other named issued
    simp only [List.countP_append, List.countP_singleton, decide_eq_true_eq]
    split
    next same =>
      subst same
      have none : s.accepted.countP (fun a => decide (a.claim = claim)) = 0 := by
        apply List.countP_eq_zero.mpr
        intro a member used
        exact unused named issued a member (of_decide_eq_true used)
      omega
    · omega

/-- A challenge that passes the replay gate was not accepted before. -/
theorem unused_of_fresh (named : claim.nonce ≠ "") (issued : claim.issuedAt ≠ 0)
    (expired : ∀ e, stored s claim.nonce = some e → e.expiry ≤ s.clock)
    (inTime : claim.expiresAt ≠ 0 → s.clock - s.service.intuneClockSkew < claim.expiresAt)
    (capped : timeSub s.clock claim.issuedAt ≤ s.service.intuneValidity) :
    ∀ a ∈ s.accepted, a.claim ≠ claim := by
  rintro a member rfl
  have later : a.time + s.service.intuneValidity ≤ s.clock := by
    rcases sound.guarded a member named with ⟨e, found, inside⟩ | passed
    · exact Int.le_trans inside (expired e found)
    · exact passed
  exact refused_after (sound.ends a member named issued) later inTime capped

/-- Only an outcome that passes accepts a claim. -/
theorem outcome_sound {outcome : EnrollOutcome}
    (passes : ∀ claim, outcome = .passed claim →
      Sound { s with accepted := s.accepted ++ [⟨claim, s.clock⟩] }) :
    Sound { s with accepted := s.accepted ++ outcome.acceptances s.clock } := by
  cases outcome with
  | passed claim => exact passes claim rfl
  | undecided | rejected err =>
    simp only [EnrollOutcome.acceptances, List.append_nil]
    exact sound

theorem dispatch_sound {call : DispatchCall κ} {outcome : EnrollOutcome}
    (room : neverFull s (.dispatch call) = true) (inTime : timely codec s (.dispatch call) = true)
    (effect : SCEPService.DispatchEffect codec s.service call s.clock service outcome) :
    Sound { s with
      service := service
      accepted := s.accepted ++ outcome.acceptances s.clock } := by
  cases effect with
  | early same fails =>
    exact outcome_sound (sameGate_sound sound same) fun claim passed => absurd passed (fails claim)
  | @ungated claim same skipped named =>
    have kept := sameGate_sound sound same
    have unnamed : claim.nonce = "" := by
      rcases skipped with absent | empty
      · obtain ⟨cache, wired, _⟩ := sound.wired
        rw [absent] at wired
        cases wired
      · exact empty
    refine outcome_sound kept fun other passed => ?_
    obtain rfl := named other passed
    exact accept_sound kept (fun named => absurd unnamed named)
      (fun named => absurd unnamed named) (fun named => absurd unnamed named)
  | @gated claim trust cache cache' fresh reached nonempty before checked same named =>
    obtain ⟨carried, alive, capped⟩ := SCEPService.preflight_ok reached sound.skew
    simp only [neverFull, before, decide_eq_true_eq] at room
    simp only [timely, carried, nonempty, decide_false, Bool.false_or, Bool.and_eq_true,
      Bool.or_eq_true, decide_eq_true_eq, List.all_eq_true, Bool.not_eq_true'] at inTime
    obtain ⟨ends, spared⟩ := inTime
    obtain ⟨lifetime, turned | ⟨expired, entries⟩⟩ := checkAndInsert_entries room nonempty checked
    · -- The nonce was still remembered: nothing is written and nothing passes.
      obtain ⟨stale, rfl⟩ := turned
      have unchanged : SCEPService.SameGate s.service service :=
        ⟨same.validity, same.clockSkew, same.cache.trans before.symm⟩
      refine outcome_sound (sameGate_sound sound unchanged) fun other passed => ?_
      rw [stale] at named
      cases (named other passed).2
    · have written := store_sound sound before lifetime expired entries spared
      have kept := sameGate_sound written same
      refine outcome_sound kept fun other passed => ?_
      obtain ⟨rfl, _⟩ := named other passed
      refine accept_sound kept (fun _ => ?_) (fun _ issued => ?_) (fun _ issued => ?_)
      · refine ⟨⟨other.nonce, s.clock + cache.ttl⟩, ?_, ?_⟩
        · simp only [stored, same.cache, Option.bind_some]
          rw [entries, if_pos rfl]
        · obtain ⟨_, wired, ttl⟩ := sound.wired
          rw [before] at wired
          cases wired
          simp only [same.validity, ttl]
          exact Int.le_refl _
      · simp only [same.validity, same.clockSkew]
        exact ends.resolve_left issued
      · have unused := unused_of_fresh (s := s) sound nonempty issued
          (fun e found => expired e (stored_eq before _ ▸ found)) alive
          (capped sound.positive issued)
        exact unused

theorem step_sound {a : IntuneAction κ} (room : neverFull s a = true)
    (inTime : timely codec s a = true) (taken : s.step codec a = some s') : Sound s' := by
  cases a with
  | tick d =>
    cases taken
    exact tick_sound sound d
  | dispatch call =>
    obtain ⟨⟨service, outcome⟩, dispatched, rfl⟩ := Option.map_eq_some_iff.mp taken
    exact dispatch_sound sound room inTime (SCEPService.dispatch_effect dispatched)
  | sweep => exact sweepStep_sound (a := .sweep s.clock) sound (by simp) (by simp) taken
  | observe t nonce => exact sweepStep_sound (a := .observe t nonce) sound (by simp) (by simp) taken
  | drop t => exact sweepStep_sound (a := .drop t) sound (by simp) (by simp) taken
  | uncount t => exact sweepStep_sound (a := .uncount t) sound (by simp) (by simp) taken

end

end Steps

theorem initial_sound {audience : String} {rate : Int} {s : Intune}
    (positive : 0 < validity) (nonnegative : 0 ≤ skew)
    (initial : Intune.Initial audience validity skew rate s) : Sound s := by
  obtain ⟨service, sweeps, accepted⟩ := initial
  constructor
  case positive =>
    rw [service]
    exact positive
  case skew =>
    rw [service]
    exact nonnegative
  case wired =>
    rw [service]
    exact ⟨_, rfl, rfl⟩
  case swept =>
    rw [sweeps]
    intro thread member
    cases member
  case single =>
    intro claim _ _
    rw [accepted]
    exact Nat.zero_le 1
  all_goals
    rw [accepted]
    intro a member
    cases member

theorem single_use_of_timely {κ : Type} (codec : Codec κ) (audience : String)
    (validity skew : Time) (rate : Int) (positive : 0 < validity) (nonnegative : 0 ≤ skew)
    {s : Intune}
    (reached : ReachableUnder (Intune.step codec) (Intune.Initial audience validity skew rate)
      (fun s a => (neverFull s a && timely codec s a) = true) s) :
    SingleUse s := by
  have sound : Sound s := by
    refine reached.invariant (fun _ => initial_sound positive nonnegative) ?_
    intro s a s' sound ok taken
    obtain ⟨room, inTime⟩ := Bool.and_eq_true_iff.mp ok
    exact step_sound sound room inTime taken
  exact sound.single

def second : Nat := 1000000000

/-- A challenge issued at 100 s that expires an hour later, for one device. -/
def samplePayload : ChallengePayloadV1 where
  issuer := "connector"
  subject := "device"
  audience := ""
  issuedAt := 100
  expiresAt := 3700
  nonce := "n"
  deviceName := "host"
  sanDNS := []
  sanRFC822 := []
  sanUPN := []

/-- One signed challenge: its parts, each as on the wire and decoded. -/
structure SoleChallenge where
  alg : String
  header : String × String
  payload : String × String
  signature : String × Bytes
  claims : ChallengePayloadV1

def SoleChallenge.raw (k : SoleChallenge) : String :=
  k.header.1 ++ "." ++ k.payload.1 ++ "." ++ k.signature.1

def utf8 (text : String) : Bytes := text.toUTF8.data.toList

/-- The standard library on this challenge and on one request; other inputs are errors. -/
def SoleChallenge.codec (k : SoleChallenge) : Codec Unit where
  base64url text :=
    if text = k.header.1 then .ok (utf8 k.header.2)
    else if text = k.payload.1 then .ok (utf8 k.payload.2)
    else if text = k.signature.1 then .ok k.signature.2
    else .error "illegal base64 data"
  jsonObject bytes := ensure (bytes = utf8 k.header.2) "invalid character"
  headerAlg bytes := if bytes = utf8 k.header.2 then .ok k.alg else .error "invalid character"
  payloadVersion bytes := if bytes = utf8 k.payload.2 then .ok "" else .error "invalid character"
  payloadV1 bytes :=
    if bytes = utf8 k.payload.2 then .ok k.claims else .error "invalid character"
  rsaVerify _ input bytes :=
    decide (input = k.header.1 ++ "." ++ k.payload.1 ∧ bytes = k.signature.2)
  ecdsaVerify _ input r s :=
    decide (input = k.header.1 ++ "." ++ k.payload.1 ∧ r ++ s = k.signature.2)
  ecdsaVerifyASN1 _ _ _ := false
  parseCSR pem := if pem = "csr" then .ok ⟨"host", [], [], []⟩ else .error "no PEM block"
  unicode := .basic
  rfc3339 _ := ""

/-- The header names ES256, and the signature is of 64 bytes. -/
def sample : SoleChallenge where
  alg := "ES256"
  header := ("eyJhbGciOiJFUzI1NiJ9", "\x7b\"alg\":\"ES256\"\x7d")
  payload :=
    ("eyJpc3MiOiJjb25uZWN0b3IiLCJzdWIiOiJkZXZpY2UiLCJpYXQiOjEwMCwiZXhwIjozNzAwLCJub25jZSI6Im4i" ++
      "LCJkZXZpY2VfbmFtZSI6Imhvc3QifQ",
    "\x7b\"iss\":\"connector\",\"sub\":\"device\",\"iat\":100,\"exp\":3700,\"nonce\":\"n\"," ++
      "\"device_name\":\"host\"\x7d")
  signature := (String.ofList (List.replicate 86 'A'), List.replicate 64 0)
  claims := samplePayload

abbrev sampleCodec : Codec Unit := sample.codec

def sampleCall : DispatchCall Unit where
  trust := some [.ecdsa ()]
  csrPEM := "csr"
  challengePassword := sample.raw
  complianceCheck := none
  victim := ""
  order := []

/-- The defaults: an hour of validity, a minute of tolerance, three uses a day. -/
def sampleIntune (clock : Time) : Intune := ⟨wireIntune "" hour (60 * second) 3, [], clock, []⟩

theorem sampleIntune_initial (clock : Time) :
    Intune.Initial "" hour (60 * second) 3 (sampleIntune clock) := ⟨rfl, rfl, rfl⟩

/-- First used a second after it was issued, replayed half an hour later, and again after
a sweep has dropped the entry. -/
def timelyRun : List (IntuneAction Unit) :=
  [.dispatch sampleCall, .tick (1800 * second), .dispatch sampleCall, .tick (1800 * second), .sweep,
    .observe 0 "n", .drop 0, .uncount 0, .dispatch sampleCall]

theorem single_use_timelyRun :
    ∃ s, ReachableUnder (Intune.step sampleCodec) (Intune.Initial "" hour (60 * second) 3)
        (fun s a => (neverFull s a && timely sampleCodec s a) = true) s ∧
      s.accepted.map Acceptance.time = [unixTime 101] ∧ SingleUse s := by
  obtain ⟨s, reached, once⟩ := exists_reachable_of_replay (Intune.step sampleCodec)
    (fun s a => neverFull s a && timely sampleCodec s a) (sampleIntune_initial (unixTime 101))
    timelyRun (fun s => s.accepted.map Acceptance.time = [unixTime 101]) (by decide +kernel)
  exact ⟨s, reached, once,
    single_use_of_timely sampleCodec "" hour (60 * second) 3 (by decide) (by decide) reached⟩

/-- The connector's clock is half a minute ahead: first used before it was issued, and
again when the entry has just expired. -/
def earlyRun : List (IntuneAction Unit) :=
  [.dispatch sampleCall, .tick (3600 * second), .dispatch sampleCall]

theorem accepted_twice_earlyRun :
    ∃ s, ReachableUnder (Intune.step sampleCodec) (Intune.Initial "" hour (60 * second) 3)
        (fun s a => neverFull s a = true) s ∧ ¬ SingleUse s := by
  obtain ⟨s, reached, twice⟩ := exists_reachable_of_replay (Intune.step sampleCodec) neverFull
    (sampleIntune_initial (unixTime 70)) earlyRun
    (fun s => s.accepted.map Acceptance.claim =
      [samplePayload.claim, samplePayload.claim]) (by decide +kernel)
  refine ⟨s, reached, fun single => ?_⟩
  have bound := single samplePayload.claim (by decide) (by decide +kernel)
  have counted : s.accepted.countP (fun a => decide (a.claim = samplePayload.claim)) =
      (s.accepted.map Acceptance.claim).countP (fun c => decide (c = samplePayload.claim)) := by
    rw [List.countP_map]
    rfl
  rw [counted, twice] at bound
  revert bound
  decide +kernel

end Certctl.Guarantees.ChallengeSingleUse

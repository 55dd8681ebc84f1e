import Certctl.Source.RateLimit.Factory

/-!
Answers of the two backends to one sequence of calls on a family of limiters. In memory
a limiter counts its own calls; in the table every limiter that uses a key counts the
calls of all the others on it, and prunes by its own window. As long as no key is used
with two enabled limiters, and the times have four-digit years, the stored log of a key
is the bucket of the limiter that uses it, and the answers are the same.
-/
namespace Certctl.Guarantees.BackendEquivalence

open Lib Source Source.RateLimit Source.RateLimit.Postgres

def AnswersAgree (f : Family) : Prop := ∀ e ∈ f.log, e.memory = e.postgres

def enabledLimiter (f : Family) (i : Nat) : Bool := (f.memory[i]?).any (fun l => !l.disabled)

/-- No enabled limiter other than `i` has been called with the key. -/
def Owns (f : Family) (i : Nat) (key : String) : Prop :=
  ∀ e ∈ f.log, e.key = key → enabledLimiter f e.limiter = true → e.limiter = i

/-- The key has been used with no other enabled limiter, and the year has four digits. -/
def ownKey (f : Family) (call : FamilyCall) : Bool :=
  !enabledLimiter f call.limiter || decide (call.key = "") ||
    f.log.all (fun e => decide (e.key ≠ call.key) || !enabledLimiter f e.limiter ||
      decide (e.limiter = call.limiter)) && decide (call.now < yearTenThousand)

/-- Two limiters of one family member run with the same configuration. -/
def SameConfig (l : SlidingWindowLimiter) (p : PostgresSlidingWindowLimiter) : Prop :=
  l.maxN = p.maxN ∧ l.window = p.window ∧ l.disabled = p.disabled

structure Sound (f : Family) : Prop where
  config : ∀ (i : Nat) l p, f.memory[i]? = some l → f.postgres[i]? = some p → SameConfig l p
  quiescent : Quiescent f.database.rows
  readable : ∀ key, ∀ t ∈ timesOf f.database.rows key, t % 1000 = 0 ∧ t < yearTenThousand
  mirrored : ∀ (i : Nat) l key, f.memory[i]? = some l → l.disabled = false → key ≠ "" →
    Owns f i key → bucketOf l.buckets key = timesOf f.database.rows key
  agree : AnswersAgree f

section Step

variable {rounding : TimestampRounding} {f f' : Family} {call : FamilyCall}

theorem step_eq_some (taken : f.step rounding call = some f') :
    ∃ l p database, f.memory[call.limiter]? = some l ∧ f.postgres[call.limiter]? = some p ∧
      call.now % 1000 = 0 ∧ l.evicts call.key = false ∧
      allowAlone ⟨rounding, p, 0⟩ f.database call.key call.now = some database ∧
      f' = { memory := f.memory.set call.limiter (l.allow call.key call.now call.order).1
             postgres := f.postgres
             database := database
             log := f.log ++ [⟨call.limiter, call.key, call.now,
               (l.allow call.key call.now call.order).2, lastResult database⟩] } := by
  obtain ⟨l, member, taken⟩ := Option.bind_eq_some_iff.mp taken
  obtain ⟨p, twin, taken⟩ := Option.bind_eq_some_iff.mp taken
  obtain ⟨valid, taken⟩ := of_then taken nofun
  obtain ⟨database, ran, rfl⟩ := Option.map_eq_some_iff.mp taken
  exact ⟨l, p, database, member, twin, valid.1, valid.2, ran, rfl⟩

variable {l l' : SlidingWindowLimiter} {p : PostgresSlidingWindowLimiter} {database : Replicas}
  {key : String} {now : Time}

/-- Without an eviction, the memory backend makes the table's decision on its own
bucket. -/
theorem allow_decides (now : Time) (order : List Bucket) (config : SameConfig l p)
    (enabled : l.disabled = false) (named : key ≠ "") (roomy : l.evicts key = false) :
    (l.allow key now order).2 = (decideBucket p now (bucketOf l.buckets key)).2 ∧
      ∀ k, bucketOf (l.allow key now order).1.buckets k =
        if k = key then (decideBucket p now (bucketOf l.buckets key)).1
        else bucketOf l.buckets k := by
  obtain ⟨maxN, window, _⟩ := config
  have kept : l.afterEviction order = l.buckets := by
    unfold SlidingWindowLimiter.evicts at roomy
    unfold SlidingWindowLimiter.afterEviction
    simp only [enabled, named, Bool.not_false, ne_eq, not_false_eq_true, decide_true, Bool.true_and,
      decide_eq_false_iff_not] at roomy
    rw [if_neg roomy]
  have effect := allow_effect l key now order
  generalize l.allow key now order = result at effect
  cases effect with
  | skipped idle =>
    rcases idle with disabled | empty
    · rw [enabled] at disabled
      cases disabled
    · exact absurd empty named
  | rejected _ _ bucket pruned full =>
    rw [kept, window] at pruned
    rw [kept]
    rcases decideBucket_cases p now (bucketOf l.buckets key) with ⟨_, decided⟩ | ⟨room, _⟩
    · rw [decided, ← pruned]
      exact ⟨rfl, fun k => bucketOf_upsert l.buckets ⟨key, bucket⟩ k⟩
    · rw [← pruned] at room
      omega
  | recorded _ _ bucket pruned room =>
    rw [kept, window] at pruned
    rw [kept]
    rcases decideBucket_cases p now (bucketOf l.buckets key) with ⟨full, _⟩ | ⟨_, decided⟩
    · rw [← pruned] at full
      omega
    · rw [decided, ← pruned]
      exact ⟨rfl, fun k => bucketOf_upsert l.buckets ⟨key, bucket ++ [now]⟩ k⟩

theorem allow_idle {order : List Bucket} (idle : l.disabled = true ∨ key = "") :
    l.allow key now order = (l, none) := by
  unfold SlidingWindowLimiter.allow
  rcases idle with disabled | empty
  · rw [if_pos disabled]
  · rw [if_pos empty, ite_self]

theorem clock_le {d : Deployment} {s s' : Replicas} (ran : allowAlone d s key now = some s') :
    s.clock ≤ now := by
  obtain ⟨ticked, tick, _⟩ := Option.bind_eq_some_iff.mp ran
  obtain ⟨forward, tick⟩ := of_then tick nofun
  exact forward

theorem mapM_readable {times : List Time} (readable : ∀ t ∈ times, t < yearTenThousand) :
    times.mapM parseStored = some times := by
  induction times with
  | nil => rfl
  | cons t rest ih =>
    obtain ⟨here, later⟩ := List.forall_mem_cons.mp readable
    have first : parseStored t = some t := by
      unfold parseStored
      rw [if_pos here]
    rw [List.mapM_cons, first, ih later]
    rfl

/-- The outcome of a call on the family: one limiter's map, the table and the log. -/
def nextFamily (f : Family) (i : Nat) (l : SlidingWindowLimiter) (database : Replicas)
    (e : Exchange) : Family :=
  ⟨f.memory.set i l, f.postgres, database, f.log ++ [e]⟩

variable {e : Exchange} {i j : Nat}

theorem enabled_next (member : f.memory[i]? = some l) (same : l'.disabled = l.disabled) (j : Nat) :
    enabledLimiter (nextFamily f i l' database e) j = enabledLimiter f j := by
  unfold enabledLimiter nextFamily
  by_cases here : i = j
  · subst here
    obtain ⟨inside, _⟩ := List.getElem?_eq_some_iff.mp member
    rw [List.getElem?_set_self inside, member]
    simp [same]
  · rw [List.getElem?_set_ne here]

/-- A limiter that owns a key after the call owned it before, and is the one called if
the call counts for the key. -/
theorem owns_next (member : f.memory[i]? = some l)
    (same : l'.disabled = l.disabled) (owns : Owns (nextFamily f i l' database e) j key) :
    Owns f j key ∧ (e.key = key → enabledLimiter f e.limiter = true → e.limiter = j) := by
  constructor
  · intro old logged about on
    exact owns old (List.mem_append_left _ logged) about
      (by rw [enabled_next member same]; exact on)
  · intro about on
    exact owns e List.mem_concat_self about (by rw [enabled_next member same]; exact on)

theorem config_next (sound : Sound f) (member : f.memory[i]? = some l)
    (same : l'.maxN = l.maxN ∧ l'.window = l.window ∧ l'.disabled = l.disabled)
    {lj : SlidingWindowLimiter} (here : (nextFamily f i l' database e).memory[j]? = some lj)
    (twin : f.postgres[j]? = some p) : SameConfig lj p := by
  rcases getElem?_set_cases here with ⟨rfl, rfl⟩ | ⟨_, old⟩
  · obtain ⟨maxN, window, disabled⟩ := sound.config j l p member twin
    exact ⟨same.1.trans maxN, same.2.1.trans window, same.2.2.trans disabled⟩
  · exact sound.config j lj p old twin

theorem idle_sound (sound : Sound f) (member : f.memory[call.limiter]? = some l)
    (idle : l.disabled = true ∨ call.key = "") (rows : database.rows = f.database.rows) :
    Sound (nextFamily f call.limiter l database
      ⟨call.limiter, call.key, call.now, none, none⟩) where
  config _ _ _ here twin := config_next sound member ⟨rfl, rfl, rfl⟩ here twin
  quiescent := by
    unfold nextFamily
    rw [rows]
    exact sound.quiescent
  readable := by
    unfold nextFamily
    rw [rows]
    exact sound.readable
  mirrored j lj key here on named owns := by
    have owned := (owns_next member rfl owns).1
    have old : f.memory[j]? = some lj := by
      rcases getElem?_set_cases here with ⟨rfl, rfl⟩ | ⟨_, old⟩
      · exact member
      · exact old
    unfold nextFamily
    rw [rows]
    exact sound.mirrored j lj key old on named owned
  agree := forall_mem_snoc sound.agree rfl

/-- A call that reaches both backends, on a key that no other limiter uses. -/
theorem busy_sound (sound : Sound f) (member : f.memory[call.limiter]? = some l)
    (twin : f.postgres[call.limiter]? = some p) (enabled : l.disabled = false)
    (named : call.key ≠ "") (whole : call.now % 1000 = 0) (roomy : l.evicts call.key = false)
    (owns : Owns f call.limiter call.key) (early : call.now < yearTenThousand)
    (ran : allowAlone ⟨rounding, p, 0⟩ f.database call.key call.now = some database) :
    Sound (nextFamily f call.limiter (l.allow call.key call.now call.order).1 database
      ⟨call.limiter, call.key, call.now, (l.allow call.key call.now call.order).2,
        lastResult database⟩) := by
  have config := sound.config call.limiter l p member twin
  have mirror := sound.mirrored call.limiter l call.key member enabled named owns
  have readable := sound.readable call.key
  obtain ⟨verdict, buckets⟩ := allow_decides call.now call.order config enabled named roomy
  obtain ⟨s', ran', clock, quiescent, logged, times⟩ := allowAlone_spec
    (d := ⟨rounding, p, 0⟩) (by rw [← config.2.2]; exact enabled) named (clock_le ran)
    sound.quiescent (mapM_readable (fun t among => (readable t among).2))
  rw [ran] at ran'
  cases ran'
  have kept : ∀ t ∈ (decideBucket p call.now (timesOf f.database.rows call.key)).1,
      t % 1000 = 0 ∧ t < yearTenThousand := by
    intro t among
    rcases mem_decideBucket among with old | rfl
    · exact readable t old
    · exact ⟨whole, early⟩
  simp only [map_round_whole rounding (fun t among => (kept t among).1)] at times
  rw [mirror] at verdict buckets
  have unchanged := allow_config l call.key call.now call.order
  refine ⟨?_, quiescent, ?_, ?_, ?_⟩
  · intro j lj pj here twin'
    exact config_next sound member ⟨unchanged.1, unchanged.2.1, unchanged.2.2.2⟩ here twin'
  · intro key t among
    unfold nextFamily at among
    rw [times] at among
    split at among
    · exact kept t among
    · exact sound.readable key t among
  · intro j lj key here on nonempty owns'
    obtain ⟨owned, caller⟩ := owns_next member unchanged.2.2.2 owns'
    unfold nextFamily
    rw [times]
    split
    next same =>
      have here' : call.limiter = j := by
        apply caller same.symm
        unfold enabledLimiter
        rw [member]
        simp [enabled]
      subst here'
      rcases getElem?_set_cases here with ⟨_, rfl⟩ | ⟨other, _⟩
      · rw [buckets, if_pos same]
      · exact absurd rfl other
    next other =>
      rcases getElem?_set_cases here with ⟨rfl, rfl⟩ | ⟨_, old⟩
      · rw [buckets, if_neg other]
        exact sound.mirrored _ l key member enabled nonempty owned
      · exact sound.mirrored j lj key old on nonempty owned
  · refine forall_mem_snoc sound.agree ?_
    unfold lastResult
    rw [logged]
    simp [verdict]

theorem owns_of_ownKey (checked : ownKey f call = true) (on : enabledLimiter f call.limiter = true)
    (named : call.key ≠ "") : Owns f call.limiter call.key ∧ call.now < yearTenThousand := by
  simp only [ownKey, on, named, Bool.not_true, decide_false, Bool.false_or, Bool.and_eq_true,
    decide_eq_true_eq, List.all_eq_true, Bool.or_eq_true, Bool.not_eq_true'] at checked
  refine ⟨?_, checked.2⟩
  intro e logged same counted
  rcases checked.1 e logged with (other | off) | here
  · exact absurd same other
  · rw [counted] at off
    cases off
  · exact here

theorem step_sound (sound : Sound f) (checked : ownKey f call = true)
    (taken : f.step rounding call = some f') : Sound f' := by
  obtain ⟨l, p, database, member, twin, whole, roomy, ran, rfl⟩ := step_eq_some taken
  by_cases idle : l.disabled = true ∨ call.key = ""
  · have config := sound.config call.limiter l p member twin
    have skipped := allowAlone_skipped (d := ⟨rounding, p, 0⟩)
      (by rw [← config.2.2]; exact idle) (clock_le ran)
    rw [ran] at skipped
    cases skipped
    rw [allow_idle idle]
    have answer : lastResult { f.database with
        clock := call.now
        calls := f.database.calls ++ [⟨call.key, call.now, .returned none⟩]
        log := f.database.log ++ [⟨call.key, call.now, none⟩] } = none := by
      simp [lastResult]
    rw [answer]
    exact idle_sound sound member idle rfl
  · have enabled : l.disabled = false := by simpa using fun on => idle (.inl on)
    have named : call.key ≠ "" := fun empty => idle (.inr empty)
    have on : enabledLimiter f call.limiter = true := by
      unfold enabledLimiter
      rw [member]
      simp [enabled]
    obtain ⟨owns, early⟩ := owns_of_ownKey checked on named
    exact busy_sound sound member twin enabled named whole roomy owns early ran

end Step

theorem initial_sound {specs : List LimiterSpec} {f : Family} (initial : f.Initial specs) :
    Sound f := by
  obtain ⟨memoryLength, _, built, database, log⟩ := initial
  have built' : ∀ (i : Nat) l, f.memory[i]? = some l → ∃ spec : LimiterSpec, ∃ p,
      f.postgres[i]? = some p ∧
      l = newSlidingWindowLimiter spec.maxN spec.window spec.mapCap ∧
      p = newPostgresSlidingWindowLimiter spec.maxN spec.window := by
    intro i l member
    obtain ⟨inside, _⟩ := List.getElem?_eq_some_iff.mp member
    rw [memoryLength] at inside
    obtain ⟨l', p, member', twin, inMemory, inTable⟩ :=
      built i specs[i] (List.getElem?_eq_getElem inside)
    rw [member] at member'
    cases member'
    cases inMemory
    cases inTable
    exact ⟨specs[i], _, twin, rfl, rfl⟩
  have blank : ∀ key, timesOf f.database.rows key = [] := by
    intro key
    rw [database.1]
    rfl
  refine ⟨?_, ?_, ?_, ?_, ?_⟩
  · intro i l p member twin
    obtain ⟨spec, p', twin', rfl, rfl⟩ := built' i l member
    rw [twin] at twin'
    cases twin'
    exact ⟨rfl, rfl, rfl⟩
  · intro key r found
    rw [database.1] at found
    cases found
  · intro key t among
    rw [blank] at among
    cases among
  · intro i l key member _ _ _
    obtain ⟨spec, _, _, rfl, _⟩ := built' i l member
    rw [blank]
    rfl
  · intro e logged
    rw [log] at logged
    cases logged

theorem answers_agree_of_own_keys (rounding : TimestampRounding) (specs : List LimiterSpec)
    {f : Family} (reached : ReachableUnder (Family.step rounding) (Family.Initial specs)
      (fun f call => ownKey f call = true) f) : AnswersAgree f := by
  have sound : Sound f := reached.invariant (fun _ initial => initial_sound initial)
    (fun _ _ _ sound checked taken => step_sound sound checked taken)
  exact sound.agree

/-- Rounding to the microsecond below. -/
def microsecondBelow : TimestampRounding where
  round t := t / 1000 * 1000
  mono a b le := by
    unfold Time at *
    omega
  whole t := by
    unfold Time at *
    omega
  exact t whole := by
    unfold Time at *
    omega

/-- One call a minute, and one a day. -/
def minuteAndDay : List LimiterSpec := [⟨1, 60000000000, 0⟩, ⟨1, 0, 0⟩]

def newFamily (specs : List LimiterSpec) : Family where
  memory := specs.map (fun c => newSlidingWindowLimiter c.maxN c.window c.mapCap)
  postgres := specs.map (fun c => newPostgresSlidingWindowLimiter c.maxN c.window)
  database := ⟨.empty _, 0, [], 0, []⟩
  log := []

theorem newFamily_initial (specs : List LimiterSpec) : (newFamily specs).Initial specs := by
  refine ⟨List.length_map _, List.length_map _, ?_, ⟨rfl, rfl, rfl, Int.le_refl 0⟩, rfl⟩
  intro i spec found
  refine ⟨_, _, ?_, ?_, rfl, rfl⟩
  · unfold newFamily
    rw [List.getElem?_map, found]
    rfl
  · unfold newFamily
    rw [List.getElem?_map, found]
    rfl

def answered (f : Family) : List (Option LimiterError × Option LimiterError) :=
  f.log.map (fun e => (e.memory, e.postgres))

def separateCalls : List FamilyCall :=
  [⟨0, "10.0.0.1", 1000, []⟩, ⟨1, "device|10.0.0.1", 1000, []⟩, ⟨0, "10.0.0.1", 2000, []⟩]

theorem answers_agree_separateCalls :
    ∃ f, ReachableUnder (Family.step microsecondBelow) (Family.Initial minuteAndDay)
        (fun f call => ownKey f call = true) f ∧
      answered f = [(none, none), (none, none), (some .errRateLimited, some .errRateLimited)] ∧
      AnswersAgree f := by
  obtain ⟨f, reached, same⟩ := exists_reachable_of_replay (Family.step microsecondBelow) ownKey
    (newFamily_initial minuteAndDay) separateCalls
    (fun f => answered f =
      [(none, none), (none, none), (some .errRateLimited, some .errRateLimited)])
    (by decide +kernel)
  exact ⟨f, reached, same,
    answers_agree_of_own_keys microsecondBelow minuteAndDay reached⟩

/-- Two limiters keyed by the same source address. -/
def sharedCalls : List FamilyCall := [⟨0, "10.0.0.1", 1000, []⟩, ⟨1, "10.0.0.1", 1000, []⟩]

theorem answers_differ_sharedCalls :
    ∃ f, Reachable (Family.step microsecondBelow) (Family.Initial minuteAndDay) f ∧
      answered f = [(none, none), (none, some .errRateLimited)] ∧ ¬ AnswersAgree f := by
  obtain ⟨f, reached, log⟩ := exists_reached_of_replay (Family.step microsecondBelow)
    (newFamily_initial minuteAndDay) sharedCalls
    (fun f => f.log = [⟨0, "10.0.0.1", 1000, none, none⟩,
      ⟨1, "10.0.0.1", 1000, none, some .errRateLimited⟩]) (by decide +kernel)
  refine ⟨f, reached, by rw [answered, log]; rfl, fun agree => ?_⟩
  have same := agree ⟨1, "10.0.0.1", 1000, none, some .errRateLimited⟩ (by rw [log]; simp)
  cases same

end Certctl.Guarantees.BackendEquivalence

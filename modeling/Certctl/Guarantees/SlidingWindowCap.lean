import Certctl.Lib.Transition
import Certctl.Source.RateLimit.SlidingWindow

/-!
The cap of the in-memory limiter over whole runs. `Allow` evicts whenever the map is
full, before it looks whether the key is already there, so a run over exactly as many
keys as the map holds forgets history that still counts, even the caller's own. In
every run in which an eviction removes no bucket with a timestamp still in the window,
no window of a key holds more than `maxN` allowed calls, and a rejected call has
`maxN` of them in the window before it.
-/
namespace Certctl.Guarantees.SlidingWindowCap

open Lib Lib.SlidingLog Source Source.RateLimit

/-- No window of a key holds more than `maxN` allowed calls. -/
def WindowsCapped (maxN : Int) (window : Time) (log : List Event) : Prop :=
  ∀ key, key ≠ "" → Capped maxN window (allowedTimes key log)

/-- Every rejected call follows `maxN` allowed calls of its key within the window. -/
def RejectionsEarned (maxN : Int) (window : Time) (log : List Event) : Prop :=
  ∀ before e after, log = before ++ e :: after → e.result = some .errRateLimited →
    maxN ≤ (allowedTimes e.key before).countP
      (fun t => decide (e.now - window ≤ t ∧ t ≤ e.now))

def Initial (maxN : Int) (window : Time) (mapCap : Int) (s : Sys) : Prop :=
  s.limiter = newSlidingWindowLimiter maxN window mapCap ∧ s.log = []

/-- The bucket a full map drops for this call, if any, has no timestamp in the window. -/
def harmlessEviction (s : Sys) (c : Call) : Bool :=
  decide (c.key = "") || s.limiter.buckets.rows.all (fun b =>
    ((s.limiter.afterEviction c.order).get? b.key).isSome ||
      b.timestamps.all (fun t => decide (t < c.now - s.limiter.window)))

structure Sound (maxN : Int) (window : Time) (s : Sys) : Prop where
  enabled : s.limiter.disabled = false
  config : s.limiter.maxN = maxN ∧ s.limiter.window = effectiveWindow window
  tracked : ∀ key, key ≠ "" → ∀ horizon, (∀ e ∈ s.log, e.now - effectiveWindow window ≤ horizon) →
    Tracks horizon (bucketOf s.limiter.buckets key) (allowedTimes key s.log)
  sorted : ∀ key, (bucketOf s.limiter.buckets key).Pairwise (· ≤ ·)
  known : ∀ key, ∀ t ∈ bucketOf s.limiter.buckets key, ∃ e ∈ s.log, e.now = t
  capped : WindowsCapped maxN (effectiveWindow window) s.log
  earned : RejectionsEarned maxN (effectiveWindow window) s.log

theorem initial_sound {maxN : Int} {window : Time} {mapCap : Int} (positive : 0 < maxN) {s : Sys}
    (initial : Initial maxN window mapCap s) : Sound maxN window s := by
  obtain ⟨limiter, log⟩ := s
  obtain ⟨rfl, rfl⟩ := initial
  refine ⟨decide_eq_false (by omega), ⟨rfl, rfl⟩, ?_, ?_, ?_, ?_, ?_⟩
  · intro key _ horizon _
    exact tracks_refl horizon []
  · intro key
    exact List.Pairwise.nil
  · intro key t member
    cases member
  · intro key _
    exact capped_nil (by omega)
  · intro before e after split
    simp at split

section Step

variable {maxN : Int} {window : Time} {s : Sys} {c : Call}

variable {key : String}

/-- What the eviction leaves of a bucket is the bucket or nothing. -/
theorem bucketOf_afterEviction {P : List Time → Prop} {l : SlidingWindowLimiter}
    {order : List Bucket} (none : P []) (before : P (bucketOf l.buckets key)) :
    P (bucketOf (l.afterEviction order) key) := by
  unfold bucketOf at before ⊢
  rcases get?_afterEviction l order key with same | gone
  · rw [same]
    exact before
  · rw [gone]
    exact none

/-- A harmless eviction forgets nothing that counts at the call. -/
theorem evicted_old (harmless : harmlessEviction s c = true) (named : c.key ≠ "")
    (gone : (s.limiter.afterEviction c.order).get? key = none) :
    ∀ t ∈ bucketOf s.limiter.buckets key, t < c.now - s.limiter.window := by
  intro t member
  unfold bucketOf at member
  cases found : s.limiter.buckets.get? key with
  | none =>
    rw [found] at member
    cases member
  | some b =>
    rw [found] at member
    obtain ⟨row, keyed⟩ := Table.get?_eq_some_iff.mp found
    unfold harmlessEviction at harmless
    rw [decide_eq_false named, Bool.false_or, List.all_eq_true] at harmless
    have kept := harmless b row
    rw [keyed, gone, Option.isSome_none, Bool.false_or, List.all_eq_true] at kept
    exact of_decide_eq_true (kept t member)

theorem tracked_afterEviction (sound : Sound maxN window s)
    (ordered : ∀ e ∈ s.log, e.now ≤ c.now) (harmless : harmlessEviction s c = true)
    (named : c.key ≠ "") (nonempty : key ≠ "") {horizon : Time}
    (recent : c.now - effectiveWindow window ≤ horizon) :
    Tracks horizon (bucketOf (s.limiter.afterEviction c.order) key) (allowedTimes key s.log) := by
  have before : Tracks horizon (bucketOf s.limiter.buckets key) (allowedTimes key s.log) := by
    apply sound.tracked key nonempty
    intro e member
    exact Int.le_trans (Int.sub_le_sub_right (ordered e member) _) recent
  rcases get?_afterEviction s.limiter c.order key with same | gone
  · rw [bucketOf, same]
    exact before
  · rw [bucketOf, gone]
    apply before.forget
    intro t member
    have old := evicted_old harmless named gone t member
    rw [sound.config.2] at old
    exact Int.lt_of_lt_of_le old recent

theorem sorted_afterEviction (sound : Sound maxN window s) (key : String) :
    (bucketOf (s.limiter.afterEviction c.order) key).Pairwise (· ≤ ·) :=
  bucketOf_afterEviction .nil (sound.sorted key)

theorem known_afterEviction (sound : Sound maxN window s) (key : String) :
    ∀ t ∈ bucketOf (s.limiter.afterEviction c.order) key, ∃ e ∈ s.log, e.now = t :=
  bucketOf_afterEviction (P := fun times => ∀ t ∈ times, ∃ e ∈ s.log, e.now = t) (by simp)
    (sound.known key)

variable {result : Option LimiterError} {bucket added : List Time} {log : List Event}

/-- The last call is judged against the whole log before it. -/
theorem earned_append {e : Event} (earned : RejectionsEarned maxN window log)
    (last : e.result = some .errRateLimited → maxN ≤ (allowedTimes e.key log).countP
      (fun t => decide (e.now - window ≤ t ∧ t ≤ e.now))) :
    RejectionsEarned maxN window (log ++ [e]) := by
  intro before e' after whole rejected
  rcases List.eq_nil_or_concat after with rfl | ⟨rest, final, rfl⟩
  · obtain ⟨rfl, tail⟩ := List.append_inj' whole rfl
    cases tail
    exact last rejected
  · have whole' : log ++ [e] = (before ++ e' :: rest) ++ [final] := by
      rw [whole]
      simp
    obtain ⟨shorter, _⟩ := List.append_inj' whole' rfl
    exact earned before e' rest shorter rejected

theorem stamped_append {last : Event} {t : Time} (stamped : ∃ e ∈ log, e.now = t) :
    ∃ e ∈ log ++ [last], e.now = t :=
  stamped.imp fun _ old => ⟨List.mem_append_left _ old.1, old.2⟩

/-- A call that does not reach the map: an enabled limiter skips the empty key only, and
the log of every other key stays as it is. -/
theorem skipped_sound (sound : Sound maxN window s) (unnamed : c.key = "") :
    Sound maxN window ⟨s.limiter, s.log ++ [⟨c.key, c.now, none⟩]⟩ := by
  have same : ∀ key, key ≠ "" →
      allowedTimes key (s.log ++ [⟨c.key, c.now, none⟩]) = allowedTimes key s.log := by
    intro key named
    have other : ¬ (c.key = key ∧ (none : Option LimiterError) = none) := by
      rintro ⟨rfl, _⟩
      exact named unnamed
    rw [allowedTimes_append, if_neg other, List.append_nil]
  refine ⟨sound.enabled, sound.config, ?_, sound.sorted, ?_, ?_, ?_⟩
  · intro key named horizon above
    rw [same key named]
    exact sound.tracked key named horizon (fun e member => above e (List.mem_append_left _ member))
  · intro key t member
    exact stamped_append (sound.known key t member)
  · intro key named
    rw [same key named]
    exact sound.capped key named
  · apply earned_append sound.earned
    intro rejected
    cases rejected

/-- The two ways to end a call on the map: the pruned bucket has room and the time is
added to it, or it is full. -/
def Decides (maxN : Int) (now : Time) (bucket added : List Time) (result : Option LimiterError) :
    Prop :=
  (bucket.length : Int) < maxN ∧ added = [now] ∧ result = none ∨
    maxN ≤ bucket.length ∧ added = [] ∧ result = some .errRateLimited

theorem allowedTimes_decided {now : Time} (decides : Decides maxN now bucket added result) :
    allowedTimes key (log ++ [⟨key, now, result⟩]) = allowedTimes key log ++ added := by
  rw [allowedTimes_append]
  rcases decides with ⟨_, rfl, rfl⟩ | ⟨_, rfl, rfl⟩
  · simp
  · simp

theorem written_sound (sound : Sound maxN window s) (ordered : ∀ e ∈ s.log, e.now ≤ c.now)
    (harmless : harmlessEviction s c = true) (named : c.key ≠ "")
    (pruned : bucket = pruneOlderThan (bucketOf (s.limiter.afterEviction c.order) c.key)
      (c.now - s.limiter.window)) (decides : Decides maxN c.now bucket added result) :
    Sound maxN window ⟨{ s.limiter with
          buckets := (s.limiter.afterEviction c.order).upsert ⟨c.key, bucket ++ added⟩ },
        s.log ++ [⟨c.key, c.now, result⟩]⟩ := by
  rw [sound.config.2] at pruned
  have tracked : Tracks (c.now - effectiveWindow window) bucket (allowedTimes c.key s.log) := by
    rw [pruned]
    exact (tracked_afterEviction sound ordered harmless named named (Int.le_refl _)).dropWhile
  have sortedBucket : bucket.Pairwise (· ≤ ·) := by
    rw [pruned]
    exact (sorted_afterEviction sound c.key).sublist (List.dropWhile_sublist _)
  have knownBucket : ∀ t ∈ bucket, ∃ e ∈ s.log, e.now = t := by
    intro t member
    rw [pruned] at member
    exact known_afterEviction sound c.key t ((List.dropWhile_sublist _).subset member)
  have addedNow : ∀ t ∈ added, t = c.now := by
    intro t member
    rcases decides with ⟨_, rfl, _⟩ | ⟨_, rfl, _⟩
    · exact List.mem_singleton.mp member
    · cases member
  refine ⟨sound.enabled, sound.config, ?_, ?_, ?_, ?_, ?_⟩
  · intro key nonempty horizon above
    have recent : c.now - effectiveWindow window ≤ horizon :=
      above ⟨c.key, c.now, result⟩ List.mem_concat_self
    rw [bucketOf_upsert]
    split
    next same =>
      subst same
      rw [allowedTimes_decided decides]
      exact (tracked.advance recent).append added
    next other =>
      rw [allowedTimes_append, if_neg (fun h => other h.1.symm), List.append_nil]
      exact tracked_afterEviction sound ordered harmless named nonempty recent
  · intro key
    rw [bucketOf_upsert]
    split
    next =>
      apply List.pairwise_append.mpr
      refine ⟨sortedBucket, ?_, ?_⟩
      · rcases decides with ⟨_, rfl, _⟩ | ⟨_, rfl, _⟩
        · exact List.pairwise_singleton _ _
        · exact List.Pairwise.nil
      · intro t old t' new
        obtain ⟨e, logged, rfl⟩ := knownBucket t old
        rw [addedNow t' new]
        exact ordered e logged
    next => exact sorted_afterEviction sound key
  · intro key t member
    rw [bucketOf_upsert] at member
    split at member
    next =>
      rcases List.mem_append.mp member with old | new
      · exact stamped_append (knownBucket t old)
      · exact ⟨⟨c.key, c.now, result⟩, List.mem_concat_self, (addedNow t new).symm⟩
    next => exact stamped_append (known_afterEviction sound key t member)
  · intro key nonempty
    by_cases same : c.key = key
    · subst same
      rw [allowedTimes_decided decides]
      rcases decides with ⟨room, rfl, _⟩ | ⟨_, rfl, _⟩
      · exact (sound.capped c.key nonempty).append (tracked.covers.room room)
      · rw [List.append_nil]
        exact sound.capped c.key nonempty
    · rw [allowedTimes_append, if_neg (fun h => same h.1), List.append_nil]
      exact sound.capped key nonempty
  · apply earned_append sound.earned
    intro rejected
    rcases decides with ⟨_, _, rfl⟩ | ⟨full, _, _⟩
    · cases rejected
    · have recent : ∀ t ∈ bucket, c.now - effectiveWindow window ≤ t := by
        intro t member
        rw [pruned] at member
        exact le_of_mem_dropWhile (sorted_afterEviction sound c.key) member
      have long := tracked.full recent full
      rw [List.countP_congr] at long
      · exact long
      · intro t member
        obtain ⟨e, logged, rfl⟩ := allowedTimes_mem member
        simp [ordered e logged]

theorem step_sound {s' : Sys} (sound : Sound maxN window s)
    (harmless : harmlessEviction s c = true) (taken : s.step c = some s') :
    Sound maxN window s' := by
  obtain ⟨ordered, rfl⟩ := step_eq_some taken
  unfold Sys.after
  have effect := allow_effect s.limiter c.key c.now c.order
  generalize s.limiter.allow c.key c.now c.order = result at effect
  cases effect with
  | skipped idle =>
    rcases idle with disabled | unnamed
    · rw [sound.enabled] at disabled
      cases disabled
    · exact skipped_sound sound unnamed
  | rejected _ named bucket pruned full =>
    rw [sound.config.1] at full
    have sound' := written_sound sound ordered harmless named pruned (.inr ⟨full, rfl, rfl⟩)
    rw [List.append_nil] at sound'
    exact sound'
  | recorded _ named bucket pruned room =>
    rw [sound.config.1] at room
    exact written_sound sound ordered harmless named pruned (.inl ⟨room, rfl, rfl⟩)

end Step

theorem windows_capped_of_harmless (maxN : Int) (window : Time) (mapCap : Int)
    (positive : 0 < maxN) {s : Sys}
    (reached : ReachableUnder Sys.step (Initial maxN window mapCap)
      (fun s c => harmlessEviction s c = true) s) :
    WindowsCapped maxN (effectiveWindow window) s.log ∧
      RejectionsEarned maxN (effectiveWindow window) s.log := by
  have sound : Sound maxN window s := reached.invariant
    (fun _ initial => initial_sound positive initial)
    (fun _ _ _ sound harmless taken => step_sound sound harmless taken)
  exact ⟨sound.capped, sound.earned⟩

def newSys (maxN : Int) (window : Time) (mapCap : Int) : Sys :=
  ⟨newSlidingWindowLimiter maxN window mapCap, []⟩

theorem newSys_initial (maxN : Int) (window : Time) (mapCap : Int) :
    Initial maxN window mapCap (newSys maxN window mapCap) :=
  ⟨rfl, rfl⟩

def results (s : Sys) : List (Option LimiterError) := s.log.map Event.result

/-- Two keys in a map of three: the third call of a key is over the limit, and a window
later it is allowed again. -/
def roomyRun : List Call :=
  [⟨"k", 0, []⟩, ⟨"k", 1, [⟨"k", [0]⟩]⟩, ⟨"j", 1, [⟨"k", [0, 1]⟩]⟩,
    ⟨"k", 2, [⟨"k", [0, 1]⟩, ⟨"j", [1]⟩]⟩, ⟨"k", 12, [⟨"j", [1]⟩, ⟨"k", [0, 1]⟩]⟩]

theorem windows_capped_roomyRun :
    ∃ s, ReachableUnder Sys.step (Initial 2 10 3) (fun s c => harmlessEviction s c = true) s ∧
      results s = [none, none, none, some .errRateLimited, none] ∧
      WindowsCapped 2 (effectiveWindow 10) s.log ∧
      RejectionsEarned 2 (effectiveWindow 10) s.log := by
  obtain ⟨s, reached, answered⟩ := exists_reachable_of_replay Sys.step harmlessEviction
    (newSys_initial 2 10 3) roomyRun
    (fun s => results s = [none, none, none, some .errRateLimited, none]) (by decide +kernel)
  exact ⟨s, reached, answered,
    windows_capped_of_harmless 2 10 3 (by decide) reached⟩

/-- Distinct non-empty keys of a run. -/
def touchedKeys (log : List Event) : List String :=
  ((log.map Event.key).filter (fun key => decide (key ≠ ""))).dedup

/-- A map of one bucket and a single key: the second call evicts the bucket it is about
to read, and both calls of one window are allowed. -/
def fullRun : List Call := [⟨"k", 0, []⟩, ⟨"k", 1, [⟨"k", [0]⟩]⟩]

theorem cap_exceeded_fullRun :
    ∃ s, Reachable Sys.step (Initial 1 10 1) s ∧ (touchedKeys s.log).length ≤ 1 ∧
      ¬ WindowsCapped 1 (effectiveWindow 10) s.log := by
  obtain ⟨s, reached, few, both⟩ := exists_reached_of_replay Sys.step (newSys_initial 1 10 1)
    fullRun (fun s => (touchedKeys s.log).length ≤ 1 ∧ allowedTimes "k" s.log = [0, 1])
    (by decide +kernel)
  refine ⟨s, reached, few, fun capped => ?_⟩
  have bound := capped "k" (by decide) 0
  rw [both] at bound
  revert bound
  decide

end Certctl.Guarantees.SlidingWindowCap

import Certctl.Source.Scep.NonceTrack

/-!
The replay cache under every interleaving of its callers and sweeps. Load and store are
two steps, so two callers that both miss a fresh nonce are both told it is fresh, and
the counter then counts one entry twice; the source calls the counter approximate. What
holds below capacity: the counter never falls behind the stored entries; and for a nonce
whose calls do not overlap each other or a sweep that is about to delete it, two calls
within the TTL are never both told it is fresh. If that is so for every nonce, the
counter is exact whenever no call is under way.
-/
namespace Certctl.Guarantees.ReplayCacheRaces

open Lib Source Source.Scep

/-- Of two calls for the nonce that were told it is fresh, one is a TTL after the other. -/
def OnceWithinTTL (nonce : String) (s : CacheSys) : Prop :=
  ∀ (i j : Nat) (a b : Time), i ≠ j → s.threads[i]? = some (.check nonce a (.returned true)) →
    s.threads[j]? = some (.check nonce b (.returned true)) →
    a + s.cache.ttl ≤ b ∨ b + s.cache.ttl ≤ a

def Quiescent (s : CacheSys) : Prop := ∀ thread ∈ s.threads, thread.idle = true

/-- The thread stands between a change of the map and the matching change of the
counter. -/
def owing : Thread → Bool
  | .check _ _ .uncount => true
  | .check _ _ .store => true
  | .sweep _ _ _ uncounting _ => uncounting
  | _ => false

/-- Entries stored or on their way in or out of the count. -/
def owed (s : CacheSys) : Int := s.cache.entries.rows.length + s.threads.countP owing

/-- The entry a step stores is new to the map. -/
def FreshStore (s : CacheSys) (a : CacheAction) : Prop :=
  ∀ t nonce now, a = .store t → s.threads[t]? = some (.check nonce now .store) →
    s.cache.entries.get? nonce = none

section Counter

variable {s s' : CacheSys} {a : CacheAction}

theorem length_drop (c : ReplayCache) (nonce : String) :
    ((c.drop nonce).entries.rows.length : Int) +
      (if (c.entries.get? nonce).isSome then 1 else 0) = c.entries.rows.length := by
  unfold ReplayCache.drop
  cases present : c.entries.get? nonce with
  | none => simp [Table.delete_absent present]
  | some e =>
    have shorter := Table.length_delete present
    simp only [Option.isSome_some, if_true]
    omega

theorem length_store (c : ReplayCache) (nonce : String) (now : Time) :
    ((c.store nonce now).entries.rows.length : Int) +
      (if (c.entries.get? nonce).isSome then 1 else 0) = c.entries.rows.length + 1 := by
  have dropped := length_drop c nonce
  unfold ReplayCache.store
  rw [Table.length_upsert]
  simp only [ReplayCache.drop] at dropped ⊢
  omega

/-- The counter against what is owed, across a step. -/
def Balanced (s : CacheSys) (a : CacheAction) (s' : CacheSys) : Prop :=
  owed s' + s.cache.size ≤ owed s + s'.cache.size ∧
    (FreshStore s a → owed s' + s.cache.size = owed s + s'.cache.size)

variable {thread : Thread} {t : Nat}

/-- When a thread moves on, the map and that thread settle the balance; `ahead` is what
the counter gains. -/
theorem balanced_move {old new : Thread} {cache : ReplayCache}
    (current : s.threads[t]? = some old) (ahead : Int)
    (change : cache.entries.rows.length + (if owing new then 1 else 0) + s.cache.size + ahead =
      s.cache.entries.rows.length + (if owing old then 1 else 0) + cache.size)
    (forward : 0 ≤ ahead) (exact : FreshStore s a → ahead = 0) :
    Balanced s a (s.move t new cache) := by
  have moved := countP_set_add owing new current
  have total : owed (s.move t new cache) + s.cache.size + ahead = owed s + cache.size := by
    unfold owed CacheSys.move
    split at moved <;> split at moved <;> simp_all <;> omega
  refine ⟨?_, ?_⟩
  · simp only [CacheSys.move] at total ⊢
    omega
  · intro fresh
    have none := exact fresh
    simp only [CacheSys.move] at total ⊢
    omega

/-- A thread that drops an entry owes it if it was there. -/
theorem balanced_drop {old new : Thread} {nonce : String} (current : s.threads[t]? = some old)
    (free : owing old = false) (owes : owing new = (s.cache.entries.get? nonce).isSome) :
    Balanced s a (s.move t new (s.cache.drop nonce)) := by
  refine balanced_move current 0 ?_ (Int.le_refl 0) (fun _ => rfl)
  have shorter := length_drop s.cache nonce
  rw [← owes] at shorter
  simp only [free, Bool.false_eq_true, if_false, ReplayCache.drop] at shorter ⊢
  omega

theorem balanced_start (idle : owing thread = false) :
    Balanced s a { s with threads := s.threads ++ [thread] } := by
  unfold Balanced owed
  simp only [List.countP_append, List.countP_singleton, idle, Bool.false_eq_true, if_false]
  omega

/-- A thread that has an entry to uncount finds the counter positive. -/
theorem uncount_size (enough : owed s ≤ s.cache.size)
    (current : s.threads[t]? = some thread) (owes : owing thread = true) :
    s.cache.uncount.size = s.cache.size - 1 ∧ s.cache.uncount.entries = s.cache.entries := by
  have counted : 0 < s.threads.countP owing :=
    List.countP_pos_iff.mpr ⟨thread, List.mem_of_getElem? current, owes⟩
  have positive : 0 < s.cache.size := by
    unfold owed at enough
    omega
  unfold ReplayCache.uncount
  rw [if_pos positive]
  exact ⟨rfl, rfl⟩

section

variable (below : belowCapacity s a = true)

include below

/-- No step lets the counter fall behind what is owed, and only a store over an entry
that is already there lets it run ahead. -/
theorem balance_step (enough : owed s ≤ s.cache.size) (effect : Effect s a s') :
    Balanced s a s' := by
  cases effect with
  | started =>
    apply balanced_start
    split <;> rfl
  | sweepStarted => exact balanced_start rfl
  | loaded current =>
    refine balanced_move current 0 ?_ (Int.le_refl 0) (fun _ => rfl)
    unfold ReplayCache.afterLoad
    split
    · simp [owing]
    · split <;> simp [owing]
  | dropped current =>
    refine balanced_drop current rfl ?_
    split <;> simp_all [owing]
  | swept current => exact balanced_drop current rfl rfl
  | uncounted current | sweepUncounted current =>
    refine balanced_move current 0 ?_ (Int.le_refl 0) (fun _ => rfl)
    obtain ⟨size, entries⟩ := uncount_size enough current rfl
    rw [size, entries]
    simp only [owing, if_true, Bool.false_eq_true, if_false]
    omega
  | counted current made =>
    have full := count_below (of_decide_eq_true below) made
    subst full
    refine balanced_move current 0 ?_ (Int.le_refl 0) (fun _ => rfl)
    simp only [owing, if_true, Bool.false_eq_true, if_false]
    omega
  | @stored t nonce now current =>
    have longer := length_store s.cache nonce now
    refine balanced_move current (if (s.cache.entries.get? nonce).isSome then 1 else 0) ?_ ?_ ?_
    · simp only [owing, if_true, Bool.false_eq_true, if_false]
      simp only [ReplayCache.store] at longer ⊢
      omega
    · split <;> omega
    · intro fresh
      rw [fresh t nonce now rfl current]
      rfl
  | observed current found =>
    refine balanced_move current 0 ?_ (Int.le_refl 0) (fun _ => rfl)
    rw [Int.add_zero]
    rfl

/-- The counter covers what is owed and stays within the capacity. -/
structure Covered (s : CacheSys) : Prop where
  enough : owed s ≤ s.cache.size
  room : s.cache.size ≤ s.cache.cap

theorem room_step (room : s.cache.size ≤ s.cache.cap) (effect : Effect s a s') :
    s'.cache.size ≤ s'.cache.cap := by
  have uncounted : s.cache.uncount.size ≤ s.cache.uncount.cap := by
    rw [uncount_cap]
    exact Int.le_trans (uncount_size_le _) room
  cases effect with
  | counted current made =>
    have free : s.cache.size < s.cache.cap := of_decide_eq_true below
    rw [count_below free made]
    simp only [CacheSys.move]
    omega
  | uncounted | sweepUncounted => exact uncounted
  | _ => exact room

theorem covered_step (covered : Covered s) (effect : Effect s a s') : Covered s' where
  enough := by
    have balance := (balance_step below covered.enough effect).1
    have before := covered.enough
    omega
  room := room_step below covered.room effect

end

theorem covered_initial {ttl : Time} {capHint : Int} (initial : Initial ttl capHint s) :
    Covered s := by
  obtain ⟨cache, threads⟩ := initial
  constructor
  · simp [owed, cache, threads, newReplayCache, Table.empty]
  · simp only [cache, newReplayCache]
    split <;> omega

end Counter

section Once

variable {s s' : CacheSys} {a : CacheAction} {n : String}

theorem tracked_initial {ttl : Time} {capHint : Int} (initial : Initial ttl capHint s) :
    Track.Sound s.cache.ttl (s.track n) := by
  obtain ⟨cache, threads⟩ := initial
  have blank : s.track n = ⟨[], none⟩ := by
    simp [CacheSys.track, cache, threads, newReplayCache]
  rw [blank]
  exact Track.sound_nil

theorem tracked_step (named : n ≠ "") (below : belowCapacity s a = true)
    (separate : apart n s a = true) (sound : Track.Sound s.cache.ttl (s.track n))
    (effect : Effect s a s') : Track.Sound s'.cache.ttl (s'.track n) := by
  rw [step_ttl effect]
  exact sound.step (track_step named below separate effect)

theorem onceWithinTTL_of_tracked (sound : Track.Sound s.cache.ttl (s.track n)) :
    OnceWithinTTL n s := by
  intro i j a b distinct found found'
  have seen : ∀ (i : Nat) (a : Time), s.threads[i]? = some (.check n a (.returned true)) →
      (s.track n).views[i]? = some (.accepted a) := by
    intro i a found
    rw [view_at found]
    simp [Thread.view, Progress.view]
  by_cases lasting : 0 ≤ s.cache.ttl
  · exact sound.once lasting i j a b distinct (seen i a found) (seen j b found')
  · unfold Time at *
    omega

end Once

section Exact

variable {s s' : CacheSys} {a : CacheAction}

/-- Only calls for a nonce that is not empty reach the map. -/
def Named (s : CacheSys) : Prop :=
  ∀ nonce now progress, .check nonce now progress ∈ s.threads → nonce = "" →
    progress = .returned true

theorem named_move {cache : ReplayCache} {t : Nat} {new : Thread} (known : Named s)
    (named : ∀ nonce now progress, .check nonce now progress = new → nonce ≠ "") :
    Named (s.move t new cache) := by
  intro nonce now progress member empty
  rcases List.mem_or_eq_of_mem_set member with stayed | equal
  · exact known nonce now progress stayed empty
  · exact absurd empty (named nonce now progress equal)

theorem named_step (known : Named s) (effect : Effect s a s') : Named s' := by
  cases effect with
  | started | sweepStarted =>
    intro nonce' now' progress member empty
    rcases mem_snoc member with stayed | equal
    · exact known nonce' now' progress stayed empty
    · cases equal <;> rw [if_pos empty]
  | loaded current | dropped current | uncounted current | counted current made | stored current =>
    refine named_move known ?_
    rintro _ _ _ ⟨⟩ empty
    cases known _ _ _ (List.mem_of_getElem? current) empty
  | swept current | sweepUncounted current | observed current found =>
    exact named_move known (by simp)

/-- A call that is about to store has met or made the nonce absent, and nobody else has
stored it since. -/
theorem freshStore_of_tracked (known : Named s)
    (tracked : ∀ n, n ≠ "" → Track.Sound s.cache.ttl (s.track n)) : FreshStore s a := by
  intro t nonce now _ current
  have named : nonce ≠ "" := by
    intro empty
    cases known nonce now .store (List.mem_of_getElem? current) empty
  have clearing : (s.track nonce).views[t]? = some (.clearing now) := by
    rw [view_at current]
    simp [Thread.view, Progress.view]
  have absent := (tracked nonce named).cleared now (List.mem_of_getElem? clearing)
  simpa [CacheSys.track] using absent

/-- With all calls kept apart the counter is what is owed. -/
structure Settled (s : CacheSys) : Prop where
  exact : owed s = s.cache.size
  named : Named s
  tracked : ∀ n, n ≠ "" → Track.Sound s.cache.ttl (s.track n)

theorem settled_initial {ttl : Time} {capHint : Int} (initial : Initial ttl capHint s) :
    Settled s where
  exact := by
    obtain ⟨cache, threads⟩ := initial
    simp [owed, cache, threads, newReplayCache, Table.empty]
  named := by
    obtain ⟨_, threads⟩ := initial
    intro nonce now progress member
    rw [threads] at member
    cases member
  tracked n _ := tracked_initial initial

theorem settled_step (below : belowCapacity s a = true) (separate : allApart s a = true)
    (settled : Settled s) (effect : Effect s a s') : Settled s' where
  exact := by
    have fresh := freshStore_of_tracked (a := a) settled.named settled.tracked
    have balance := (balance_step below (Int.le_of_eq settled.exact) effect).2 fresh
    have before := settled.exact
    omega
  named := named_step settled.named effect
  tracked n named :=
    tracked_step named below (apart_of_allApart named separate) (settled.tracked n named) effect

/-- When no call is under way nothing is owed beyond the entries. -/
theorem owed_quiescent (quiescent : Quiescent s) : owed s = s.cache.entries.rows.length := by
  have idle : s.threads.countP owing = 0 := by
    apply List.countP_eq_zero.mpr
    intro thread member owes
    have resting := quiescent thread member
    unfold owing at owes
    split at owes
    · cases resting
    · cases resting
    · subst owes
      simp [Thread.idle] at resting
    · cases owes
  unfold owed
  omega

end Exact

theorem fresh_once_and_counted (ttl : Time) (capHint : Int) :
    (∀ s, ReachableUnder step (Initial ttl capHint) (fun s a => belowCapacity s a = true) s →
      s.cache.entries.rows.length ≤ s.cache.size ∧ s.cache.size ≤ s.cache.cap) ∧
    (∀ n s, n ≠ "" →
      ReachableUnder step (Initial ttl capHint)
        (fun s a => (belowCapacity s a && apart n s a) = true) s → OnceWithinTTL n s) ∧
    (∀ s, ReachableUnder step (Initial ttl capHint)
        (fun s a => (belowCapacity s a && allApart s a) = true) s →
      Quiescent s → s.cache.size = s.cache.entries.rows.length) := by
  refine ⟨fun s reached => ?_, fun n s named reached => ?_, fun s reached quiescent => ?_⟩
  · have covered : Covered s := reached.invariant (fun _ => covered_initial)
      (fun _ _ _ covered below taken => covered_step below covered (step_effect taken))
    have enough := covered.enough
    unfold owed at enough
    exact ⟨by omega, covered.room⟩
  · apply onceWithinTTL_of_tracked
    refine reached.invariant (I := fun s => Track.Sound s.cache.ttl (s.track n))
      (fun _ => tracked_initial) (fun s a s' sound ok taken => ?_)
    obtain ⟨below, separate⟩ := Bool.and_eq_true_iff.mp ok
    exact tracked_step named below separate sound (step_effect taken)
  · have settled : Settled s := by
      refine reached.invariant (fun _ => settled_initial) (fun s a s' settled ok taken => ?_)
      obtain ⟨below, separate⟩ := Bool.and_eq_true_iff.mp ok
      exact settled_step below separate settled (step_effect taken)
    rw [← settled.exact]
    exact owed_quiescent quiescent

/-- An empty cache of two entries with a TTL of ten. -/
def smallCache : CacheSys := ⟨newReplayCache 10 2, []⟩

theorem smallCache_initial : Initial 10 2 smallCache := ⟨rfl, rfl⟩

/-- The answers given so far. -/
def answered (s : CacheSys) : List (Option Bool) :=
  s.threads.map (fun thread => match thread with
    | .check _ _ (.returned fresh) => some fresh
    | _ => none)

/-- A call for the nonce that finds it absent, and stores it. -/
def stored (t : Nat) (now : Time) : List CacheAction :=
  [.checkAndInsert "n" now, .load t, .count t "", .store t]

/-- A first use, a replay, a sweep that finds the nonce expired, and a use after it. -/
def apartRun : List CacheAction :=
  stored 0 0 ++ [.checkAndInsert "n" 9, .load 1, .sweep 12, .observe 2 "n", .drop 2, .uncount 2] ++
    stored 3 12

/-- Instances for the nonce, the counter and the map at the end of that run. -/
theorem fresh_once_and_counted_apartRun :
    ∃ s, Reachable step (Initial 10 2) s ∧
      answered s = [some true, some false, none, some true] ∧
      (s.cache.entries.rows.length ≤ s.cache.size ∧ s.cache.size ≤ s.cache.cap) ∧
      OnceWithinTTL "n" s ∧ s.cache.size = s.cache.entries.rows.length := by
  obtain ⟨s, reached, answers, idle⟩ := exists_reachable_of_replay step
    (fun s a => belowCapacity s a && apart "n" s a && allApart s a) smallCache_initial apartRun
    (fun s => answered s = [some true, some false, none, some true] ∧
      ∀ thread ∈ s.threads, thread.idle = true) (by decide +kernel)
  obtain ⟨covered, once, exact⟩ := fresh_once_and_counted 10 2
  refine ⟨s, reached.unrestricted, answers, covered s (reached.mono ?_),
    once "n" s (by decide) (reached.mono ?_), exact s (reached.mono ?_) idle⟩
  all_goals
    intro s a ok
    simp only [Bool.and_eq_true] at ok ⊢
    simp [ok]

/-- Two calls have been told that the nonce is fresh, the second less than a TTL after the
first. -/
def FreshTwice (nonce : String) (i j : Nat) (a b : Time) (s : CacheSys) : Prop :=
  i < j ∧ a ≤ b ∧ b < a + s.cache.ttl ∧
    s.threads[i]? = some (.check nonce a (.returned true)) ∧
    s.threads[j]? = some (.check nonce b (.returned true))

instance (nonce : String) (i j : Nat) (a b : Time) : DecidablePred (FreshTwice nonce i j a b) :=
  fun _ => inferInstanceAs (Decidable (_ ∧ _))

theorem FreshTwice.not_once {nonce : String} {i j : Nat} {a b : Time} {s : CacheSys}
    (twice : FreshTwice nonce i j a b s) : ¬ OnceWithinTTL nonce s := by
  obtain ⟨distinct, ordered, close, first, second⟩ := twice
  intro once
  have later := once i j a b (Nat.ne_of_lt distinct) first second
  unfold Time at *
  omega

/-- Two calls for one fresh nonce, both past the load before either stores. -/
def racingRun : List CacheAction :=
  [.checkAndInsert "n" 0, .checkAndInsert "n" 0, .load 0, .load 1, .count 0 "", .count 1 "",
    .store 0, .store 1]

theorem fresh_twice_racingRun :
    ∃ s, ReachableUnder step (Initial 10 2) (fun s a => belowCapacity s a = true) s ∧
      ¬ OnceWithinTTL "n" s ∧ Quiescent s ∧ s.cache.size ≠ s.cache.entries.rows.length := by
  obtain ⟨s, reached, twice, quiescent, miscounted⟩ := exists_reachable_of_replay step
    belowCapacity smallCache_initial racingRun (fun s => FreshTwice "n" 0 1 0 0 s ∧
      (∀ thread ∈ s.threads, thread.idle = true) ∧
      s.cache.size ≠ s.cache.entries.rows.length) (by decide +kernel)
  exact ⟨s, reached, twice.not_once, quiescent, miscounted⟩

/-- The empty nonce is never stored. -/
def emptyRun : List CacheAction := [.checkAndInsert "" 0, .checkAndInsert "" 1]

/-- A sweep finds the nonce expired, before or after a call looks at it, and deletes it once
the call has stored it again. -/
def sweptRun (before : Bool) : List CacheAction :=
  stored 0 0 ++ [.sweep 12] ++ (if before then [.observe 1 "n"] else []) ++
    [.checkAndInsert "n" 12, .load 2] ++ (if before then [] else [.observe 1 "n"]) ++
    [.drop 2, .uncount 2, .count 2 "", .store 2, .drop 1, .uncount 1] ++ stored 3 13

/-- A sweep has deleted the nonce, and has nothing left to delete, when a call comes whose
reading of the clock is older than that of the sweep. -/
def outrunRun : List CacheAction :=
  stored 0 0 ++ [.sweep 12, .observe 1 "n", .drop 1, .uncount 1] ++ stored 2 5

/-- Each exclusion is needed. A sweep of the model may always observe once more, so one whose
reading is later shuts out a call also when it has run to its end; the last run shows that
this is as it should be. -/
theorem fresh_twice_excludedRuns :
    ∀ run ∈ [("", emptyRun), ("n", sweptRun true), ("n", sweptRun false), ("n", outrunRun)],
      ∃ s, replay step belowCapacity smallCache run.2 = some s ∧ ¬ OnceWithinTTL run.1 s := by
  have ends {nonce : String} {run : List CacheAction} (i j : Nat) (a b : Time)
      (twice : ∃ s, replay step belowCapacity smallCache run = some s ∧
        FreshTwice nonce i j a b s) :
      ∃ s, replay step belowCapacity smallCache run = some s ∧ ¬ OnceWithinTTL nonce s :=
    twice.imp fun _ => And.imp_right FreshTwice.not_once
  simp only [List.forall_mem_cons, List.not_mem_nil, false_imp_iff, implies_true, and_true]
  exact ⟨ends 0 1 0 1 (by decide +kernel), ends 2 3 12 13 (by decide +kernel),
    ends 2 3 12 13 (by decide +kernel), ends 0 2 0 5 (by decide +kernel)⟩

end Certctl.Guarantees.ReplayCacheRaces

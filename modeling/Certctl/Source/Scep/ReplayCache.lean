import Certctl.Lib.Table
import Certctl.Lib.Transition
import Certctl.Source.Domain

/-!
The in-memory cache of challenge nonces, under any number of concurrent callers. Each
operation of the concurrent map and each section under the mutex is one step; a caller
stands between two of them. A sweep visits the map key by key: it observes an entry at
some step, and the deletes of the keys it found expired follow later. At capacity the
entry with the least expiry goes; among equals the map may visit any first, so the
counting step names its victim.

Source: internal/scep/intune/replay.go.
-/
namespace Certctl.Source.Scep

open Lib

structure Entry where
  nonce : String
  expiry : Time

structure ReplayCache where
  entries : Table Entry.nonce
  size : Int
  cap : Int
  ttl : Time

def newReplayCache (ttl : Time) (capHint : Int) : ReplayCache where
  entries := Table.empty Entry.nonce
  size := 0
  cap := if capHint ≤ 0 then 100000 else capHint
  ttl := ttl

/-- Where a caller of `CheckAndInsert` stands. -/
inductive Progress where
  | load
  | drop
  | uncount
  | count
  | store
  | returned (fresh : Bool)
  deriving DecidableEq

inductive Thread where
  | check (nonce : String) (now : Time) (progress : Progress)
  /-- A sweep: keys already visited, keys found expired and not yet deleted, whether it
  has deleted an entry it has not yet uncounted, and the number it will report. -/
  | sweep (now : Time) (visited expired : List String) (uncounting : Bool) (evicted : Nat)
  deriving DecidableEq

structure CacheSys where
  cache : ReplayCache
  threads : List Thread

inductive CacheAction where
  | checkAndInsert (nonce : String) (now : Time)
  | sweep (now : Time)
  | load (t : Nat)
  | drop (t : Nat)
  | uncount (t : Nat)
  | count (t : Nat) (victim : String)
  | store (t : Nat)
  | observe (t : Nat) (nonce : String)

/-- The decrement of `delete`, under the mutex. -/
def ReplayCache.uncount (c : ReplayCache) : ReplayCache :=
  if 0 < c.size then { c with size := c.size - 1 } else c

/-- `evictOldestLocked`: the victim has the least expiry of all entries. -/
def ReplayCache.evictOldest (c : ReplayCache) (victim : String) : Option ReplayCache :=
  if c.entries.rows = [] then some c
  else (c.entries.get? victim).bind (fun oldest =>
    if c.entries.rows.all (fun e => decide (oldest.expiry ≤ e.expiry)) then
      some ({ c with entries := c.entries.delete victim }).uncount
    else none)

/-- The section under the mutex that makes room and counts the new entry. -/
def ReplayCache.count (c : ReplayCache) (victim : String) : Option ReplayCache :=
  if c.cap ≤ c.size then
    (c.evictOldest victim).map (fun c => { c with size := c.size + 1 })
  else some { c with size := c.size + 1 }

def ReplayCache.store (c : ReplayCache) (nonce : String) (now : Time) : ReplayCache :=
  { c with entries := c.entries.upsert ⟨nonce, now + c.ttl⟩ }

def ReplayCache.drop (c : ReplayCache) (nonce : String) : ReplayCache :=
  { c with entries := c.entries.delete nonce }

/-- What the first load of `CheckAndInsert` decides. -/
def ReplayCache.afterLoad (c : ReplayCache) (nonce : String) (now : Time) : Progress :=
  match c.entries.get? nonce with
  | none => .count
  | some e => if now < e.expiry then .returned false else .drop

/-- Below capacity, counting touches nothing but the counter. -/
theorem count_below {c counted : ReplayCache} {victim : String} (below : c.size < c.cap)
    (made : c.count victim = some counted) : counted = { c with size := c.size + 1 } := by
  unfold ReplayCache.count at made
  rw [if_neg (by omega)] at made
  exact (Option.some.inj made).symm

theorem get?_drop (c : ReplayCache) (nonce n : String) :
    (c.drop nonce).entries.get? n = if n = nonce then none else c.entries.get? n :=
  Table.get?_delete c.entries nonce n

theorem get?_drop_ne {c : ReplayCache} {nonce n : String} (other : nonce ≠ n) :
    (c.drop nonce).entries.get? n = c.entries.get? n := by
  rw [get?_drop, if_neg (fun same => other same.symm)]

theorem get?_drop_self (c : ReplayCache) (n : String) : (c.drop n).entries.get? n = none := by
  rw [get?_drop, if_pos rfl]

theorem uncount_entries (c : ReplayCache) : c.uncount.entries = c.entries := by
  unfold ReplayCache.uncount
  split <;> rfl

theorem uncount_ttl (c : ReplayCache) : c.uncount.ttl = c.ttl := by
  unfold ReplayCache.uncount
  split <;> rfl

theorem uncount_cap (c : ReplayCache) : c.uncount.cap = c.cap := by
  unfold ReplayCache.uncount
  split <;> rfl

theorem uncount_size_le (c : ReplayCache) : c.uncount.size ≤ c.size := by
  unfold ReplayCache.uncount
  split
  · simp only
    omega
  · exact Int.le_refl _

def CacheSys.move (s : CacheSys) (t : Nat) (thread : Thread) (cache : ReplayCache) : CacheSys :=
  ⟨cache, s.threads.set t thread⟩

def step (s : CacheSys) : CacheAction → Option CacheSys
  | .checkAndInsert nonce now =>
    -- The empty nonce is answered as fresh before the map is touched.
    let progress : Progress := if nonce = "" then .returned true else .load
    some { s with threads := s.threads ++ [.check nonce now progress] }
  | .sweep now => some { s with threads := s.threads ++ [.sweep now [] [] false 0] }
  | .load t => (s.threads[t]?).bind (fun thread => match thread with
      | .check nonce now .load =>
        some (s.move t (.check nonce now (s.cache.afterLoad nonce now)) s.cache)
      | _ => none)
  | .drop t => (s.threads[t]?).bind (fun thread => match thread with
      | .check nonce now .drop =>
        let next : Progress := if (s.cache.entries.get? nonce).isSome then .uncount else .count
        some (s.move t (.check nonce now next) (s.cache.drop nonce))
      | .sweep now visited (nonce :: expired) false evicted =>
        some (s.move t
          (.sweep now visited expired (s.cache.entries.get? nonce).isSome (evicted + 1))
          (s.cache.drop nonce))
      | _ => none)
  | .uncount t => (s.threads[t]?).bind (fun thread => match thread with
      | .check nonce now .uncount => some (s.move t (.check nonce now .count) s.cache.uncount)
      | .sweep now visited expired true evicted =>
        some (s.move t (.sweep now visited expired false evicted) s.cache.uncount)
      | _ => none)
  | .count t victim => (s.threads[t]?).bind (fun thread => match thread with
      | .check nonce now .count =>
        (s.cache.count victim).map (fun cache => s.move t (.check nonce now .store) cache)
      | _ => none)
  | .store t => (s.threads[t]?).bind (fun thread => match thread with
      | .check nonce now .store =>
        some (s.move t (.check nonce now (.returned true)) (s.cache.store nonce now))
      | _ => none)
  | .observe t nonce => (s.threads[t]?).bind (fun thread => match thread with
      | .sweep now visited expired uncounting evicted =>
        if nonce ∈ visited then none
        else (s.cache.entries.get? nonce).map (fun e =>
          s.move t (.sweep now (nonce :: visited)
            (if now < e.expiry then expired else expired ++ [nonce]) uncounting evicted) s.cache)
      | _ => none)

def Initial (ttl : Time) (capHint : Int) (s : CacheSys) : Prop :=
  s.cache = newReplayCache ttl capHint ∧ s.threads = []

/-- No call is under way. -/
def Thread.idle : Thread → Bool
  | .check _ _ (.returned _) => true
  | .sweep _ _ [] false _ => true
  | _ => false

/-- Everything a step can do: a call starts, or the thread at a place moves on. -/
inductive Effect (s : CacheSys) : CacheAction → CacheSys → Prop where
  | started {nonce : String} {now : Time} :
      Effect s (.checkAndInsert nonce now) { s with threads := s.threads ++
        [.check nonce now (if nonce = "" then .returned true else .load)] }
  | sweepStarted {now : Time} :
      Effect s (.sweep now) { s with threads := s.threads ++ [.sweep now [] [] false 0] }
  | loaded {t : Nat} {nonce : String} {now : Time}
      (current : s.threads[t]? = some (.check nonce now .load)) :
      Effect s (.load t) (s.move t (.check nonce now (s.cache.afterLoad nonce now)) s.cache)
  | dropped {t : Nat} {nonce : String} {now : Time}
      (current : s.threads[t]? = some (.check nonce now .drop)) :
      Effect s (.drop t) (s.move t (.check nonce now
        (if (s.cache.entries.get? nonce).isSome then .uncount else .count)) (s.cache.drop nonce))
  | swept {t evicted : Nat} {nonce : String} {now : Time} {visited expired : List String}
      (current : s.threads[t]? = some (.sweep now visited (nonce :: expired) false evicted)) :
      Effect s (.drop t) (s.move t (.sweep now visited expired
        (s.cache.entries.get? nonce).isSome (evicted + 1)) (s.cache.drop nonce))
  | uncounted {t : Nat} {nonce : String} {now : Time}
      (current : s.threads[t]? = some (.check nonce now .uncount)) :
      Effect s (.uncount t) (s.move t (.check nonce now .count) s.cache.uncount)
  | sweepUncounted {t evicted : Nat} {now : Time} {visited expired : List String}
      (current : s.threads[t]? = some (.sweep now visited expired true evicted)) :
      Effect s (.uncount t) (s.move t (.sweep now visited expired false evicted) s.cache.uncount)
  | counted {t : Nat} {nonce victim : String} {now : Time} {cache : ReplayCache}
      (current : s.threads[t]? = some (.check nonce now .count))
      (made : s.cache.count victim = some cache) :
      Effect s (.count t victim) (s.move t (.check nonce now .store) cache)
  | stored {t : Nat} {nonce : String} {now : Time}
      (current : s.threads[t]? = some (.check nonce now .store)) :
      Effect s (.store t) (s.move t (.check nonce now (.returned true)) (s.cache.store nonce now))
  | observed {t evicted : Nat} {nonce : String} {now : Time} {visited expired : List String}
      {uncounting : Bool} {e : Entry}
      (current : s.threads[t]? = some (.sweep now visited expired uncounting evicted))
      (found : s.cache.entries.get? nonce = some e) :
      Effect s (.observe t nonce) (s.move t (.sweep now (nonce :: visited)
        (if now < e.expiry then expired else expired ++ [nonce]) uncounting evicted) s.cache)

theorem step_effect {s s' : CacheSys} {a : CacheAction} (taken : step s a = some s') :
    Effect s a s' := by
  cases a
  case checkAndInsert =>
    cases taken
    exact .started
  case sweep =>
    cases taken
    exact .sweepStarted
  all_goals obtain ⟨thread, current, taken⟩ := Option.bind_eq_some_iff.mp taken
  case load =>
    split at taken
    · cases taken
      exact .loaded current
    · cases taken
  case drop =>
    split at taken
    · cases taken
      exact .dropped current
    · cases taken
      exact .swept current
    · cases taken
  case uncount =>
    split at taken
    · cases taken
      exact .uncounted current
    · cases taken
      exact .sweepUncounted current
    · cases taken
  case count =>
    split at taken
    · obtain ⟨cache, made, rfl⟩ := Option.map_eq_some_iff.mp taken
      exact .counted current made
    · cases taken
  case store =>
    split at taken
    · cases taken
      exact .stored current
    · cases taken
  case observe =>
    split at taken
    · split at taken
      · cases taken
      · obtain ⟨e, found, rfl⟩ := Option.map_eq_some_iff.mp taken
        exact .observed current found
    · cases taken

end Certctl.Source.Scep

import Certctl.Lib.SlidingLog
import Certctl.Lib.Table
import Certctl.Source.Domain

/-!
The in-memory sliding-window limiter. The bucket map is a table keyed by the bucket
key. A Go map is visited in no fixed order, so the eviction scan takes the order of
its visit as an argument: any permutation of the stored buckets. `Allow` holds the
mutex throughout and is one step.

Source: internal/ratelimit/sliding_window.go; internal/scep/intune/rate_limit.go.
-/
namespace Certctl.Source.RateLimit

open Lib

/-- The statement of a database transaction that reported an error. -/
inductive DatabaseStage where
  | beginTx | ensureRow | selectForUpdate | parseTimestamp | update | commit
  deriving DecidableEq

inductive LimiterError where
  | errRateLimited
  | database (stage : DatabaseStage)
  deriving DecidableEq

def DatabaseStage.message : DatabaseStage → String
  | .beginTx => "ratelimit: begin tx"
  | .ensureRow => "ratelimit: ensure row"
  | .selectForUpdate => "ratelimit: select-for-update"
  | .parseTimestamp => "ratelimit: parse stored timestamp"
  | .update => "ratelimit: update"
  | .commit => "ratelimit: commit"

def LimiterError.message : LimiterError → String
  | .errRateLimited => "ratelimit: per-key cap exceeded for the configured window"
  | .database stage => stage.message

def hour : Time := 3600000000000

/-- The window both backends run with. -/
def effectiveWindow (window : Time) : Time := if window ≤ 0 then 24 * hour else window

structure Bucket where
  key : String
  timestamps : List Time
  deriving DecidableEq

structure SlidingWindowLimiter where
  buckets : Table Bucket.key
  maxN : Int
  window : Time
  cap : Int
  disabled : Bool

def newSlidingWindowLimiter (maxN : Int) (window : Time) (mapCap : Int) : SlidingWindowLimiter where
  buckets := Table.empty Bucket.key
  maxN := maxN
  window := effectiveWindow window
  cap := if mapCap ≤ 0 then 100000 else mapCap
  disabled := decide (maxN ≤ 0)

/-- Entries strictly before the cutoff are dropped from the front. -/
def pruneOlderThan (b : List Time) (cutoff : Time) : List Time :=
  b.dropWhile (fun t => decide (t < cutoff))

/-- The scan of `evictOldestLocked`: the candidate so far, and the buckets still to
visit. -/
def evictScan (buckets : Table Bucket.key) :
    Option (String × Time) → List Bucket → Table Bucket.key
  | oldest, [] => match oldest with
    | some (oldestKey, _) => if oldestKey ≠ "" then buckets.delete oldestKey else buckets
    | none => buckets
  | oldest, b :: rest => match b.timestamps.getLast? with
    | none => buckets.delete b.key
    | some newest =>
      if oldest.all (fun candidate => decide (newest < candidate.2)) then
        evictScan buckets (some (b.key, newest)) rest
      else evictScan buckets oldest rest

def evictOldestLocked (buckets : Table Bucket.key) (order : List Bucket) : Table Bucket.key :=
  evictScan buckets none order

/-- A missing key reads as the empty slice. -/
def bucketOf (buckets : Table Bucket.key) (key : String) : List Time :=
  ((buckets.get? key).map Bucket.timestamps).getD []

/-- The map `Allow` works on, after the eviction at capacity. -/
def SlidingWindowLimiter.afterEviction (l : SlidingWindowLimiter) (order : List Bucket) :
    Table Bucket.key :=
  if l.cap ≤ l.buckets.rows.length then evictOldestLocked l.buckets order else l.buckets

def SlidingWindowLimiter.allow (l : SlidingWindowLimiter) (key : String) (now : Time)
    (order : List Bucket) : SlidingWindowLimiter × Option LimiterError :=
  if l.disabled then (l, none)
  else if key = "" then (l, none)
  else
    let buckets := l.afterEviction order
    let bucket := pruneOlderThan (bucketOf buckets key) (now - l.window)
    if l.maxN ≤ bucket.length then
      ({ l with buckets := buckets.upsert ⟨key, bucket⟩ }, some .errRateLimited)
    else ({ l with buckets := buckets.upsert ⟨key, bucket ++ [now]⟩ }, none)

theorem bucketOf_upsert (buckets : Table Bucket.key) (b : Bucket) (key : String) :
    bucketOf (buckets.upsert b) key =
      if key = b.key then b.timestamps else bucketOf buckets key := by
  unfold bucketOf
  rw [Table.get?_upsert]
  split <;> rfl

/-- The eviction scan drops whole buckets and leaves the others alone. -/
theorem get?_evictScan (buckets : Table Bucket.key) (oldest : Option (String × Time))
    (order : List Bucket) (key : String) :
    (evictScan buckets oldest order).get? key = buckets.get? key ∨
      (evictScan buckets oldest order).get? key = none := by
  have deleted : ∀ gone, (buckets.delete gone).get? key = buckets.get? key ∨
      (buckets.delete gone).get? key = none := by
    intro gone
    rw [Table.get?_delete]
    split
    · exact .inr rfl
    · exact .inl rfl
  induction order generalizing oldest with
  | nil =>
    simp only [evictScan]
    split
    · split
      · exact deleted _
      · exact .inl rfl
    · exact .inl rfl
  | cons b rest ih =>
    simp only [evictScan]
    split
    · exact deleted _
    · split
      · exact ih _
      · exact ih _

theorem get?_afterEviction (l : SlidingWindowLimiter) (order : List Bucket) (key : String) :
    (l.afterEviction order).get? key = l.buckets.get? key ∨
      (l.afterEviction order).get? key = none := by
  unfold SlidingWindowLimiter.afterEviction
  split
  · exact get?_evictScan l.buckets none order key
  · exact .inl rfl

/-- What an `Allow` that reaches the map does: it writes the pruned bucket of its key,
with the new time at the end when the call is allowed. -/
inductive AllowEffect (l : SlidingWindowLimiter) (key : String) (now : Time) (order : List Bucket) :
    SlidingWindowLimiter × Option LimiterError → Prop where
  | skipped (idle : l.disabled = true ∨ key = "") : AllowEffect l key now order (l, none)
  | rejected (enabled : l.disabled = false) (named : key ≠ "") (bucket : List Time)
      (pruned : bucket = pruneOlderThan (bucketOf (l.afterEviction order) key) (now - l.window))
      (full : l.maxN ≤ bucket.length) :
      AllowEffect l key now order
        ({ l with buckets := (l.afterEviction order).upsert ⟨key, bucket⟩ }, some .errRateLimited)
  | recorded (enabled : l.disabled = false) (named : key ≠ "") (bucket : List Time)
      (pruned : bucket = pruneOlderThan (bucketOf (l.afterEviction order) key) (now - l.window))
      (room : (bucket.length : Int) < l.maxN) :
      AllowEffect l key now order
        ({ l with buckets := (l.afterEviction order).upsert ⟨key, bucket ++ [now]⟩ }, none)

theorem allow_effect (l : SlidingWindowLimiter) (key : String) (now : Time) (order : List Bucket) :
    AllowEffect l key now order (l.allow key now order) := by
  unfold SlidingWindowLimiter.allow
  split
  next idle => exact .skipped (.inl idle)
  next enabled =>
    split
    next empty => exact .skipped (.inr empty)
    next named =>
      dsimp only
      split
      next full => exact .rejected (by simpa using enabled) named _ rfl full
      next room => exact .recorded (by simpa using enabled) named _ rfl (by omega)

theorem allow_config (l : SlidingWindowLimiter) (key : String) (now : Time) (order : List Bucket) :
    (l.allow key now order).1.maxN = l.maxN ∧ (l.allow key now order).1.window = l.window ∧
      (l.allow key now order).1.cap = l.cap ∧
      (l.allow key now order).1.disabled = l.disabled := by
  have effect := allow_effect l key now order
  generalize l.allow key now order = result at effect
  cases effect <;> exact ⟨rfl, rfl, rfl, rfl⟩

/-- One call as the log of a run shows it. -/
structure Event where
  key : String
  now : Time
  result : Option LimiterError

structure Call where
  key : String
  now : Time
  order : List Bucket

structure Sys where
  limiter : SlidingWindowLimiter
  log : List Event

def Sys.after (s : Sys) (c : Call) : Sys :=
  let result := s.limiter.allow c.key c.now c.order
  ⟨result.1, s.log ++ [⟨c.key, c.now, result.2⟩]⟩

/-- The next call of a run: its clock reading is not behind the earlier ones, and the
scan, if one takes place, visits the stored buckets in some order. -/
def Sys.step (s : Sys) (c : Call) : Option Sys :=
  if s.log.all (fun e => decide (e.now ≤ c.now)) && c.order.isPerm s.limiter.buckets.rows then
    some (s.after c)
  else none

/-- Times of the calls of a key that returned nil. -/
def allowedTimes (key : String) (log : List Event) : List Time :=
  (log.filter (fun e => decide (e.key = key ∧ e.result = none))).map Event.now

theorem allowedTimes_append (key : String) (log : List Event) (e : Event) :
    allowedTimes key (log ++ [e]) =
      allowedTimes key log ++ if e.key = key ∧ e.result = none then [e.now] else [] := by
  unfold allowedTimes
  rw [List.filter_append, List.map_append]
  by_cases counted : e.key = key ∧ e.result = none
  · rw [if_pos counted, List.filter_cons_of_pos (by simpa using counted)]
    rfl
  · rw [if_neg counted, List.filter_cons_of_neg (by simpa using counted)]
    rfl

theorem allowedTimes_mem {key : String} {log : List Event} {t : Time}
    (member : t ∈ allowedTimes key log) : ∃ e ∈ log, e.now = t := by
  obtain ⟨e, kept, stamped⟩ := List.mem_map.mp member
  exact ⟨e, (List.mem_filter.mp kept).1, stamped⟩

theorem step_eq_some {s s' : Sys} {c : Call} (taken : s.step c = some s') :
    (∀ e ∈ s.log, e.now ≤ c.now) ∧ s' = s.after c := by
  obtain ⟨valid, taken⟩ := of_then taken nofun
  rw [Bool.and_eq_true, List.all_eq_true] at valid
  refine ⟨fun e member => of_decide_eq_true (valid.1 e member), ?_⟩
  exact (Option.some.inj taken).symm

end Certctl.Source.RateLimit

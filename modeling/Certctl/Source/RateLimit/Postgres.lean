import Certctl.Lib.Transition
import Certctl.Source.RateLimit.SlidingWindow

/-!
The limiter over the `rate_limit_buckets` table, and the sweep of stale rows. An
`Allow` is one READ COMMITTED transaction of four statements; any number of replicas
run such transactions at once. A row that a transaction inserted is invisible to the
others until the commit, and an insert that meets it waits. `SELECT ... FOR UPDATE`
finds a row, then waits until no other transaction holds its lock; if the row it found
has been deleted by then, it returns no row. A failed transaction leaves no trace.

Source: internal/ratelimit/postgres_gc.go, postgres_sliding_window.go.
-/
namespace Certctl.Source.RateLimit.Postgres

open Lib

structure PostgresSlidingWindowLimiter where
  maxN : Int
  window : Time
  disabled : Bool

def newPostgresSlidingWindowLimiter (maxN : Int) (window : Time) :
    PostgresSlidingWindowLimiter where
  maxN := maxN
  window := effectiveWindow window
  disabled := decide (maxN ≤ 0)

/-- How a Go time is kept in a `timestamptz`: rounded to whole microseconds. -/
structure TimestampRounding where
  round : Time → Time
  mono : ∀ a b, a ≤ b → round a ≤ round b
  whole : ∀ t, round t % 1000 = 0
  exact : ∀ t, t % 1000 = 0 → round t = t

/-- The first instant whose year has five digits. -/
def yearTenThousand : Time := 315537897600000000000

/-- What `time.Parse` makes of the text `to_char` gives for a stored instant, from the
year 1 on: the layout has four digits for the year. -/
def parseStored (stored : Time) : Option Time :=
  if stored < yearTenThousand then some stored else none

structure Row where
  bucketKey : String
  timestamps : List Time
  updatedAt : Time
  /-- Tells a row from a later one of the same key. -/
  id : Nat
  committed : Bool
  /-- The call whose transaction holds the row lock. -/
  holder : Option Nat

inductive Phase where
  | begun
  | ensured
  | selected (row : Nat)
  | locked (timestamps : List Time)
  | returned (result : Option LimiterError)
  deriving DecidableEq

structure AllowCall where
  key : String
  now : Time
  phase : Phase

/-- The table, the calls of all replicas, the clock they read, and the answers given. -/
structure Replicas where
  rows : Table Row.bucketKey
  nextRow : Nat
  calls : List AllowCall
  clock : Time
  log : List Event

structure Deployment where
  rounding : TimestampRounding
  limiter : PostgresSlidingWindowLimiter
  /-- `PostgresGC.maxWindow`. -/
  maxWindow : Time

inductive Action where
  | allow (key : String)
  | ensureRow (c : Nat)
  | selectForUpdate (c : Nat)
  | lockRow (c : Nat)
  | commit (c : Nat) (acknowledged : Bool)
  | fail (c : Nat) (stage : DatabaseStage)
  | tick (now : Time)
  | garbageCollect (now : Time)

/-- Steps 3 and 4 of `Allow`: prune, decide, append. -/
def decideBucket (l : PostgresSlidingWindowLimiter) (now : Time) (timestamps : List Time) :
    List Time × Option LimiterError :=
  let pruned := pruneOlderThan timestamps (now - l.window)
  if l.maxN ≤ pruned.length then (pruned, some .errRateLimited) else (pruned ++ [now], none)

theorem decideBucket_cases (l : PostgresSlidingWindowLimiter) (now : Time)
    (timestamps : List Time) :
    (l.maxN ≤ (pruneOlderThan timestamps (now - l.window)).length ∧
      decideBucket l now timestamps =
        (pruneOlderThan timestamps (now - l.window), some .errRateLimited)) ∨
    ((pruneOlderThan timestamps (now - l.window)).length < l.maxN ∧
      decideBucket l now timestamps =
        (pruneOlderThan timestamps (now - l.window) ++ [now], none)) := by
  unfold decideBucket
  dsimp only
  split
  next full => exact .inl ⟨full, rfl⟩
  next room => exact .inr ⟨by omega, rfl⟩

theorem mem_decideBucket {l : PostgresSlidingWindowLimiter} {now t : Time} {timestamps : List Time}
    (member : t ∈ (decideBucket l now timestamps).1) : t ∈ timestamps ∨ t = now := by
  have pruned : ∀ {t}, t ∈ pruneOlderThan timestamps (now - l.window) → t ∈ timestamps :=
    fun kept => (List.dropWhile_sublist _).subset kept
  rcases decideBucket_cases l now timestamps with ⟨_, decided⟩ | ⟨_, decided⟩
  · rw [decided] at member
    exact .inl (pruned member)
  · rw [decided] at member
    exact (mem_snoc member).imp_left (pruned ·)

def Row.hold (c : Nat) (r : Row) : Row := { r with holder := some c }

def Row.unlock (r : Row) : Row := { r with holder := none }

def Row.persist (rounding : TimestampRounding) (now : Time) (timestamps : List Time) (r : Row) :
    Row :=
  { r with
    timestamps := timestamps.map rounding.round
    updatedAt := rounding.round now
    committed := true
    holder := none }

theorem hold_key (c : Nat) (r : Row) : (r.hold c).bucketKey = r.bucketKey := rfl

theorem unlock_key (r : Row) : r.unlock.bucketKey = r.bucketKey := rfl

theorem persist_key (rounding : TimestampRounding) (now : Time) (timestamps : List Time) (r : Row) :
    (r.persist rounding now timestamps).bucketKey = r.bucketKey := rfl

/-- End of a transaction that commits nothing: its insert disappears, its lock is free. -/
def rollback (rows : Table Row.bucketKey) (c : Nat) : Table Row.bucketKey :=
  (rows.deleteWhere (fun r => !r.committed && decide (r.holder = some c))).updateWhere
    (fun r => decide (r.holder = some c)) Row.unlock unlock_key

def Replicas.move (s : Replicas) (c : Nat) (call : AllowCall) (phase : Phase) : Replicas :=
  { s with calls := s.calls.set c { call with phase := phase } }

/-- The call returns to its caller. -/
def Replicas.answer (s : Replicas) (c : Nat) (call : AllowCall) (result : Option LimiterError) :
    Replicas :=
  { s.move c call (.returned result) with log := s.log ++ [⟨call.key, call.now, result⟩] }

def Replicas.abandon (s : Replicas) (c : Nat) (call : AllowCall) (result : Option LimiterError) :
    Replicas :=
  { s.answer c call result with rows := rollback s.rows c }

/-- Which statement a transaction may fail at. The parse fails on its own account. -/
def Phase.mayFail : Phase → DatabaseStage → Bool
  | .begun, .beginTx => true
  | .begun, .ensureRow => true
  | .ensured, .selectForUpdate => true
  | .selected _, .selectForUpdate => true
  | .locked _, .update => true
  | .locked _, .commit => true
  | _, _ => false

def Row.stale (d : Deployment) (now : Time) (r : Row) : Bool :=
  decide (r.updatedAt < d.rounding.round (now - d.maxWindow))

/-- Rows the `DELETE` of a sweep removes; on a locked row it waits. -/
def Row.collectable (d : Deployment) (now : Time) (r : Row) : Bool :=
  r.committed && decide (r.holder = none) && r.stale d now

def ensureRow (d : Deployment) (s : Replicas) (c : Nat) (call : AllowCall) : Option Replicas :=
  match s.rows.get? call.key with
  | none =>
    let row : Row := ⟨call.key, [], d.rounding.round call.now, s.nextRow, false, some c⟩
    (s.rows.insert row).map (fun rows =>
      { s.move c call .ensured with rows := rows, nextRow := s.nextRow + 1 })
  | some r => if r.committed then some (s.move c call .ensured) else none

/-- No row: the call is answered nil, and nothing is recorded. -/
def selectForUpdate (s : Replicas) (c : Nat) (call : AllowCall) : Replicas :=
  match s.rows.get? call.key with
  | none => s.abandon c call none
  | some r =>
    if r.committed || decide (r.holder = some c) then s.move c call (.selected r.id)
    else s.abandon c call none

def lockRow (s : Replicas) (c : Nat) (call : AllowCall) (row : Nat) : Option Replicas :=
  match s.rows.get? call.key with
  | none => some (s.abandon c call none)
  | some r =>
    if r.id ≠ row then some (s.abandon c call none)
    else if r.holder = none ∨ r.holder = some c then
      match r.timestamps.mapM parseStored with
      | none => some (s.abandon c call (some (.database .parseTimestamp)))
      | some timestamps => some
          { s.move c call (.locked timestamps) with
            rows := s.rows.updateWhere (fun r => decide (r.bucketKey = call.key)) (Row.hold c)
              (hold_key c) }
    else none

/-- `UPDATE` and `COMMIT`; a commit whose acknowledgement is lost has taken effect. -/
def commit (d : Deployment) (s : Replicas) (c : Nat) (call : AllowCall) (timestamps : List Time)
    (acknowledged : Bool) : Replicas :=
  let decision := decideBucket d.limiter call.now timestamps
  { s.answer c call (if acknowledged then decision.2 else some (.database .commit)) with
    rows := s.rows.updateWhere (fun r => decide (r.bucketKey = call.key))
      (Row.persist d.rounding call.now decision.1) (persist_key d.rounding call.now decision.1) }

def garbageCollect (d : Deployment) (s : Replicas) (now : Time) : Replicas :=
  if d.maxWindow ≤ 0 then s else { s with rows := s.rows.deleteWhere (Row.collectable d now) }

def step (d : Deployment) (s : Replicas) : Action → Option Replicas
  | .allow key =>
    if d.limiter.disabled = true ∨ key = "" then
      some { s with
        calls := s.calls ++ [⟨key, s.clock, .returned none⟩]
        log := s.log ++ [⟨key, s.clock, none⟩] }
    else some { s with calls := s.calls ++ [⟨key, s.clock, .begun⟩] }
  | .ensureRow c => (s.calls[c]?).bind (fun call =>
      if call.phase = .begun then ensureRow d s c call else none)
  | .selectForUpdate c => (s.calls[c]?).bind (fun call =>
      if call.phase = .ensured then some (selectForUpdate s c call) else none)
  | .lockRow c => (s.calls[c]?).bind (fun call => match call.phase with
      | .selected row => lockRow s c call row
      | _ => none)
  | .commit c acknowledged => (s.calls[c]?).bind (fun call => match call.phase with
      | .locked timestamps => some (commit d s c call timestamps acknowledged)
      | _ => none)
  | .fail c stage => (s.calls[c]?).bind (fun call =>
      if call.phase.mayFail stage then some (s.abandon c call (some (.database stage))) else none)
  | .tick now => if s.clock ≤ now then some { s with clock := now } else none
  | .garbageCollect now => if now ≤ s.clock then some (garbageCollect d s now) else none

def Initial (s : Replicas) : Prop :=
  s.rows = Table.empty Row.bucketKey ∧ s.calls = [] ∧ s.log = [] ∧ 0 ≤ s.clock

/-- The row of its key that a select may see: committed, or the call's own insert. -/
def Row.visible (c : Nat) (r : Row) : Prop := r.committed = true ∨ r.holder = some c

/-- Everything a step can do. -/
inductive Effect (d : Deployment) (s : Replicas) : Action → Replicas → Prop where
  | skipped {key : String} (idle : d.limiter.disabled = true ∨ key = "") :
      Effect d s (.allow key) { s with
        calls := s.calls ++ [⟨key, s.clock, .returned none⟩]
        log := s.log ++ [⟨key, s.clock, none⟩] }
  | began {key : String} (named : key ≠ "") :
      Effect d s (.allow key) { s with calls := s.calls ++ [⟨key, s.clock, .begun⟩] }
  | inserted {c : Nat} {call : AllowCall} {rows : Table Row.bucketKey}
      (current : s.calls[c]? = some call) (phase : call.phase = .begun)
      (inserted : s.rows.insert
        ⟨call.key, [], d.rounding.round call.now, s.nextRow, false, some c⟩ = some rows) :
      Effect d s (.ensureRow c)
        { s.move c call .ensured with rows := rows, nextRow := s.nextRow + 1 }
  | conflicted {c : Nat} {call : AllowCall} {r : Row} (current : s.calls[c]? = some call)
      (phase : call.phase = .begun) (found : s.rows.get? call.key = some r)
      (committed : r.committed = true) :
      Effect d s (.ensureRow c) (s.move c call .ensured)
  | selected {c : Nat} {call : AllowCall} {r : Row} (current : s.calls[c]? = some call)
      (phase : call.phase = .ensured) (found : s.rows.get? call.key = some r)
      (visible : r.visible c) :
      Effect d s (.selectForUpdate c) (s.move c call (.selected r.id))
  | notFound {c : Nat} {call : AllowCall} (current : s.calls[c]? = some call)
      (phase : call.phase = .ensured)
      (missing : ∀ r, s.rows.get? call.key = some r → ¬ r.visible c) :
      Effect d s (.selectForUpdate c) (s.abandon c call none)
  | vanished {c row : Nat} {call : AllowCall} (current : s.calls[c]? = some call)
      (phase : call.phase = .selected row)
      (missing : ∀ r, s.rows.get? call.key = some r → r.id ≠ row) :
      Effect d s (.lockRow c) (s.abandon c call none)
  | locked {c row : Nat} {call : AllowCall} {r : Row} {timestamps : List Time}
      (current : s.calls[c]? = some call) (phase : call.phase = .selected row)
      (found : s.rows.get? call.key = some r) (free : r.holder = none ∨ r.holder = some c)
      (parsed : r.timestamps.mapM parseStored = some timestamps) :
      Effect d s (.lockRow c)
        { s.move c call (.locked timestamps) with
          rows := s.rows.updateWhere (fun r => decide (r.bucketKey = call.key)) (Row.hold c)
            (hold_key c) }
  | unparsed {c row : Nat} {call : AllowCall} (current : s.calls[c]? = some call)
      (phase : call.phase = .selected row) :
      Effect d s (.lockRow c) (s.abandon c call (some (.database .parseTimestamp)))
  | committed {c : Nat} {call : AllowCall} {timestamps : List Time} {acknowledged : Bool}
      (current : s.calls[c]? = some call) (phase : call.phase = .locked timestamps) :
      Effect d s (.commit c acknowledged) (commit d s c call timestamps acknowledged)
  | failed {c : Nat} {call : AllowCall} {stage : DatabaseStage}
      (current : s.calls[c]? = some call) (inFlight : call.phase.mayFail stage = true) :
      Effect d s (.fail c stage) (s.abandon c call (some (.database stage)))
  | ticked {now : Time} (forward : s.clock ≤ now) : Effect d s (.tick now) { s with clock := now }
  | collected {now : Time} (past : now ≤ s.clock) :
      Effect d s (.garbageCollect now) (garbageCollect d s now)

variable {d : Deployment} {call : AllowCall} {s s' : Replicas} {c : Nat}

theorem ensureRow_effect (current : s.calls[c]? = some call) (phase : call.phase = .begun)
    (taken : ensureRow d s c call = some s') : Effect d s (.ensureRow c) s' := by
  unfold ensureRow at taken
  split at taken
  · obtain ⟨rows, inserted, rfl⟩ := Option.map_eq_some_iff.mp taken
    exact .inserted current phase inserted
  next r found =>
    obtain ⟨committed, ⟨⟩⟩ := of_then taken nofun
    exact .conflicted current phase found committed

theorem selectForUpdate_effect {s : Replicas} (current : s.calls[c]? = some call)
    (phase : call.phase = .ensured) :
    Effect d s (.selectForUpdate c) (selectForUpdate s c call) := by
  unfold selectForUpdate
  split
  next absent =>
    apply Effect.notFound current phase
    intro r found
    rw [absent] at found
    cases found
  next r found =>
    split
    next visible =>
      rw [Bool.or_eq_true, decide_eq_true_iff] at visible
      exact .selected current phase found visible
    next hidden =>
      apply Effect.notFound current phase
      intro r' found'
      rw [found] at found'
      cases found'
      rw [Bool.or_eq_true, decide_eq_true_iff] at hidden
      exact hidden

theorem lockRow_effect {row : Nat} (current : s.calls[c]? = some call)
    (phase : call.phase = .selected row) (taken : lockRow s c call row = some s') :
    Effect d s (.lockRow c) s' := by
  unfold lockRow at taken
  split at taken
  next absent =>
    cases taken
    apply Effect.vanished current phase
    intro r found
    rw [absent] at found
    cases found
  next r found =>
    split at taken
    next replaced =>
      cases taken
      apply Effect.vanished current phase
      intro r' found'
      rw [found] at found'
      cases found'
      exact replaced
    · obtain ⟨free, taken⟩ := of_then taken nofun
      split at taken
      · cases taken
        exact .unparsed current phase
      next parsed =>
        cases taken
        exact .locked current phase found free parsed

theorem step_effect {a : Action} (taken : step d s a = some s') :
    Effect d s a s' := by
  cases a
  case allow =>
    simp only [step] at taken
    split at taken
    next idle =>
      cases taken
      exact .skipped idle
    next busy =>
      cases taken
      exact .began (fun empty => busy (.inr empty))
  case tick =>
    obtain ⟨forward, ⟨⟩⟩ := of_then taken nofun
    exact .ticked forward
  case garbageCollect =>
    obtain ⟨past, ⟨⟩⟩ := of_then taken nofun
    exact .collected past
  all_goals obtain ⟨call, current, taken⟩ := Option.bind_eq_some_iff.mp taken
  case ensureRow =>
    obtain ⟨phase, taken⟩ := of_then taken nofun
    exact ensureRow_effect current phase taken
  case selectForUpdate =>
    obtain ⟨phase, ⟨⟩⟩ := of_then taken nofun
    exact selectForUpdate_effect current phase
  case lockRow =>
    split at taken
    next phase => exact lockRow_effect current phase taken
    · cases taken
  case commit =>
    split at taken
    next phase =>
      cases taken
      exact .committed current phase
    · cases taken
  case fail =>
    split at taken
    next inFlight =>
      cases taken
      exact .failed current inFlight
    · cases taken

end Certctl.Source.RateLimit.Postgres

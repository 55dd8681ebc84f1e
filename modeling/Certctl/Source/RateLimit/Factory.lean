import Certctl.Source.RateLimit.RowLocks

/-!
The backend factory, and a family of limiters driven by one sequence of calls through
both backends: in memory each limiter has a map of its own, over the database all of
them share the one table. A call that nothing interrupts runs its statements to the end.

Source: internal/ratelimit/factory.go, limiter.go.
-/
namespace Certctl.Source.RateLimit

open Lib Postgres

inductive Limiter where
  | memory (l : SlidingWindowLimiter)
  | postgres (l : PostgresSlidingWindowLimiter)

inductive FactoryPanic where
  | nilDatabase
  | unknownBackend (backend : String)

def newLimiter (backend : String) (database : Bool) (maxN : Int) (window : Time) (mapCap : Int) :
    Except FactoryPanic Limiter :=
  if backend = "memory" then .ok (.memory (newSlidingWindowLimiter maxN window mapCap))
  else if backend = "postgres" then
    if database then .ok (.postgres (newPostgresSlidingWindowLimiter maxN window))
    else .error .nilDatabase
  else .error (.unknownBackend backend)

namespace Postgres

/-- The next statement of a call; one that has returned stays. -/
def advance (d : Deployment) (c : Nat) (s : Replicas) : Option Replicas :=
  (s.calls[c]?).bind (fun call => match call.phase with
    | .begun => step d s (.ensureRow c)
    | .ensured => step d s (.selectForUpdate c)
    | .selected _ => step d s (.lockRow c)
    | .locked _ => step d s (.commit c true)
    | .returned _ => some s)

/-- The four statements of a call, one after the other. -/
def complete (d : Deployment) (c : Nat) (s : Replicas) : Option Replicas :=
  (advance d c s).bind (fun ensured => (advance d c ensured).bind (fun selected =>
    (advance d c selected).bind (advance d c)))

/-- A whole `Allow` at the given time, with no other transaction running. -/
def allowAlone (d : Deployment) (s : Replicas) (key : String) (now : Time) : Option Replicas :=
  (step d s (.tick now)).bind (fun ticked =>
    (step d ticked (.allow key)).bind (complete d s.calls.length))

/-- No transaction is open. -/
def Quiescent (rows : Table Row.bucketKey) : Prop :=
  ∀ key r, rows.get? key = some r → r.committed = true ∧ r.holder = none

section Alone

variable {d : Deployment} {s : Replicas} {pool : List AllowCall} {key : String} {now : Time}

theorem move_last (rows : Table Row.bucketKey) (nextRow : Nat) (clock : Time) (log : List Event)
    (call : AllowCall) (phase : Phase) :
    (⟨rows, nextRow, pool ++ [call], clock, log⟩ : Replicas).move pool.length call phase =
      ⟨rows, nextRow, pool ++ [{ call with phase := phase }], clock, log⟩ := by
  simp [Replicas.move]

theorem advance_last (rows : Table Row.bucketKey) (nextRow : Nat) (clock : Time) (log : List Event)
    (call : AllowCall) :
    advance d pool.length ⟨rows, nextRow, pool ++ [call], clock, log⟩ =
      match call.phase with
      | .begun => ensureRow d ⟨rows, nextRow, pool ++ [call], clock, log⟩ pool.length call
      | .ensured =>
        some (selectForUpdate ⟨rows, nextRow, pool ++ [call], clock, log⟩ pool.length call)
      | .selected row => lockRow ⟨rows, nextRow, pool ++ [call], clock, log⟩ pool.length call row
      | .locked timestamps =>
        some (commit d ⟨rows, nextRow, pool ++ [call], clock, log⟩ pool.length call timestamps true)
      | .returned _ => some ⟨rows, nextRow, pool ++ [call], clock, log⟩ := by
  unfold advance
  cases phase : call.phase <;> simp [step, phase]

/-- The table after the lock and the update of a call. -/
def writtenRows (d : Deployment) (rows : Table Row.bucketKey) (c : Nat) (key : String) (now : Time)
    (timestamps : List Time) : Table Row.bucketKey :=
  (rows.updateWhere (fun r => decide (r.bucketKey = key)) (Row.hold c) (hold_key c)).updateWhere
    (fun r => decide (r.bucketKey = key)) (Row.persist d.rounding now timestamps)
    (persist_key _ _ _)

variable {rows : Table Row.bucketKey} {timestamps : List Time}

theorem quiescent_written {c : Nat}
    (others : ∀ k r, k ≠ key → rows.get? k = some r → r.committed = true ∧ r.holder = none) :
    Quiescent (writtenRows d rows c key now timestamps) := by
  intro k r found
  unfold writtenRows at found
  rw [Table.get?_updateKey, Table.get?_updateKey] at found
  split at found
  · obtain ⟨_, _, rfl⟩ := Option.map_eq_some_iff.mp found
    exact ⟨rfl, rfl⟩
  next other => exact others k r other found

theorem timesOf_written {c : Nat} {r : Row} (found : rows.get? key = some r) (k : String) :
    timesOf (writtenRows d rows c key now timestamps) k =
      if k = key then timestamps.map d.rounding.round else timesOf rows k := by
  unfold timesOf writtenRows
  rw [Table.get?_updateKey, Table.get?_updateKey]
  split
  next same =>
    rw [same, found]
    rfl
  next => rfl

/-- The locked read and the commit of a call that sees its row, which is free. -/
theorem lock_commit {nextRow : Nat} {clock : Time} {log : List Event} {r : Row}
    (found : rows.get? key = some r)
    (visible : (r.committed || decide (r.holder = some pool.length)) = true)
    (free : r.holder = none ∨ r.holder = some pool.length)
    (parsed : r.timestamps.mapM parseStored = some timestamps) :
    (advance d pool.length
      ⟨rows, nextRow, pool ++ [⟨key, now, .ensured⟩], clock, log⟩).bind (fun selected =>
        (advance d pool.length selected).bind (advance d pool.length)) =
      some ⟨writtenRows d rows pool.length key now (decideBucket d.limiter now timestamps).1,
        nextRow, pool ++ [⟨key, now, .returned (decideBucket d.limiter now timestamps).2⟩], clock,
        log ++ [⟨key, now, (decideBucket d.limiter now timestamps).2⟩]⟩ := by
  have selected : advance d pool.length
      ⟨rows, nextRow, pool ++ [⟨key, now, .ensured⟩], clock, log⟩ =
      some ⟨rows, nextRow, pool ++ [⟨key, now, .selected r.id⟩], clock, log⟩ := by
    rw [advance_last]
    simp only [selectForUpdate, found, visible, if_true, move_last]
  have locked : advance d pool.length
      ⟨rows, nextRow, pool ++ [⟨key, now, .selected r.id⟩], clock, log⟩ =
      some ⟨rows.updateWhere (fun r => decide (r.bucketKey = key)) (Row.hold pool.length)
          (hold_key pool.length), nextRow, pool ++ [⟨key, now, .locked timestamps⟩], clock,
        log⟩ := by
    rw [advance_last]
    simp only [lockRow, found, ne_eq, not_true_eq_false, if_false, if_pos free, parsed, move_last]
  rw [selected, Option.bind_some, locked, Option.bind_some, advance_last]
  simp only [commit, Replicas.answer, move_last, if_true]
  rfl

/-- A call with no other transaction open reads the times of its key, decides, and
stores the outcome. -/
theorem complete_spec (d : Deployment) (pool : List AllowCall) (now : Time) (nextRow : Nat)
    (clock : Time) (log : List Event) (quiescent : Quiescent rows)
    (parsed : (timesOf rows key).mapM parseStored = some (timesOf rows key)) :
    ∃ rows' nextRow', complete d pool.length
        ⟨rows, nextRow, pool ++ [⟨key, now, .begun⟩], clock, log⟩ =
        some ⟨rows', nextRow',
          pool ++ [⟨key, now, .returned (decideBucket d.limiter now (timesOf rows key)).2⟩], clock,
          log ++ [⟨key, now, (decideBucket d.limiter now (timesOf rows key)).2⟩]⟩ ∧
      Quiescent rows' ∧ ∀ k, timesOf rows' k =
        if k = key then (decideBucket d.limiter now (timesOf rows key)).1.map d.rounding.round
        else timesOf rows k := by
  unfold complete
  cases found : rows.get? key with
  | none =>
    have blank : timesOf rows key = [] := by
      unfold timesOf
      rw [found]
      rfl
    obtain ⟨inserted, insertion⟩ := Table.insert_isSome
      (r := (⟨key, [], d.rounding.round now, nextRow, false, some pool.length⟩ : Row)) found
    have lookup := Table.get?_insert insertion
    have own := lookup key
    rw [if_pos rfl] at own
    have ensured : advance d pool.length
        ⟨rows, nextRow, pool ++ [⟨key, now, .begun⟩], clock, log⟩ =
        some ⟨inserted, nextRow + 1, pool ++ [⟨key, now, .ensured⟩], clock, log⟩ := by
      rw [advance_last]
      simp only [ensureRow, found, insertion, Option.map_some, move_last]
    rw [ensured, Option.bind_some, blank]
    refine ⟨_, _, lock_commit own (by simp) (.inr rfl) rfl, ?_, ?_⟩
    · apply quiescent_written
      intro k r other present
      rw [lookup, if_neg other] at present
      exact quiescent k r present
    · intro k
      rw [timesOf_written own, timesOf_insert insertion rfl]
  | some r =>
    have times : timesOf rows key = r.timestamps := by
      unfold timesOf
      rw [found]
      rfl
    rw [times] at parsed ⊢
    have state := quiescent key r found
    have ensured : advance d pool.length
        ⟨rows, nextRow, pool ++ [⟨key, now, .begun⟩], clock, log⟩ =
        some ⟨rows, nextRow, pool ++ [⟨key, now, .ensured⟩], clock, log⟩ := by
      rw [advance_last]
      simp only [ensureRow, found, state.1, if_true, move_last]
    rw [ensured, Option.bind_some]
    refine ⟨_, _, lock_commit found (by simp [state.1]) (.inl state.2) parsed, ?_, ?_⟩
    · exact quiescent_written (fun k r _ present => quiescent k r present)
    · intro k
      rw [timesOf_written found]

theorem allowAlone_spec (enabled : d.limiter.disabled = false) (named : key ≠ "")
    (forward : s.clock ≤ now) (quiescent : Quiescent s.rows)
    (parsed : (timesOf s.rows key).mapM parseStored = some (timesOf s.rows key)) :
    ∃ s', allowAlone d s key now = some s' ∧ s'.clock = now ∧ Quiescent s'.rows ∧
      s'.log = s.log ++ [⟨key, now, (decideBucket d.limiter now (timesOf s.rows key)).2⟩] ∧
      ∀ k, timesOf s'.rows k =
        if k = key then (decideBucket d.limiter now (timesOf s.rows key)).1.map d.rounding.round
        else timesOf s.rows k := by
  have busy : ¬ (d.limiter.disabled = true ∨ key = "") := by simp [enabled, named]
  obtain ⟨rows', nextRow', completed, quiescent', times⟩ :=
    complete_spec d s.calls now s.nextRow now s.log quiescent parsed
  have started : allowAlone d s key now = complete d s.calls.length
      ⟨s.rows, s.nextRow, s.calls ++ [⟨key, now, .begun⟩], now, s.log⟩ := by
    unfold allowAlone
    simp only [step, if_pos forward, Option.bind_some, if_neg busy]
  exact ⟨_, started.trans completed, rfl, quiescent', rfl, times⟩

theorem allowAlone_skipped (idle : d.limiter.disabled = true ∨ key = "") (forward : s.clock ≤ now) :
    allowAlone d s key now = some { s with
      clock := now
      calls := s.calls ++ [⟨key, now, .returned none⟩]
      log := s.log ++ [⟨key, now, none⟩] } := by
  unfold allowAlone complete
  simp only [step, if_pos forward, Option.bind_some, if_pos idle, advance_last]

end Alone

end Postgres

/-- Arguments of one `NewLimiter` call, the backend apart. -/
structure LimiterSpec where
  maxN : Int
  window : Time
  mapCap : Int

/-- What the two backends answered to one call. -/
structure Exchange where
  limiter : Nat
  key : String
  now : Time
  memory : Option LimiterError
  postgres : Option LimiterError
  deriving DecidableEq

structure FamilyCall where
  limiter : Nat
  key : String
  now : Time
  order : List Bucket

/-- A family over both backends. -/
structure Family where
  memory : List SlidingWindowLimiter
  postgres : List PostgresSlidingWindowLimiter
  database : Replicas
  log : List Exchange

/-- The call reaches the map and finds it full. -/
def SlidingWindowLimiter.evicts (l : SlidingWindowLimiter) (key : String) : Bool :=
  !l.disabled && decide (key ≠ "") && decide (l.cap ≤ l.buckets.rows.length)

def lastResult (s : Replicas) : Option LimiterError := (s.log.getLast?).bind Event.result

/-- One call of the sequence: clock readings are whole microseconds and do not go
back, and the memory backend evicts nothing. -/
def Family.step (rounding : TimestampRounding) (f : Family) (call : FamilyCall) : Option Family :=
  (f.memory[call.limiter]?).bind (fun l => (f.postgres[call.limiter]?).bind (fun p =>
    if call.now % 1000 = 0 ∧ l.evicts call.key = false then
      let inMemory := l.allow call.key call.now call.order
      (Postgres.allowAlone ⟨rounding, p, 0⟩ f.database call.key call.now).map (fun database =>
        { memory := f.memory.set call.limiter inMemory.1
          postgres := f.postgres
          database := database
          log := f.log ++
            [⟨call.limiter, call.key, call.now, inMemory.2, lastResult database⟩] })
    else none))

/-- Both backends built by the factory from the same arguments, over an empty table. -/
def Family.Initial (specs : List LimiterSpec) (f : Family) : Prop :=
  f.memory.length = specs.length ∧ f.postgres.length = specs.length ∧
  (∀ (i : Nat) (spec : LimiterSpec), specs[i]? = some spec →
    ∃ l p, f.memory[i]? = some l ∧ f.postgres[i]? = some p ∧
      newLimiter "memory" true spec.maxN spec.window spec.mapCap = .ok (.memory l) ∧
      newLimiter "postgres" true spec.maxN spec.window spec.mapCap = .ok (.postgres p)) ∧
  Postgres.Initial f.database ∧ f.log = []

end Certctl.Source.RateLimit

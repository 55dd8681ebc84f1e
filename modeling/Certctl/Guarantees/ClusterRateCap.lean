import Certctl.Source.RateLimit.RowLocks

/-!
The cap of the table-backed limiter over every interleaving of its transactions and of
the sweep. The row lock orders the decisions on a key, but not by their clock readings,
and it protects only a row that is still there: a sweep between the insert that met the
row and the locked read makes the read empty, which `Allow` answers with nil. When the
sweep removes no row that a call in flight still needs, decisions on a key are committed
in the order of their readings, and storing a time does not move it out of the window,
no window holds more than `maxN` allowed calls.
-/
namespace Certctl.Guarantees.ClusterRateCap

open Lib Lib.SlidingLog Source Source.RateLimit
  Source.RateLimit.Postgres

/-- No window of a key holds more than `maxN` allowed calls, over all replicas. -/
def ClusterCapped (l : PostgresSlidingWindowLimiter) (s : Replicas) : Prop :=
  ∀ key, key ≠ "" → Capped l.maxN l.window (allowedTimes key s.log)

/-- The answer may come from a transaction that wrote the row. -/
def wrote (e : Event) : Bool :=
  decide (e.result = none ∨ e.result = some .errRateLimited ∨
    e.result = some (.database .commit))

def inFlight (call : AllowCall) : Bool := match call.phase with
  | .returned _ => false
  | _ => true

/-- The decisions on the key so far were for readings not after this call's. -/
def inOrder (s : Replicas) (call : AllowCall) : Bool :=
  s.log.all (fun e => decide (e.key ≠ call.key) || !wrote e || decide (e.now ≤ call.now))

/-- Rounding moves no allowed time of the key out of the window before this call. -/
def roundedInside (d : Deployment) (s : Replicas) (call : AllowCall) : Bool :=
  (allowedTimes call.key s.log).all (fun t => decide (t < call.now - d.limiter.window) ||
    decide (call.now - d.limiter.window ≤ d.rounding.round t))

/-- Every call in flight on the row's key has yet to look for the row, and the row is
older than the window before it. -/
def dispensable (d : Deployment) (s : Replicas) (r : Row) : Bool :=
  s.calls.all (fun call => decide (call.key ≠ r.bucketKey) || !inFlight call ||
    decide (call.phase = .begun) && decide (r.updatedAt < call.now - d.limiter.window))

def disciplined (d : Deployment) (s : Replicas) : Action → Bool
  | .commit c _ => (s.calls[c]?).all (fun call => inOrder s call && roundedInside d s call)
  | .garbageCollect now => s.rows.rows.all (fun r => !r.collectable d now || dispensable d s r)
  | _ => true

/-- Cutoffs that a decision on the key may still use. -/
def Needed (d : Deployment) (s : Replicas) (key : String) (horizon : Time) : Prop :=
  (∃ call ∈ s.calls, call.key = key ∧ inFlight call = true ∧
    horizon = call.now - d.limiter.window) ∨ s.clock - d.limiter.window ≤ horizon

/-- The decisions on the key so far pruned below the horizon. -/
def Pruned (d : Deployment) (log : List Event) (key : String) (horizon : Time) : Prop :=
  ∀ e ∈ log, e.key = key → wrote e = true → e.now - d.limiter.window ≤ horizon

structure RowSound (d : Deployment) (log : List Event) (r : Row) : Prop where
  blank : r.committed = false → r.timestamps = []
  whole : ∀ t ∈ r.timestamps, t % 1000 = 0
  dated : ∀ t ∈ r.timestamps, t ≤ r.updatedAt
  written : r.timestamps ≠ [] →
    ∃ e ∈ log, e.key = r.bucketKey ∧ wrote e = true ∧ d.rounding.round e.now = r.updatedAt

structure Sound (d : Deployment) (s : Replicas) : Prop where
  calls : ∀ c call, s.calls[c]? = some call → Finds c (s.rows.get? call.key) call.phase
  rows : ∀ key r, s.rows.get? key = some r → RowSound d s.log r
  tracked : ∀ key, key ≠ "" → ∀ horizon, Needed d s key horizon → Pruned d s.log key horizon →
    Covers horizon (timesOf s.rows key) ((allowedTimes key s.log).map d.rounding.round)
  capped : ClusterCapped d.limiter s

/-- The limiter and the sweep of the statement: an enabled limiter, and a sweep that
waits at least its window. -/
structure Configured (d : Deployment) : Prop where
  positive : 0 < d.limiter.maxN
  enabled : d.limiter.disabled = false
  longer : d.limiter.window ≤ d.maxWindow

section Step

variable {d : Deployment} {s s' : Replicas} {a : Action} {call : AllowCall} {key : String}
  {now : Time} {timestamps : List Time} {log : List Event} {c : Nat}

/-- A call that is past its insert keeps the row from the sweep. -/
theorem kept_of_finds (quiet : disciplined d s (.garbageCollect now) = true)
    (current : s.calls[c]? = some call) (finds : Finds c (s.rows.get? call.key) call.phase) :
    Finds c ((s.rows.deleteWhere (Row.collectable d now)).get? call.key) call.phase := by
  have kept (looked : call.phase ≠ .begun) (flying : inFlight call = true) :
      (s.rows.deleteWhere (Row.collectable d now)).get? call.key = s.rows.get? call.key := by
    rw [Table.get?_deleteWhere]
    cases found : s.rows.get? call.key with
    | none => rfl
    | some r =>
      obtain ⟨member, keyed⟩ := Table.get?_eq_some_iff.mp found
      have spared : r.collectable d now = false := by
        have swept := List.all_eq_true.mp quiet r member
        rw [Bool.or_eq_true] at swept
        rcases swept with spared | dispensable'
        · simpa using spared
        · have needs := List.all_eq_true.mp dispensable' call (List.mem_of_getElem? current)
          simp [keyed, flying, looked] at needs
      rw [Option.filter_some, spared]
      rfl
  cases phase : call.phase with
  | begun | returned => trivial
  | ensured | selected | locked =>
    rw [kept (by simp [phase]) (by simp [inFlight, phase]), ← phase]
    exact finds

theorem calls_step (sound : Sound d s) (quiet : disciplined d s a = true)
    (effect : Effect d s a s') {c' : Nat} {call' : AllowCall}
    (current' : s'.calls[c']? = some call') :
    Finds c' (s'.rows.get? call'.key) call'.phase := by
  cases effect with
  | skipped | began =>
    rcases getElem?_append_cases current' with old | ⟨_, rfl⟩
    · exact sound.calls c' call' old
    · trivial
  | @inserted c call rows current phase inserted =>
    have lookup := Table.get?_insert inserted
    rcases getElem?_set_cases current' with ⟨rfl, rfl⟩ | ⟨_, old⟩
    · exact ⟨_, by rw [lookup, if_pos rfl], .inr rfl⟩
    · have finds := sound.calls c' call' old
      by_cases same : call'.key = call.key
      · rw [same, (Table.insert_rows inserted).2] at finds
        cases phase' : call'.phase <;> rw [phase'] at finds
        · trivial
        · obtain ⟨_, ⟨⟩, _⟩ := finds
        · obtain ⟨_, ⟨⟩, _⟩ := finds
        · obtain ⟨_, ⟨⟩, _⟩ := finds
        · trivial
      · rw [lookup, if_neg same]
        exact finds
  | @conflicted c call r current phase found committed =>
    rcases getElem?_set_cases current' with ⟨rfl, rfl⟩ | ⟨_, old⟩
    · exact ⟨r, found, .inl committed⟩
    · exact sound.calls c' call' old
  | @selected c call r current phase found visible =>
    rcases getElem?_set_cases current' with ⟨rfl, rfl⟩ | ⟨_, old⟩
    · exact ⟨r, found, visible, rfl⟩
    · exact sound.calls c' call' old
  | notFound | vanished | unparsed | failed =>
    rcases getElem?_set_cases current' with ⟨rfl, rfl⟩ | ⟨other, old⟩
    · trivial
    · exact finds_rollback other (sound.calls c' call' old)
  | @locked c row call r timestamps current phase found free parsed =>
    have lookup := Table.get?_updateKey s.rows call.key (Row.hold c) (hold_key c)
    rcases getElem?_set_cases current' with ⟨rfl, rfl⟩ | ⟨other, old⟩
    · exact ⟨r.hold c', by rw [lookup, if_pos rfl, found]; rfl, rfl, parsed⟩
    · have finds := sound.calls c' call' old
      rw [lookup]
      split
      next same =>
        rw [same, found] at finds ⊢
        exact finds_hold other free finds
      next => exact finds
  | @committed c call timestamps acknowledged current phase =>
    have lookup := Table.get?_updateKey s.rows call.key
      (Row.persist d.rounding call.now (decideBucket d.limiter call.now timestamps).1)
      (persist_key _ _ _)
    rcases getElem?_set_cases current' with ⟨rfl, rfl⟩ | ⟨other, old⟩
    · trivial
    · have finds := sound.calls c' call' old
      obtain ⟨r, found, holds, _⟩ := phase ▸ sound.calls c call current
      simp only [commit]
      rw [lookup]
      split
      next same =>
        rw [same, found] at finds ⊢
        exact finds_persist other holds finds
      next => exact finds
  | ticked => exact sound.calls c' call' current'
  | collected =>
    unfold garbageCollect at current' ⊢
    split at current'
    next off =>
      rw [if_pos off]
      exact sound.calls c' call' current'
    next on =>
      rw [if_neg on]
      exact kept_of_finds quiet current' (sound.calls c' call' current')

variable {r : Row}

theorem RowSound.mono {log' : List Event} (sound : RowSound d log r)
    (grows : ∀ e ∈ log, e ∈ log') : RowSound d log' r where
  blank := sound.blank
  whole := sound.whole
  dated := sound.dated
  written nonempty := by
    obtain ⟨e, member, about⟩ := sound.written nonempty
    exact ⟨e, grows e member, about⟩

theorem RowSound.unlock (sound : RowSound d log r) :
    RowSound d log r.unlock :=
  ⟨sound.blank, sound.whole, sound.dated, sound.written⟩

theorem RowSound.hold (sound : RowSound d log r) (c : Nat) :
    RowSound d log (r.hold c) :=
  ⟨sound.blank, sound.whole, sound.dated, sound.written⟩

theorem commit_wrote {acknowledged : Bool} :
    wrote ⟨key, now, if acknowledged then (decideBucket d.limiter now timestamps).2
      else some (.database .commit)⟩ = true := by
  cases acknowledged with
  | false => rfl
  | true =>
    rcases decideBucket_cases d.limiter now timestamps with ⟨_, decided⟩ | ⟨_, decided⟩
    · rw [decided]
      rfl
    · rw [decided]
      rfl

variable {e : Event}

theorem inOrder_iff (ordered : inOrder s call = true) (logged : e ∈ s.log)
    (same : e.key = call.key) (writer : wrote e = true) : e.now ≤ call.now := by
  have checked := List.all_eq_true.mp ordered e logged
  simpa [same, writer] using checked

theorem persist_sound (sound : RowSound d s.log r)
    (keyed : r.bucketKey = call.key) (parsed : r.timestamps.mapM parseStored = some timestamps)
    (ordered : inOrder s call = true) (writer : wrote e = true) (same : e.key = call.key)
    (stamped : e.now = call.now) :
    RowSound d (s.log ++ [e])
      (r.persist d.rounding call.now (decideBucket d.limiter call.now timestamps).1) where
  blank open' := by cases open'
  whole t member := by
    obtain ⟨u, _, rfl⟩ := List.mem_map.mp member
    exact d.rounding.whole u
  dated t member := by
    obtain ⟨u, kept, rfl⟩ := List.mem_map.mp member
    rcases mem_decideBucket kept with old | rfl
    · rw [mapM_parseStored parsed] at old
      obtain ⟨last, logged, about, wrote', stored⟩ := sound.written (List.ne_nil_of_mem old)
      have before := inOrder_iff ordered logged (about.trans keyed) wrote'
      calc d.rounding.round u = u := d.rounding.exact u (sound.whole u old)
        _ ≤ r.updatedAt := sound.dated u old
        _ = d.rounding.round last.now := stored.symm
        _ ≤ d.rounding.round call.now := d.rounding.mono _ _ before
    · exact Int.le_refl _
  written _ := ⟨e, List.mem_concat_self, same.trans keyed.symm, writer,
    by rw [stamped]; rfl⟩

theorem rows_step (sound : Sound d s) (quiet : disciplined d s a = true) (effect : Effect d s a s')
    (present : s'.rows.get? key = some r) : RowSound d s'.log r := by
  have older : ∀ e : Event, ∀ e' ∈ s.log, e' ∈ s.log ++ [e] :=
    fun e e' member => List.mem_append_left _ member
  cases effect with
  | skipped => exact (sound.rows key r present).mono (older _)
  | began | conflicted | selected | ticked => exact sound.rows key r present
  | @inserted c call rows current phase inserted =>
    rw [Table.get?_insert inserted] at present
    split at present
    next =>
      cases present
      exact ⟨fun _ => rfl, by simp, by simp, by simp⟩
    next => exact sound.rows key r present
  | notFound | vanished | unparsed | failed =>
    simp only [Replicas.abandon, get?_rollback] at present
    obtain ⟨old, found, kept⟩ := Option.bind_eq_some_iff.mp present
    have before := sound.rows key old found
    split at kept
    · obtain ⟨committed, ⟨⟩⟩ := of_then kept (by simp)
      exact before.unlock.mono (older _)
    · cases kept
      exact before.mono (older _)
  | @locked c row call old timestamps current phase found free parsed =>
    rw [Table.get?_updateKey] at present
    split at present
    next =>
      obtain ⟨before, found', rfl⟩ := Option.map_eq_some_iff.mp present
      exact (sound.rows key before found').hold c
    next => exact sound.rows key r present
  | @committed c call timestamps acknowledged current phase =>
    obtain ⟨old, found, _, parsed⟩ := phase ▸ sound.calls c call current
    have ordered : inOrder s call = true := by
      have checked := quiet
      simp only [disciplined, current, Option.all_some, Bool.and_eq_true] at checked
      exact checked.1
    simp only [commit] at present ⊢
    rw [Table.get?_updateKey] at present
    split at present
    next same =>
      rw [same, found] at present
      cases present
      exact persist_sound (sound.rows call.key old found) (Table.get?_key found) parsed ordered
        commit_wrote rfl rfl
    next => exact (sound.rows key r present).mono (older _)
  | collected =>
    unfold garbageCollect at present ⊢
    split at present
    next off =>
      rw [if_pos off]
      exact sound.rows key r present
    next on =>
      rw [if_neg on]
      simp only [Table.get?_deleteWhere] at present
      obtain ⟨found, _⟩ := Option.filter_eq_some_iff.mp present
      exact sound.rows key r found

variable {horizon : Time}

/-- A step that leaves the stored and the allowed times of the key alone. -/
theorem tracked_frame (sound : Sound d s) (named : key ≠ "")
    (pruned : Pruned d s'.log key horizon) (need : Needed d s key horizon)
    (grows : ∀ e ∈ s.log, e ∈ s'.log) (times : timesOf s'.rows key = timesOf s.rows key)
    (allowed : allowedTimes key s'.log = allowedTimes key s.log) :
    Covers horizon (timesOf s'.rows key) ((allowedTimes key s'.log).map d.rounding.round) := by
  rw [times, allowed]
  exact sound.tracked key named horizon need
    (fun e member same writer => pruned e (grows e member) same writer)

/-- A call that moves on, or returns, asks for no cutoff it did not ask for before. -/
theorem needed_move {phase : Phase} (need : Needed d s' key horizon)
    (current : s.calls[c]? = some call) (flying : inFlight call = true)
    (calls : s'.calls = s.calls.set c { call with phase := phase }) (clock : s'.clock = s.clock) :
    Needed d s key horizon := by
  rcases need with ⟨call', member, same, flying', cutoff⟩ | recent
  · rw [calls] at member
    rcases List.mem_or_eq_of_mem_set member with old | rfl
    · exact .inl ⟨call', old, same, flying', cutoff⟩
    · exact .inl ⟨call, List.mem_of_getElem? current, same, flying, cutoff⟩
  · rw [clock] at recent
    exact .inr recent

/-- A call that begins asks for the cutoff of the clock. -/
theorem needed_snoc (need : Needed d s' key horizon) (calls : s'.calls = s.calls ++ [call])
    (clock : s'.clock = s.clock) (read : call.now = s.clock) : Needed d s key horizon := by
  rcases need with ⟨call', member, same, flying, cutoff⟩ | recent
  · rw [calls] at member
    rcases mem_snoc member with old | rfl
    · exact .inl ⟨call', old, same, flying, cutoff⟩
    · exact .inr (read ▸ Int.le_of_eq cutoff.symm)
  · exact .inr (clock ▸ recent)

theorem timesOf_rollback (sound : Sound d s) (c : Nat) (key : String) :
    timesOf (rollback s.rows c) key = timesOf s.rows key := by
  unfold timesOf
  rw [get?_rollback]
  cases found : s.rows.get? key with
  | none => rfl
  | some r =>
    rw [Option.bind_some]
    split
    · split
      · rfl
      next discarded =>
        have blank := (sound.rows key r found).blank (by simpa using discarded)
        simp [blank]
    · rfl

theorem allowedTimes_refused (key : String) (log : List Event)
    (refused : e.result ≠ none) : allowedTimes key (log ++ [e]) = allowedTimes key log := by
  rw [allowedTimes_append, if_neg (fun h => refused h.2), List.append_nil]

theorem allowedTimes_other (log : List Event) (other : e.key ≠ key) :
    allowedTimes key (log ++ [e]) = allowedTimes key log := by
  rw [allowedTimes_append, if_neg (fun h => other h.1), List.append_nil]

section Commit

variable {c : Nat} {call : AllowCall} {timestamps : List Time} {acknowledged : Bool}
  (phase : call.phase = .locked timestamps)

include phase

theorem inFlight_of_locked : inFlight call = true := by
  unfold inFlight
  rw [phase]

variable (sound : Sound d s) (current : s.calls[c]? = some call)

include sound current

/-- The times a commit stores for its key: what the prune leaves of the stored times,
and the new one when the verdict is nil. -/
theorem timesOf_commit :
    timesOf (commit d s c call timestamps acknowledged).rows call.key =
      (decideBucket d.limiter call.now timestamps).1.map d.rounding.round := by
  obtain ⟨r, found, _, _⟩ := phase ▸ sound.calls c call current
  unfold timesOf commit
  rw [Table.get?_updateKey, if_pos rfl, found]
  rfl

theorem timestamps_eq :
    timestamps = timesOf s.rows call.key ∧ ∀ t ∈ timestamps, t % 1000 = 0 := by
  obtain ⟨r, found, _, parsed⟩ := phase ▸ sound.calls c call current
  have same := mapM_parseStored parsed
  subst same
  refine ⟨?_, (sound.rows call.key r found).whole⟩
  unfold timesOf
  rw [found]
  rfl

theorem covers_commit (named : call.key ≠ "")
    (need : Needed d (commit d s c call timestamps acknowledged) call.key horizon)
    (pruned : Pruned d (commit d s c call timestamps acknowledged).log call.key horizon) :
    Covers horizon (timesOf (commit d s c call timestamps acknowledged).rows call.key)
      ((allowedTimes call.key (commit d s c call timestamps acknowledged).log).map
        d.rounding.round) := by
  obtain ⟨stored, whole⟩ := timestamps_eq phase sound current
  have cutoff : call.now - d.limiter.window ≤ horizon :=
    pruned _ List.mem_concat_self rfl commit_wrote
  have need' := needed_move need current (inFlight_of_locked phase) rfl rfl
  have before : Covers horizon timestamps ((allowedTimes call.key s.log).map d.rounding.round) := by
    rw [stored]
    exact sound.tracked call.key named horizon need'
      (fun e member same writer => pruned e (List.mem_append_left _ member) same writer)
  have kept : ∀ t ∈ pruneOlderThan timestamps (call.now - d.limiter.window), t % 1000 = 0 :=
    fun t member => whole t ((List.dropWhile_sublist _).subset member)
  rw [timesOf_commit phase sound current]
  have after : Covers horizon (pruneOlderThan timestamps (call.now - d.limiter.window))
      ((allowedTimes call.key s.log).map d.rounding.round) := before.dropWhile cutoff
  unfold commit Replicas.answer
  rcases decideBucket_cases d.limiter call.now timestamps with ⟨_, decided⟩ | ⟨_, decided⟩
  · rw [decided, map_round_whole d.rounding kept, allowedTimes_refused]
    · exact after
    · cases acknowledged <;> simp
  · rw [decided, List.map_append, map_round_whole d.rounding kept]
    cases acknowledged with
    | false =>
      rw [allowedTimes_refused _ _ (by simp)]
      simpa using after.append (List.nil_sublist [d.rounding.round call.now])
    | true =>
      rw [allowedTimes_append, if_pos (by simp), List.map_append]
      exact after.append (List.Sublist.refl [d.rounding.round call.now])

/-- At a commit in order, the pruned times cover what counts for the call. -/
theorem room_commit (named : call.key ≠ "") (ordered : inOrder s call = true)
    (inside : roundedInside d s call = true)
    (room : (pruneOlderThan timestamps (call.now - d.limiter.window)).length < d.limiter.maxN) :
    (allowedTimes call.key s.log).countP (fun t => decide (call.now - d.limiter.window ≤ t)) <
      d.limiter.maxN := by
  obtain ⟨stored, _⟩ := timestamps_eq phase sound current
  have covers : Covers (call.now - d.limiter.window)
      (pruneOlderThan timestamps (call.now - d.limiter.window))
      ((allowedTimes call.key s.log).map d.rounding.round) := by
    rw [stored]
    refine (sound.tracked call.key named _ ?_ ?_).dropWhile (Int.le_refl _)
    · exact .inl ⟨call, List.mem_of_getElem? current, rfl, inFlight_of_locked phase, rfl⟩
    · intro e member same writer
      exact Int.sub_le_sub_right (inOrder_iff ordered member same writer) _
  have counted := covers.room room
  rw [List.countP_map] at counted
  have fewer : (allowedTimes call.key s.log).countP
        (fun t => decide (call.now - d.limiter.window ≤ t)) ≤
      (allowedTimes call.key s.log).countP
        ((fun t => decide (call.now - d.limiter.window ≤ t)) ∘ d.rounding.round) := by
    apply List.countP_mono_left
    intro t member recent
    have checked := List.all_eq_true.mp inside t member
    have recent := of_decide_eq_true recent
    rw [Bool.or_eq_true, decide_eq_true_iff, decide_eq_true_iff] at checked
    rcases checked with old | stays
    · exact absurd recent (Int.not_le.mpr old)
    · exact decide_eq_true stays
  exact Int.lt_of_le_of_lt (Int.ofNat_le.mpr fewer) counted

end Commit

theorem skipped_empty (config : Configured d) (idle : d.limiter.disabled = true ∨ key = "") :
    key = "" := by
  rcases idle with disabled | empty
  · rw [config.enabled] at disabled
    cases disabled
  · exact empty

/-- The locked read never comes back empty. -/
theorem ensured_finds (sound : Sound d s) (current : s.calls[c]? = some call)
    (phase : call.phase = .ensured) (missing : ∀ r, s.rows.get? call.key = some r → ¬ r.visible c) :
    False := by
  obtain ⟨r, found, visible⟩ := phase ▸ sound.calls c call current
  exact missing r found visible

theorem selected_finds (sound : Sound d s) {row : Nat} (current : s.calls[c]? = some call)
    (phase : call.phase = .selected row)
    (missing : ∀ r, s.rows.get? call.key = some r → r.id ≠ row) : False := by
  obtain ⟨r, found, _, same⟩ := phase ▸ sound.calls c call current
  exact missing r found same

/-- A row the sweep may take is older than every window still asked for. -/
theorem collected_old (config : Configured d) (sound : Sound d s)
    (quiet : disciplined d s (.garbageCollect now) = true) (past : now ≤ s.clock)
    (found : s.rows.get? key = some r) (swept : r.collectable d now = true)
    (need : Needed d s key horizon) : ∀ t ∈ r.timestamps, t < horizon := by
  intro t member
  obtain ⟨row, keyed⟩ := Table.get?_eq_some_iff.mp found
  have stored := sound.rows key r found
  have below : r.updatedAt < horizon := by
    rcases need with ⟨call, among, same, flying, rfl⟩ | recent
    · have checked := List.all_eq_true.mp quiet r row
      rw [swept, Bool.not_true, Bool.false_or] at checked
      have spared := List.all_eq_true.mp checked call among
      simp only [keyed, same, flying, ne_eq, not_true_eq_false, decide_false, Bool.not_true,
        Bool.false_or, Bool.and_eq_true, decide_eq_true_eq] at spared
      exact spared.2
    · obtain ⟨e, _, _, _, rounded⟩ := stored.written (List.ne_nil_of_mem member)
      have stale : r.updatedAt < d.rounding.round (now - d.maxWindow) := by
        unfold Row.collectable Row.stale at swept
        rw [Bool.and_eq_true] at swept
        exact of_decide_eq_true swept.2
      -- The stored time is whole, so rounding the cutoff cannot have moved it past.
      have before : r.updatedAt < now - d.maxWindow := by
        apply Int.not_le.mp
        intro reached
        have rounds := d.rounding.mono _ _ reached
        rw [d.rounding.exact r.updatedAt (by rw [← rounded]; exact d.rounding.whole _)] at rounds
        exact Int.not_le.mpr stale rounds
      have longer := config.longer
      unfold Time at *
      omega
  exact Int.lt_of_le_of_lt (stored.dated t member) below

theorem tracked_step (config : Configured d) (sound : Sound d s) (quiet : disciplined d s a = true)
    (effect : Effect d s a s') (named : key ≠ "") (need : Needed d s' key horizon)
    (pruned : Pruned d s'.log key horizon) :
    Covers horizon (timesOf s'.rows key) ((allowedTimes key s'.log).map d.rounding.round) := by
  have older : ∀ e : Event, ∀ e' ∈ s.log, e' ∈ s.log ++ [e] :=
    fun e e' member => List.mem_append_left _ member
  cases effect with
  | @skipped skippedKey idle =>
    have empty := skipped_empty config idle
    exact tracked_frame sound named pruned (needed_snoc need rfl rfl rfl) (older _) rfl
      (allowedTimes_other s.log (fun same => named (same.symm.trans empty)))
  | began =>
    exact tracked_frame sound named pruned (needed_snoc need rfl rfl rfl) (fun _ member => member)
      rfl rfl
  | inserted current phase inserted =>
    exact tracked_frame sound named pruned
      (needed_move need current (by simp [inFlight, phase]) rfl rfl) (fun _ member => member)
      (timesOf_insert inserted rfl key) rfl
  | conflicted current phase | selected current phase =>
    exact tracked_frame sound named pruned
      (needed_move need current (by simp [inFlight, phase]) rfl rfl) (fun _ member => member)
      rfl rfl
  | notFound current phase missing =>
    exact (ensured_finds sound current phase missing).elim
  | vanished current phase missing =>
    exact (selected_finds sound current phase missing).elim
  | locked current phase =>
    exact tracked_frame sound named pruned
      (needed_move need current (by simp [inFlight, phase]) rfl rfl) (fun _ member => member)
      (timesOf_hold s.rows _ _ key) rfl
  | @unparsed c row call current phase =>
    exact tracked_frame sound named pruned
      (needed_move need current (by simp [inFlight, phase]) rfl rfl) (older _)
      (timesOf_rollback sound c key) (allowedTimes_refused key s.log (by simp))
  | @failed c call stage current flying =>
    have flies : inFlight call = true := by
      unfold inFlight
      cases phase : call.phase <;> simp [phase, Phase.mayFail] at flying ⊢
    exact tracked_frame sound named pruned (needed_move need current flies rfl rfl) (older _)
      (timesOf_rollback sound c key) (allowedTimes_refused key s.log (by simp))
  | @committed c call timestamps acknowledged current phase =>
    by_cases same : call.key = key
    · subst same
      exact covers_commit phase sound current named need pruned
    · refine tracked_frame sound named pruned
        (needed_move need current (inFlight_of_locked phase) rfl rfl) (older _) ?_
        (allowedTimes_other s.log same)
      unfold timesOf commit
      rw [Table.get?_updateKey, if_neg (Ne.symm same)]
  | @ticked now forward =>
    have need' : Needed d s key horizon := by
      rcases need with call | recent
      · exact .inl call
      · exact .inr (Int.le_trans (Int.sub_le_sub_right forward _) recent)
    exact tracked_frame sound named pruned need' (fun _ member => member) rfl rfl
  | @collected now past =>
    unfold garbageCollect at need pruned ⊢
    split at need
    next off =>
      rw [if_pos off] at pruned ⊢
      exact sound.tracked key named horizon need pruned
    next on =>
      rw [if_neg on] at pruned ⊢
      have before := sound.tracked key named horizon need pruned
      unfold timesOf at before ⊢
      rw [Table.get?_deleteWhere]
      cases found : s.rows.get? key with
      | none =>
        rw [found] at before
        exact before
      | some r =>
        rw [found] at before
        rw [Option.filter_some]
        split
        · exact before
        next swept =>
          exact before.forget
            (collected_old config sound quiet past found (by simpa using swept) need)

theorem capped_step (config : Configured d) (sound : Sound d s) (quiet : disciplined d s a = true)
    (effect : Effect d s a s') : ClusterCapped d.limiter s' := by
  intro key named
  have before := sound.capped key named
  cases effect with
  | @skipped skippedKey idle =>
    have empty := skipped_empty config idle
    rw [allowedTimes_other s.log (fun same => named (same.symm.trans empty))]
    exact before
  | began | inserted | conflicted | selected | locked | ticked => exact before
  | notFound current phase missing =>
    exact (ensured_finds sound current phase missing).elim
  | vanished current phase missing =>
    exact (selected_finds sound current phase missing).elim
  | unparsed | failed =>
    simp only [Replicas.abandon, Replicas.answer]
    rw [allowedTimes_refused key s.log (by simp)]
    exact before
  | @committed c call timestamps acknowledged current phase =>
    simp only [disciplined, current, Option.all_some, Bool.and_eq_true] at quiet
    unfold commit Replicas.answer
    by_cases same : call.key = key
    · subst same
      rcases decideBucket_cases d.limiter call.now timestamps with ⟨_, decided⟩ | ⟨room, decided⟩
      · rw [decided, allowedTimes_refused]
        · exact before
        · cases acknowledged <;> simp
      · rw [decided]
        cases acknowledged with
        | false =>
          rw [allowedTimes_refused _ _ (by simp)]
          exact before
        | true =>
          rw [allowedTimes_append, if_pos (by simp)]
          exact before.append (room_commit phase sound current named quiet.1 quiet.2 room)
    · rw [allowedTimes_other s.log same]
      exact before
  | collected =>
    unfold garbageCollect
    split
    · exact before
    · exact before

end Step

theorem initial_sound {d : Deployment} (config : Configured d) {s : Replicas}
    (initial : Initial s) : Sound d s := by
  obtain ⟨rows, calls, log, _⟩ := initial
  refine ⟨?_, ?_, ?_, ?_⟩
  · intro c call current
    rw [calls] at current
    cases current
  · intro key r found
    rw [rows, Table.get?_empty] at found
    cases found
  · intro key _ horizon _ _ cutoff _
    rw [log]
    exact Nat.zero_le _
  · intro key _
    rw [log]
    exact capped_nil (Int.le_of_lt config.positive)

theorem step_sound {d : Deployment} (config : Configured d) {s s' : Replicas} {a : Action}
    (sound : Sound d s) (quiet : disciplined d s a = true) (effect : Effect d s a s') :
    Sound d s' where
  calls _ _ current := calls_step sound quiet effect current
  rows _ _ present := rows_step sound quiet effect present
  tracked _ named _ need pruned := tracked_step config sound quiet effect named need pruned
  capped := capped_step config sound quiet effect

theorem cluster_capped_of_disciplined (d : Deployment) (config : Configured d) {s : Replicas}
    (reached : ReachableUnder (step d) Initial (fun s a => disciplined d s a = true) s) :
    ClusterCapped d.limiter s := by
  have sound : Sound d s := reached.invariant (fun _ initial => initial_sound config initial)
    (fun _ _ _ sound quiet taken => step_sound config sound quiet (step_effect taken))
  exact sound.capped

/-- Rounding to the nearest microsecond. -/
def nearestMicrosecond : TimestampRounding where
  round t := (t + 500) / 1000 * 1000
  mono a b le := by
    unfold Time at *
    omega
  whole t := by
    unfold Time at *
    omega
  exact t whole := by
    unfold Time at *
    omega

/-- Windows of ten microseconds. -/
def sampleDeployment (maxN : Int) : Deployment :=
  ⟨nearestMicrosecond, newPostgresSlidingWindowLimiter maxN 10000, 10000⟩

def emptyTable : Replicas := ⟨.empty _, 0, [], 0, []⟩

theorem emptyTable_initial : Initial emptyTable := ⟨rfl, rfl, rfl, by decide⟩

theorem sampleDeployment_configured {maxN : Int} (positive : 0 < maxN) :
    Configured (sampleDeployment maxN) :=
  ⟨positive, decide_eq_false (by omega), Int.le_refl 10000⟩

/-- The statements of one call, without interruption. -/
def alone (c : Nat) : List Action := [.ensureRow c, .selectForUpdate c, .lockRow c, .commit c true]

/-- The second call waits for the first; the third is over the limit; after a sweep the
fourth is allowed. -/
def sweptRun : List Action :=
  [.allow "k", .allow "k"] ++ alone 0 ++ alone 1 ++ [.tick 5000, .allow "k"] ++ alone 2 ++
    [.tick 30000, .garbageCollect 30000, .allow "k"] ++ alone 3

def answers (s : Replicas) : List (Option LimiterError) := s.log.map Event.result

theorem cluster_capped_sweptRun :
    ∃ s, ReachableUnder (step (sampleDeployment 2)) Initial
        (fun s a => disciplined (sampleDeployment 2) s a = true) s ∧
      answers s = [none, none, some .errRateLimited, none] ∧
      ClusterCapped (sampleDeployment 2).limiter s := by
  obtain ⟨s, reached, answered⟩ := exists_reachable_of_replay (step (sampleDeployment 2))
    (disciplined (sampleDeployment 2)) emptyTable_initial sweptRun
    (fun s => answers s = [none, none, some .errRateLimited, none]) (by decide +kernel)
  exact ⟨s, reached, answered, cluster_capped_of_disciplined _
    (sampleDeployment_configured (by decide)) reached⟩

/-- The sweep removes the row between the insert that met it and the locked read; the
call is allowed and not recorded, and so is the next one. -/
def overtakenRun : List Action :=
  [.allow "k"] ++ alone 0 ++ [.tick 20000, .allow "k", .ensureRow 1, .garbageCollect 20000,
    .selectForUpdate 1, .allow "k"] ++ alone 2

theorem cap_exceeded_overtakenRun :
    ∃ s, Reachable (step (sampleDeployment 1)) Initial s ∧
      ¬ ClusterCapped (sampleDeployment 1).limiter s := by
  obtain ⟨s, reached, twice⟩ := exists_reached_of_replay (step (sampleDeployment 1))
    emptyTable_initial overtakenRun (fun s => allowedTimes "k" s.log = [0, 20000, 20000])
    (by decide +kernel)
  refine ⟨s, reached, fun capped => ?_⟩
  have bound := capped "k" (by decide) 20000
  rw [twice] at bound
  revert bound
  decide

end Certctl.Guarantees.ClusterRateCap

import Certctl.Lib.Lists
import Certctl.Source.Notifications

/-!
The retry sweep: which rows it selects, what it makes of each, and where sweeps without end
lead. A row that is due waits behind the rows due before it; each sweep takes some of these
and puts none back before it, so its turn comes, and its attempts run out.
-/
namespace Certctl.Source.Notifications

open Lib

/-- The row is in reach of the sweep, now or later. -/
def scheduled (n : NotificationEvent) : Bool :=
  n.nextRetryAt.isSome && decide (n.retryCount < notifRetryMaxAttempts)

/-- How often sweeps have tried the row since its creation or its last requeue. -/
def attempts (db : DB) (id : String) : Nat := db.attempts.count id

variable {db : DB} {n row : NotificationEvent} {choices : Nat → Nat → Choice} {now t r : Time}
  {db' : DB}

theorem attempts_of_eq (same : db'.attempts = db.attempts) (id : String) :
    attempts db' id = attempts db id := by
  rw [attempts, same, attempts]

/-- The rows of the list are as they are stored, each once. -/
structure Fetched (db : DB) (rows : List NotificationEvent) : Prop where
  stored : ∀ n ∈ rows, db.notifications.get? n.id = some n
  distinct : (rows.map NotificationEvent.id).Nodup

theorem Fetched.of_sublist_perm {rows filtered sorted : List NotificationEvent}
    (filtering : filtered.Sublist db.notifications.rows) (sorting : sorted.Perm filtered)
    (taken : rows.Sublist sorted) : Fetched db rows where
  stored _ member :=
    Table.get?_of_mem (filtering.subset (sorting.subset (taken.subset member)))
  distinct :=
    ((sorting.map _).nodup_iff.mpr ((filtering.map _).nodup db.notifications.unique)).sublist
      (taken.map _)

/-- The rest of the list is left as it was by a write to the first row. -/
theorem Fetched.rest {rest : List NotificationEvent} (fetched : Fetched db (n :: rest))
    (others : ∀ j, j ≠ n.id → db'.notifications.get? j = db.notifications.get? j) :
    Fetched db' rest := by
  obtain ⟨fresh, distinct⟩ := List.nodup_cons.mp fetched.distinct
  refine ⟨fun m member => ?_, distinct⟩
  have different : m.id ≠ n.id := fun same => fresh (same ▸ List.mem_map_of_mem member)
  rw [others m.id different]
  exact fetched.stored m (List.mem_cons_of_mem n member)

/-- What an attempt makes of a failed row, where every clock reading meets `reading`. -/
inductive Outcome (reading : Time → Prop) (row n : NotificationEvent) : Prop where
  | sent (status : n.status = .sent)
  | dead (status : n.status = .dead)
  | again (now : Time) (read : reading now) (status : n.status = .failed)
      (count : n.retryCount = row.retryCount + 1)
      (left : row.retryCount + 1 < notifRetryMaxAttempts)
      (next : n.nextRetryAt = some (now + backoff row.retryCount))

structure Attempted (reading : Time → Prop) (row : NotificationEvent) (db db' : DB) : Prop where
  own : ∃ n, db'.notifications.get? row.id = some n ∧ Outcome reading row n
  others : ∀ j, j ≠ row.id → db'.notifications.get? j = db.notifications.get? j
  ids : db'.notifications.rows.map NotificationEvent.id =
    db.notifications.rows.map NotificationEvent.id
  tried : ∀ j, attempts db' j ≤ attempts db j + if j = row.id then 1 else 0

variable {reading : Time → Prop}

theorem Attempted.of_patched {db₁ : DB}
    (stored : db.notifications.get? row.id = some row) {f : NotificationEvent → NotificationEvent}
    (patched : Patched row.id f db₁ db') (rows : db₁.notifications = db.notifications)
    (tried : db₁.attempts = db.attempts ∨ db₁.attempts = db.attempts ++ [row.id])
    (outcome : Outcome reading row (f row)) : Attempted reading row db db' where
  own := ⟨f row, by rw [patched.own, rows, stored, Option.map_some], outcome⟩
  others j different := by rw [patched.other different, rows]
  ids := by rw [patched.ids, rows]
  tried j := by
    rw [attempts_of_eq patched.attempts, attempts]
    rcases tried with same | more
    · rw [same]
      exact Nat.le_add_right _ _
    · rw [more, List.count_append, List.count_singleton]
      by_cases own : j = row.id
      · simp [own, attempts]
      · simp [own, Ne.symm own, attempts]

section Sweep

variable {may : DB → Op → Choice → Bool} {reading : Time → Prop}
  (calm : ∀ db o c, may db o c = true → c.base.fault = none)
  (reads : ∀ db o c, may db o c = true → reading c.base.now)
include calm reads

theorem ensures_retryRow {env : Env} {row : NotificationEvent} {next : Service}
    {post : Reply → DB → Prop} {db : DB} (stored : db.notifications.get? row.id = some row)
    (failed : row.status = .failed)
    (goOn : ∀ db', Attempted reading row db db' → next.Ensures (exec env) may post db') :
    (retryRow env row next).Ensures (exec env) may post db := by
  -- Both ways to sent differ only in whether an attempt was made before.
  have sends : ∀ db₁ now, db₁.notifications = db.notifications →
      (db₁.attempts = db.attempts ∨ db₁.attempts = db.attempts ++ [row.id]) →
      Program.Ensures (exec env) may (query (.updateStatus row.id .sent now) fun _ => next)
        post db₁ := by
    intro db₁ now rows tried c allowed
    have patched := exec_updateStatus env db₁ (calm _ _ _ allowed) row.id .sent now
    exact goOn _ (.of_patched stored patched rows tried (.sent rfl))
  unfold retryRow
  split
  · intro c allowed
    cases outcome : c.delivery with
    | none =>
      have result : (exec env db (.send .retry row) c).2 = none := outcome
      rw [result]
      exact fun c' _ => sends _ _ rfl (.inr rfl)
    | some cause =>
      have result : (exec env db (.send .retry row) c).2 = some cause := outcome
      rw [result]
      split
      · intro c' allowed'
        exact goOn _ (.of_patched (f := .bury cause) stored
          (execQuery_patched _ (calm _ _ _ allowed') rfl rfl) rfl (.inr rfl) (.dead rfl))
      next left =>
        intro c' allowed' c'' allowed''
        refine goOn _ (.of_patched
          (f := .recordFailure cause (c'.base.now + backoff row.retryCount)) stored
          (execQuery_patched _ (calm _ _ _ allowed'') rfl rfl) rfl (.inr rfl) ?_)
        have more : row.retryCount + 1 < notifRetryMaxAttempts := by
          omega
        exact .again c'.base.now (reads _ _ _ allowed') failed rfl more rfl
  · exact fun c _ => sends _ _ rfl (.inl rfl)

/-- What the sweep leaves of the store. -/
structure Swept (reading : Time → Prop) (rows : List NotificationEvent) (db db' : DB) : Prop where
  own : ∀ row ∈ rows, ∃ n, db'.notifications.get? row.id = some n ∧ Outcome reading row n
  others : ∀ j, j ∉ rows.map NotificationEvent.id →
    db'.notifications.get? j = db.notifications.get? j
  ids : db'.notifications.rows.map NotificationEvent.id =
    db.notifications.rows.map NotificationEvent.id
  tried : ∀ j, attempts db' j ≤ attempts db j + if j ∈ rows.map NotificationEvent.id then 1 else 0

omit calm reads in
theorem Swept.cons {row : NotificationEvent} {rest : List NotificationEvent} {db db₁ db' : DB}
    (distinct : ((row :: rest).map NotificationEvent.id).Nodup)
    (first : Attempted reading row db db₁) (later : Swept reading rest db₁ db') :
    Swept reading (row :: rest) db db' := by
  obtain ⟨fresh, -⟩ := List.nodup_cons.mp distinct
  refine ⟨fun n member => ?_, fun j outside => ?_, later.ids.trans first.ids, fun j => ?_⟩
  · rcases List.mem_cons.mp member with rfl | behind
    · rw [later.others n.id fresh]
      exact first.own
    · exact later.own n behind
  · rw [List.map_cons, List.mem_cons, not_or] at outside
    obtain ⟨different, behind⟩ := outside
    rw [later.others j behind, first.others j different]
  · have before := first.tried j
    have after := later.tried j
    by_cases own : j = row.id
    · subst own
      rw [if_neg fresh] at after
      rw [if_pos rfl] at before
      rw [List.map_cons, if_pos List.mem_cons_self]
      omega
    · rw [if_neg own] at before
      simp only [List.map_cons, List.mem_cons, own, false_or]
      omega

theorem ensures_retryLoop {env : Env} (rows : List NotificationEvent)
    (failed : ∀ row ∈ rows, row.status = .failed) {db : DB} (fetched : Fetched db rows) :
    (retryLoop env rows).Ensures (exec env) may (fun _ db' => Swept reading rows db db') db := by
  induction rows generalizing db with
  | nil =>
    exact ⟨fun _ member => (by cases member), fun _ _ => rfl, rfl, fun _ => Nat.le_add_right _ _⟩
  | cons row rest ih =>
    obtain ⟨here, later⟩ := List.forall_mem_cons.mp failed
    refine ensures_retryRow calm reads (fetched.stored row List.mem_cons_self) here
      (fun db₁ attempted => ?_)
    refine (ih later (fetched.rest attempted.others)).mono (fun _ db' swept => ?_)
    exact .cons fetched.distinct attempted swept

end Sweep

theorem retryEligible_iff :
    retryEligible now notifRetryMaxAttempts n = true ↔
      n.status = .failed ∧ (∃ due, n.nextRetryAt = some due ∧ due ≤ now) ∧
        n.retryCount < notifRetryMaxAttempts := by
  simp only [retryEligible, Bool.and_eq_true, decide_eq_true_eq, Option.any_eq_true, and_assoc]

/-- The rows a sweep selects. -/
def selected (db : DB) (now : Time) : List NotificationEvent :=
  (db.eligibleRows now notifRetryMaxAttempts).take 1000

theorem selected_fetched (db : DB) (now : Time) : Fetched db (selected db now) :=
  .of_sublist_perm List.filter_sublist (List.perm_insertionSort _ _) (List.take_sublist _ _)

theorem mem_eligibleRows :
    n ∈ db.eligibleRows now notifRetryMaxAttempts ↔
      n ∈ db.notifications.rows ∧ retryEligible now notifRetryMaxAttempts n = true := by
  rw [DB.eligibleRows, Jobs.orderBy, (List.perm_insertionSort _ _).mem_iff, List.mem_filter]

theorem eligible_of_selected (member : n ∈ selected db now) :
    retryEligible now notifRetryMaxAttempts n = true :=
  (mem_eligibleRows.mp (List.mem_of_mem_take member)).2

theorem ensures_retryFailed {may : DB → Op → Choice → Bool} (reading : Time → Prop)
    (calm : ∀ db o c, may db o c = true → c.base.fault = none)
    (reads : ∀ db o c, may db o c = true → reading c.base.now) {env : Env} :
    (retryFailedNotifications env).Ensures (exec env) may
      (fun _ db' => ∃ now, reading now ∧ Swept reading (selected db now) db db') db := by
  intro c allowed c' allowed'
  have result : exec env (exec env db (.base .now) c).1
      (.query (.listRetryEligible c.base.now notifRetryMaxAttempts notifRetrySweepLimit)) c' =
      (db, .ok (selected db c.base.now)) := by
    simp only [exec, execQuery_calm _ (calm _ _ _ allowed'), perform]
    rfl
  rw [show (exec env db (.base .now) c).2 = c.base.now from rfl, result]
  refine (ensures_retryLoop calm reads _ ?_ (selected_fetched db c.base.now)).mono
    (fun _ db' swept => ⟨c.base.now, reads _ _ _ allowed, swept⟩)
  intro row member
  exact (retryEligible_iff.mp (eligible_of_selected member)).1

/-- Retry sweeps one after the other, the k-th with the choices of its surroundings. -/
def sweeps (env : Env) (choices : Nat → Nat → Choice) : Nat → DB → DB
  | 0, db => db
  | k + 1, db =>
    ((retryFailedNotifications env).run (exec env) (choices k) 0 (sweeps env choices k db)).1

/-- The repository does not fail, and the clock passes every time for good. -/
structure Unending (choices : Nat → Nat → Choice) : Prop where
  calm : ∀ k j, (choices k j).base.fault = none
  late : ∀ t, ∃ K, ∀ k, K ≤ k → ∀ j, t ≤ (choices k j).base.now

theorem Unending.shift (unending : Unending choices) (k : Nat) :
    Unending (fun i => choices (k + i)) where
  calm i j := unending.calm (k + i) j
  late t := by
    obtain ⟨K, late⟩ := unending.late t
    exact ⟨K, fun i beyond => late (k + i) (beyond.trans (Nat.le_add_left i k))⟩

theorem sweeps_add (env : Env) (choices : Nat → Nat → Choice) (k m : Nat) (db : DB) :
    sweeps env choices (k + m) db =
      sweeps env (fun i => choices (k + i)) m (sweeps env choices k db) := by
  induction m with
  | zero => rfl
  | succ m ih => rw [← Nat.add_assoc, sweeps, ih, sweeps]

/-- The repository does not fail, and the clock readings meet `reading`. -/
def reads (reading : Time → Prop) [DecidablePred reading] (_ : DB) (_ : Op) (c : Choice) : Bool :=
  c.base.fault.isNone && decide (reading c.base.now)

theorem swept_of_reads (env : Env) (reading : Time → Prop) [DecidablePred reading]
    {choices : Nat → Choice} (calm : ∀ j, (choices j).base.fault = none)
    (met : ∀ j, reading (choices j).base.now) (db : DB) :
    ∃ now, reading now ∧ Swept reading (selected db now) db
      ((retryFailedNotifications env).run (exec env) choices 0 db).1 := by
  have always : ∀ db o i, reads reading db o (choices i) = true := by
    intro db o i
    simp [reads, calm i, met i]
  have within := (retryFailedNotifications env).meets_of_forall (exec env) always 0 db
  refine (ensures_retryFailed reading ?_ ?_).run within
  · intro db o c allowed
    simp only [reads, Bool.and_eq_true, Option.isNone_iff_eq_none] at allowed
    exact allowed.1
  · intro db o c allowed
    simp only [reads, Bool.and_eq_true, decide_eq_true_eq] at allowed
    exact allowed.2

/-- The row has come to an end. -/
def Ended (n : NotificationEvent) : Prop := n.status = .sent ∨ n.status = .dead

/-- The row has come to an end, or an attempt is behind it and the next one is scheduled. -/
def Tried (row n : NotificationEvent) : Prop :=
  Ended n ∨ n.status = .failed ∧ scheduled n = true ∧ row.retryCount < n.retryCount

theorem Outcome.tried (outcome : Outcome reading row n) : Tried row n := by
  cases outcome with
  | sent status => exact .inl (.inl status)
  | dead status => exact .inl (.inr status)
  | again now read status count left next =>
    exact .inr ⟨status, by simp [scheduled, next, count, left], by omega⟩

theorem Swept.row_cases {rows : List NotificationEvent}
    (swept : Swept reading rows db db') (fetched : Fetched db rows)
    (found : db.notifications.get? row.id = some row) :
    (∃ n, db'.notifications.get? row.id = some n ∧ Tried row n) ∨
      row ∉ rows ∧ db'.notifications.get? row.id = some row := by
  by_cases member : row.id ∈ rows.map NotificationEvent.id
  · obtain ⟨other, listed, same⟩ := List.mem_map.mp member
    have stored := fetched.stored other listed
    rw [same, found] at stored
    cases stored
    obtain ⟨n, there, outcome⟩ := swept.own row listed
    exact .inl ⟨n, there, outcome.tried⟩
  · refine .inr ⟨fun listed => member (List.mem_map_of_mem listed), ?_⟩
    rw [swept.others row.id member, found]

/-- How many rows are due by `r`. -/
def due (r : Time) (db : DB) : Nat :=
  (db.notifications.rows.map NotificationEvent.id).countP (fun id =>
    (db.notifications.get? id).any (retryEligible r notifRetryMaxAttempts))

theorem backoff_pos (retryCount : Nat) : 0 < backoff retryCount := by
  refine lt_min ?_ (by decide)
  exact Int.mul_pos (Int.pow_pos (by decide)) (by decide)

/-- A row that was tried at or after `r` is not due by `r` any more. -/
theorem Outcome.not_due (after : r ≤ t) (outcome : Outcome (t ≤ ·) row n) :
    retryEligible r notifRetryMaxAttempts n = false := by
  rw [← Bool.not_eq_true, retryEligible_iff]
  rintro ⟨failed, ⟨at', next, early⟩, -⟩
  cases outcome with
  | sent status => simp [status] at failed
  | dead status => simp [status] at failed
  | again now read status count left next' =>
    rw [next'] at next
    cases next
    have later := backoff_pos row.retryCount
    have bound : r < now + backoff row.retryCount :=
      lt_of_le_of_lt (after.trans read) (Int.lt_add_of_pos_right now later)
    exact absurd early (Int.not_le.mpr bound)

section Due

variable (found : db.notifications.get? row.id = some row)
  (eligible : retryEligible r notifRetryMaxAttempts row = true) (next : row.nextRetryAt = some r)

include found eligible next

/-- What stands before a due row in the order of the sweep. -/
theorem exists_selected_before (after : r ≤ now) (left : row ∉ selected db now) :
    ∃ first ∈ selected db now, retryEligible r notifRetryMaxAttempts first = true := by
  obtain ⟨failed, -, more⟩ := retryEligible_iff.mp eligible
  have listed : row ∈ db.eligibleRows now notifRetryMaxAttempts :=
    mem_eligibleRows.mpr ⟨Table.get?_mem found,
      retryEligible_iff.mpr ⟨failed, ⟨r, next, after⟩, more⟩⟩
  have split := List.take_append_drop 1000 (db.eligibleRows now notifRetryMaxAttempts)
  have behind : row ∈ (db.eligibleRows now notifRetryMaxAttempts).drop 1000 := by
    rw [← split, List.mem_append] at listed
    exact listed.resolve_left left
  have sorted : (db.eligibleRows now notifRetryMaxAttempts).Pairwise
      (fun a b => a.nextRetryAt.getD 0 ≤ b.nextRetryAt.getD 0) := List.pairwise_insertionSort _ _
  rw [← split, List.pairwise_append] at sorted
  have long : 1000 < (db.eligibleRows now notifRetryMaxAttempts).length := by
    by_contra short
    rw [List.drop_eq_nil_of_le (Nat.not_lt.mp short)] at behind
    cases behind
  obtain ⟨first, member⟩ : ∃ first, first ∈ selected db now := by
    apply List.exists_mem_of_length_pos
    rw [selected, List.length_take]
    omega
  refine ⟨first, member, ?_⟩
  obtain ⟨failed', ⟨at', next', -⟩, more'⟩ := retryEligible_iff.mp (eligible_of_selected member)
  have before := sorted.2.2 first member row behind
  rw [next, next', Option.getD_some, Option.getD_some] at before
  exact retryEligible_iff.mpr ⟨failed', ⟨at', next', before⟩, more'⟩

/-- A sweep after `r` that does not come to a row due at `r` takes rows from before it, and
puts none there. -/
theorem due_lt (after : r ≤ t) (read : t ≤ now) (swept : Swept (t ≤ ·) (selected db now) db db')
    (left : row ∉ selected db now) : due r db' < due r db := by
  obtain ⟨first, member, early⟩ := exists_selected_before found eligible next (after.trans read)
    left
  have stored := (selected_fetched db now).stored first member
  obtain ⟨n, there, outcome⟩ := swept.own first member
  unfold due
  rw [swept.ids]
  refine countP_lt_countP (x := first.id) ?_ (List.mem_map_of_mem (Table.get?_mem stored)) ?_ ?_
  · intro j _ stillDue
    by_cases tried : j ∈ (selected db now).map NotificationEvent.id
    · obtain ⟨other, listed, rfl⟩ := List.mem_map.mp tried
      obtain ⟨m, there, outcome⟩ := swept.own other listed
      rw [there, Option.any_some, outcome.not_due after] at stillDue
      cases stillDue
    · rwa [swept.others j tried] at stillDue
  · rw [stored, Option.any_some, early]
  · rw [there, Option.any_some, outcome.not_due after]

/-- Once the clock has passed its time, a row is tried: each sweep that does not come to it
leaves fewer rows due before it. -/
theorem tried_of_late (env : Env)
    (calm : ∀ k j, (choices k j).base.fault = none) (late : ∀ k j, r ≤ (choices k j).base.now) :
    ∃ k n, (sweeps env choices k db).notifications.get? row.id = some n ∧ Tried row n := by
  induction size : due r db using Nat.strongRecOn generalizing db choices with
  | ind size' ih =>
    obtain ⟨now, read, swept⟩ := swept_of_reads env (r ≤ ·) (calm 0) (late 0) db
    rcases swept.row_cases (selected_fetched db now) found with ⟨n, there, tried⟩ | ⟨left, same⟩
    · exact ⟨1, n, there, tried⟩
    · have fewer := due_lt found eligible next (le_refl r) read swept left
      obtain ⟨k, n, there, tried⟩ := ih _ (size ▸ fewer) same
        (fun i => calm (1 + i)) (fun i => late (1 + i)) rfl
      exact ⟨1 + k, n, by rw [sweeps_add]; exact there, tried⟩

end Due

/-- Until a row is tried it stays as it is. -/
theorem tried_or_same (env : Env) (found : db.notifications.get? row.id = some row)
    (calm : ∀ k j, (choices k j).base.fault = none) (K : Nat) :
    (∃ k n, (sweeps env choices k db).notifications.get? row.id = some n ∧ Tried row n) ∨
      (sweeps env choices K db).notifications.get? row.id = some row := by
  induction K with
  | zero => exact .inr found
  | succ K ih =>
    rcases ih with tried | same
    · exact .inl tried
    · obtain ⟨now, -, swept⟩ :=
        swept_of_reads env (fun _ => True) (calm K) (fun _ => trivial) (sweeps env choices K db)
      exact (swept.row_cases (selected_fetched _ now) same).imp
        (fun ⟨n, there, tried⟩ => ⟨K + 1, n, there, tried⟩) And.right

section

variable (env : Env) (unending : Unending choices) (found : db.notifications.get? row.id = some row)
  (failed : row.status = .failed) (inReach : scheduled row = true)

include env unending found failed inReach

theorem eventually_tried :
    ∃ k n, (sweeps env choices k db).notifications.get? row.id = some n ∧ Tried row n := by
  simp only [scheduled, Bool.and_eq_true, decide_eq_true_eq] at inReach
  obtain ⟨r, next⟩ := Option.isSome_iff_exists.mp inReach.1
  have eligible : retryEligible r notifRetryMaxAttempts row = true :=
    retryEligible_iff.mpr ⟨failed, ⟨r, next, le_refl r⟩, inReach.2⟩
  obtain ⟨K, late⟩ := unending.late r
  rcases tried_or_same env found unending.calm K with tried | same
  · exact tried
  · obtain ⟨k, n, there, tried⟩ := tried_of_late same eligible next env
      (unending.shift K).calm (fun i => late (K + i) (Nat.le_add_right K i))
    exact ⟨K + k, n, by rw [sweeps_add]; exact there, tried⟩

/-- The attempts of a row run out. -/
theorem eventually_ended :
    ∃ k n, (sweeps env choices k db).notifications.get? row.id = some n ∧ Ended n := by
  induction left : notifRetryMaxAttempts - row.retryCount using Nat.strongRecOn
    generalizing row db choices with
  | ind left' ih =>
    obtain ⟨k, n, there, settled | ⟨again, inReach', more⟩⟩ :=
      eventually_tried env unending found failed inReach
    · exact ⟨k, n, there, settled⟩
    · have keyed := Table.get?_key there
      have below : n.retryCount < notifRetryMaxAttempts := by
        simp only [scheduled, Bool.and_eq_true, decide_eq_true_eq] at inReach'
        exact inReach'.2
      obtain ⟨m, n', there', settled⟩ := ih _ (by omega) (unending.shift k) (keyed ▸ there) again
        inReach' rfl
      exact ⟨k + m, n', by rw [sweeps_add, ← keyed]; exact there', settled⟩

end

variable (unscheduled : ∀ n ∈ db.notifications.rows, n.nextRetryAt = none)

include unscheduled

theorem eligibleRows_unscheduled (now : Time) :
    db.eligibleRows now notifRetryMaxAttempts = [] := by
  apply List.eq_nil_iff_forall_not_mem.mpr
  intro n member
  obtain ⟨stored, eligible⟩ := mem_eligibleRows.mp member
  obtain ⟨-, ⟨at', next, -⟩, -⟩ := retryEligible_iff.mp eligible
  rw [unscheduled n stored] at next
  cases next

/-- The sweep finds nothing among rows without a time for the retry, or it fails. -/
theorem execQuery_unscheduled (now : Time) (c : Choice) :
    let q := Query.listRetryEligible now notifRetryMaxAttempts notifRetrySweepLimit
    execQuery db q c = (db, .ok []) ∨ ∃ e, execQuery db q c = (db, .error e) := by
  simp only [execQuery, perform, eligibleRows_unscheduled unscheduled now, List.take_nil]
  rcases c.base.fault with - | ⟨cause, carried⟩
  · exact .inl rfl
  · cases carried <;> exact .inr ⟨_, rfl⟩

theorem sweeps_unscheduled {env : Env} (choices : Nat → Nat → Choice) (k : Nat) :
    sweeps env choices k db = db := by
  induction k with
  | zero => rfl
  | succ k ih =>
    simp only [sweeps, ih, retryFailedNotifications, clock, query, Program.run, exec, Jobs.exec]
    rcases execQuery_unscheduled unscheduled (choices k 0).base.now (choices k 1) with
      none | ⟨e, failed⟩
    · rw [none]
      rfl
    · rw [failed]
      rfl

end Certctl.Source.Notifications

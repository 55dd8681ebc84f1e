import Certctl.Guarantees.JobSamples
import Certctl.Source.RetrySweep

/-!
Failed notifications come to an end. A row in status failed has a time for its next retry
and attempts left, repeated sweeps bring it to sent or dead, and it takes at most the
maximum number of retries since its creation or its last requeue. This holds in the runs
in which no first delivery fails: that failure is written without a time for the retry, so
the sweep never selects the row.
-/
namespace Certctl.Guarantees.NotificationRetry

open Lib Source Source.Notifications

/-- One call after the other, each with the choices of its surroundings. -/
def step (env : Env) (db : DB) (m : Call × (Nat → Choice)) : Option DB :=
  some ((body env m.1).run (exec env) m.2 0 db).1

/-- The repository does not fail, and a first delivery that fails finds its row scheduled. -/
def covered (db : DB) (o : Op) (c : Choice) : Bool :=
  c.base.fault.isNone && match o with
    | .send .first n => c.delivery.isNone || (db.notifications.get? n.id).all scheduled
    | _ => true

def calls (env : Env) (db : DB) (m : Call × (Nat → Choice)) : Bool :=
  (body env m.1).meets (exec env) covered m.2 0 db

/-- A row and the attempts made for it. -/
structure Sound (tried : Nat) (n : NotificationEvent) : Prop where
  failed : n.status = .failed → scheduled n = true
  counted : n.status = .failed ∨ n.status = .pending → tried ≤ n.retryCount
  bounded : tried ≤ notifRetryMaxAttempts

def SoundAt (db : DB) (id : String) : Prop :=
  (db.notifications.get? id).elim (attempts db id = 0) (Sound (attempts db id))

/-- Every row is sound, and no attempt belongs to no row. -/
def Good (db : DB) : Prop := ∀ id, SoundAt db id

variable {env : Env} {db : DB} {id : String} {n : NotificationEvent}

theorem Good.sound (good : Good db) (found : db.notifications.get? id = some n) :
    Sound (attempts db id) n := by
  have here := good id
  rwa [SoundAt, found] at here

variable {db' : DB} {post : Reply → DB → Prop}

/-- A row that stays is sound if no attempt is added to it. -/
theorem soundAt_of_le (rows : db'.notifications.get? id = db.notifications.get? id)
    (tried : attempts db' id ≤ attempts db id) (sound : SoundAt db id) : SoundAt db' id := by
  unfold SoundAt at sound ⊢
  rw [rows]
  cases found : db.notifications.get? id with
  | none =>
    rw [found] at sound
    exact Nat.eq_zero_of_le_zero (tried.trans (Nat.le_of_eq sound))
  | some n =>
    rw [found] at sound
    exact ⟨sound.failed, fun waiting => tried.trans (sound.counted waiting),
      tried.trans sound.bounded⟩

/-- A write to one row keeps the store good if it keeps the row sound. -/
theorem Good.patched (good : Good db) {f : NotificationEvent → NotificationEvent}
    (patched : Patched id f db db')
    (keeps : ∀ n, db.notifications.get? id = some n → Sound (attempts db id) n →
      Sound (attempts db id) (f n)) : Good db' := by
  intro j
  have tried := attempts_of_eq patched.attempts j
  by_cases own : j = id
  · subst own
    rw [SoundAt, patched.own, tried]
    cases found : db.notifications.get? j with
    | none =>
      have here := good j
      rwa [SoundAt, found] at here
    | some n => exact keeps n found (good.sound found)
  · exact soundAt_of_le (patched.other own) (Nat.le_of_eq tried) (good j)

theorem Sound.setStatus {tried : Nat} (sound : Sound tried n) {status : NotificationStatus}
    (sentAt : Time) (notFailed : status ≠ .failed) (notPending : status ≠ .pending) :
    Sound tried (n.setStatus status sentAt) :=
  ⟨fun failed => absurd failed notFailed,
    fun waiting => waiting.elim (fun h => absurd h notFailed) (fun h => absurd h notPending),
    sound.bounded⟩

theorem covered_calm {o : Op} {c : Choice} (allowed : covered db o c = true) :
    c.base.fault = none := by
  simp only [covered, Bool.and_eq_true, Option.isNone_iff_eq_none] at allowed
  exact allowed.1

section

variable (good : Good db)

include good

/-- What a delivery does to its row: it becomes sent, or it was scheduled and becomes failed. -/
theorem ensures_sendNotification {next : Except String Unit → Service}
    (waiting : ∀ row, db.notifications.get? n.id = some row → row.status = .pending)
    (goOn : ∀ result db', Good db' → (∀ j, j ≠ n.id →
      db'.notifications.get? j = db.notifications.get? j) →
      (next result).Ensures (exec env) covered post db') :
    (sendNotification env n next).Ensures (exec env) covered post db := by
  have sends : ∀ now, Program.Ensures (exec env) covered
      (query (.updateStatus n.id .sent now) fun _ => next (.ok ())) post db := by
    intro now c allowed
    have patched := exec_updateStatus env db (covered_calm allowed) n.id .sent now
    refine goOn _ _ (good.patched patched ?_) (fun j different => patched.other different)
    intro row _ sound
    exact sound.setStatus now (by decide) (by decide)
  unfold sendNotification
  split
  · intro c allowed
    cases outcome : c.delivery with
    | none =>
      have result : (exec env db (.send .first n) c).2 = none := outcome
      rw [result]
      exact fun c' _ => sends _
    | some cause =>
      have result : (exec env db (.send .first n) c).2 = some cause := outcome
      rw [result]
      intro c' allowed'
      have patched := exec_updateStatus env db (covered_calm allowed') n.id .failed zeroTime
      refine goOn _ _ (good.patched patched ?_) (fun j different => patched.other different)
      intro row found sound
      have inReach : scheduled row = true := by
        simp only [covered, outcome, found, Bool.and_eq_true] at allowed
        exact allowed.2
      exact ⟨fun _ => inReach, fun _ => sound.counted (.inr (waiting row found)), sound.bounded⟩
  · exact fun c _ => sends _

/-- An inserted row is sound: nothing has been tried for it. -/
theorem ensures_create (pending : n.status = .pending) {next : Except Jobs.RepoError Unit → Service}
    (goOn : ∀ result db', Good db' →
      (result = .ok () → ∀ row, db'.notifications.get? n.id = some row → row.status = .pending) →
      (next result).Ensures (exec env) covered post db') :
    (query (.create n) next).Ensures (exec env) covered post db := by
  intro c allowed
  simp only [exec, execQuery_calm db (covered_calm allowed), perform]
  cases inserted : db.notifications.insert
      { n with retryCount := 0, nextRetryAt := none, lastError := none } with
  | none => exact goOn _ _ good (fun failed => (by cases failed))
  | some notifications =>
    have rows := Table.get?_insert inserted
    obtain ⟨-, absent⟩ := Table.insert_rows inserted
    refine goOn _ _ (fun id => ?_) (fun _ row found => ?_)
    · have here := good id
      unfold SoundAt at here ⊢
      simp only [rows]
      split
      next own =>
        subst own
        rw [absent] at here
        have untried : attempts { db with notifications } n.id = 0 := here
        simp only [Option.elim_some, untried]
        exact ⟨fun failed => (by simp [pending] at failed), fun _ => Nat.zero_le _, Nat.zero_le _⟩
      next => exact here
    · simp only [rows, if_pos, Option.some.injEq] at found
      rw [← found]
      exact pending

theorem ensures_createAndSend {certID ownerID : String} {type : NotificationType}
    {channel : NotificationChannel} {message context : String} :
    (createAndSend env certID ownerID type channel message context finish).Ensures (exec env)
      covered (fun _ => Good) db := by
  have ends : ∀ result db', Good db' →
      (finish result).Ensures (exec env) covered (fun _ => Good) db' := by
    intro result db' kept
    cases result <;> exact kept
  intro c _
  refine ensures_resolveRecipient (fun recipient db₁ rows tried _ => ?_)
  have good₁ : Good db₁ := fun id =>
    soundAt_of_le (by rw [rows]) (Nat.le_of_eq (attempts_of_eq tried id)) (good id)
  intro c₁ _
  refine ensures_create (fun id => good₁ id) rfl (fun result db₂ good₂ waiting => ?_)
  cases result with
  | error e => exact ends _ _ good₂
  | ok value =>
    exact ensures_sendNotification good₂ (waiting rfl) (fun result db₃ good₃ _ => ends _ _ good₃)

theorem ensures_pendingLoop {total : Nat} (rows : List NotificationEvent)
    (waiting : ∀ n ∈ rows, n.status = .pending) {failed : Nat} (fetched : Fetched db rows) :
    (pendingLoop env total failed rows).Ensures (exec env) covered (fun _ => Good) db := by
  induction rows generalizing failed db with
  | nil =>
    unfold pendingLoop
    split
    · exact good
    · exact good
  | cons n rest ih =>
    obtain ⟨here, later⟩ := List.forall_mem_cons.mp waiting
    refine ensures_sendNotification good ?_ (fun result db' good' others => ?_)
    · intro row found
      rw [fetched.stored n List.mem_cons_self] at found
      cases found
      exact here
    · cases result with
      | error e => exact ih good' later (fetched.rest others)
      | ok value => exact ih good' later (fetched.rest others)

theorem Good.swept {reading : Time → Prop} {now : Time}
    (swept : Swept reading (selected db now) db db') : Good db' := by
  intro j
  have tried := swept.tried j
  by_cases own : j ∈ (selected db now).map NotificationEvent.id
  · obtain ⟨row, member, rfl⟩ := List.mem_map.mp own
    have sound := good.sound ((selected_fetched db now).stored row member)
    obtain ⟨failed, -, left⟩ := retryEligible_iff.mp (eligible_of_selected member)
    have counted := sound.counted (.inl failed)
    obtain ⟨n, found, outcome⟩ := swept.own row member
    rw [if_pos own] at tried
    have bounded : attempts db' row.id ≤ notifRetryMaxAttempts := by omega
    rw [SoundAt, found]
    cases outcome with
    | sent status | dead status => exact ⟨by simp [status], by simp [status], bounded⟩
    | again now read status count more next =>
      refine ⟨fun _ => ?_, fun _ => ?_, bounded⟩
      · simp [scheduled, next, count, more]
      · omega
  · rw [if_neg own] at tried
    exact soundAt_of_le (swept.others j own) tried (good j)

theorem Good.requeued (patched : Patched id .reset db db') :
    Good { db' with attempts := db'.attempts.filter (fun a => decide (a ≠ id)) } := by
  intro j
  by_cases own : j = id
  · subst own
    have untried : attempts { db' with
        attempts := db'.attempts.filter (fun a => decide (a ≠ j)) } j = 0 :=
      List.count_eq_zero.mpr (by simp)
    rw [SoundAt, untried, patched.own]
    cases db.notifications.get? j with
    | none => rfl
    | some n => exact ⟨fun failed => (by cases failed), fun _ => Nat.zero_le _, Nat.zero_le _⟩
  · refine soundAt_of_le (patched.other own) ?_ (good j)
    rw [attempts, List.count_filter (by simpa using own), patched.attempts, attempts]

theorem ensures_requeue :
    (requeueNotification id).Ensures (exec env) covered (fun _ => Good) db := by
  intro c allowed
  simp only [exec, execQuery_calm db (covered_calm allowed), perform]
  obtain ⟨db', updated, patched⟩ | ⟨⟨e, failed⟩, -⟩ :=
    updateRow_patched db id .reset (fun _ => rfl)
  · rw [updated]
    exact good.requeued patched
  · rw [failed]
    exact good

theorem ensures_processPending :
    (processPendingNotifications env).Ensures (exec env) covered (fun _ => Good) db := by
  intro c allowed
  simp only [exec, execQuery_calm db (covered_calm allowed), perform]
  refine ensures_pendingLoop good _ ?_ ?_
  · intro n member
    have listed := List.mem_of_mem_drop (List.mem_of_mem_take member)
    rw [(List.perm_insertionSort _ _).mem_iff, List.mem_filter] at listed
    simpa [NotificationFilter.matches, pendingFilter] using listed.2
  · exact .of_sublist_perm List.filter_sublist (List.perm_insertionSort _ _)
      ((List.take_sublist _ _).trans (List.drop_sublist _ _))

theorem ensures_markAsRead : (markAsRead id).Ensures (exec env) covered (fun _ => Good) db := by
  intro c _ c' allowed
  have patched := exec_updateStatus env db (covered_calm allowed) id .read c.base.now
  have kept := good.patched patched (fun n _ sound => sound.setStatus _ (by decide) (by decide))
  generalize (exec env (exec env db (.base .now) c).1 (.query (.updateStatus id .read
    (exec env db (.base .now) c).2)) c').2 = result
  cases result <;> exact kept

theorem ensures_body (call : Call) :
    (body env call).Ensures (exec env) covered (fun _ => Good) db := by
  cases call with
  | thresholdAlert cert daysUntil threshold channel => exact ensures_createAndSend good
  | renewal cert failure | deployment cert targetName failure =>
    cases failure <;> exact ensures_createAndSend good
  | revocation cert reason => exact ensures_createAndSend good
  | processPending => exact ensures_processPending good
  | retryFailed =>
    refine (ensures_retryFailed (fun _ => True) (fun _ _ _ => covered_calm)
      (fun _ _ _ _ => trivial)).mono ?_
    rintro _ db' ⟨now, -, swept⟩
    exact good.swept swept
  | requeue id => exact ensures_requeue good
  | markAsRead id => exact ensures_markAsRead good

end

theorem good_of_reachable
    (reached : ReachableUnder (step env) Good (fun db m => calls env db m = true) db) :
    Good db := by
  refine reached.invariant (fun _ initial => initial) ?_
  intro db m db' good allowed taken
  cases taken
  exact (ensures_body good m.1).run allowed

/-- In a run in which no first delivery fails on a row that is not scheduled: every failed row
has a time for its next retry and attempts left, no row is tried more often than the maximum
since its creation or its last requeue, and sweeps without end bring every failed row to sent
or dead, whatever the deliveries give. -/
theorem failed_rows_retried (env : Env) {db : DB}
    (reached : ReachableUnder (step env) Good (fun db m => calls env db m = true) db) :
    (∀ n ∈ db.notifications.rows, n.status = .failed →
      n.nextRetryAt ≠ none ∧ n.retryCount < notifRetryMaxAttempts) ∧
    (∀ id, attempts db id ≤ notifRetryMaxAttempts) ∧
    ∀ n ∈ db.notifications.rows, n.status = .failed → ∀ choices, Unending choices →
      ∃ k n', (sweeps env choices k db).notifications.get? n.id = some n' ∧
        (n'.status = .sent ∨ n'.status = .dead) := by
  have good := good_of_reachable reached
  have inReach : ∀ n ∈ db.notifications.rows, n.status = .failed → scheduled n = true :=
    fun n member failed => (good.sound (Table.get?_of_mem member)).failed failed
  refine ⟨fun n member failed => ?_, fun id => ?_, fun n member failed choices unending => ?_⟩
  · have := inReach n member failed
    simp only [scheduled, Bool.and_eq_true, decide_eq_true_eq] at this
    exact ⟨Option.isSome_iff_ne_none.mp this.1, this.2⟩
  · have here := good id
    unfold SoundAt at here
    cases found : db.notifications.get? id with
    | none =>
      rw [found] at here
      exact (Nat.le_of_eq here).trans (Nat.zero_le _)
    | some n =>
      rw [found] at here
      exact here.bounded
  · exact eventually_ended env unending (Table.get?_of_mem member) failed
      (inReach n member failed)

/-- The webhook is wired and no owner is looked up. -/
def webhookOnly : Env where
  jobs := .plain
  notifiers := [.webhook]
  ownerRepo := false
  policyOf _ := ""
  date _ := "2026-03-01"
  date_plain _ := by decide

def plainRow (id : String) (status : NotificationStatus) (retryCount : Nat)
    (nextRetryAt : Option Time) : NotificationEvent where
  id := id
  type := .renewalSuccess
  certificateID := none
  channel := .webhook
  recipient := ""
  message := ""
  sentAt := none
  status := status
  error := none
  retryCount := retryCount
  nextRetryAt := nextRetryAt
  lastError := none
  createdAt := 0

def unreachable (now : Time) (id : String) : Choice :=
  ⟨{ Jobs.Choice.plain with now, id }, some "connection refused"⟩

def onlyRow (n : NotificationEvent) : DB := ⟨⟨[n], List.nodup_singleton _⟩, .empty _, .empty, []⟩

theorem good_onlyRow (failed : n.status = .failed → scheduled n = true) : Good (onlyRow n) := by
  intro id
  have untried : attempts (onlyRow n) id = 0 := rfl
  rw [SoundAt, untried]
  cases found : (onlyRow n).notifications.get? id with
  | none => rfl
  | some m =>
    have member := Table.get?_mem found
    rw [show (onlyRow n).notifications.rows = [n] from rfl, List.mem_singleton] at member
    subst member
    exact ⟨failed, fun _ => Nat.zero_le _, Nat.zero_le _⟩

/-- Every delivery fails; the clock of the k-th sweep shows `k`. -/
def outage (k _ : Nat) : Choice := unreachable k ""

theorem outage_unending : Unending outage where
  calm _ _ := rfl
  late t := ⟨t.toNat, fun _ beyond _ => Int.toNat_le.mp beyond⟩

def failedOnce (db : DB) : Bool :=
  db.notifications.rows.any (fun n => decide (n.id = "n-1") && decide (n.status = .failed) &&
    decide (n.retryCount = 1))

/-- A scheduled row whose first retry fails is tried again until it is sent or dead. -/
theorem failed_retry_settles :
    ∃ db, ReachableUnder (step webhookOnly) Good (fun db m => calls webhookOnly db m = true) db ∧
      failedOnce db = true ∧ attempts db "n-1" ≤ notifRetryMaxAttempts ∧
      ∃ k n', (sweeps webhookOnly outage k db).notifications.get? "n-1" = some n' ∧
        (n'.status = .sent ∨ n'.status = .dead) := by
  obtain ⟨db, reached, holds⟩ := exists_reachable_of_replay (step webhookOnly) (calls webhookOnly)
    (good_onlyRow (n := plainRow "n-1" .failed 0 (some 0)) (by decide))
    [(.retryFailed, fun _ => unreachable 0 "")] (fun db => failedOnce db) (by decide +kernel)
  obtain ⟨-, bounded, settles⟩ := failed_rows_retried webhookOnly reached
  refine ⟨db, reached, holds, bounded "n-1", ?_⟩
  obtain ⟨n, member, facts⟩ := List.any_eq_true.mp holds
  simp only [Bool.and_eq_true, decide_eq_true_eq] at facts
  have settled := settles n member facts.1.2 outage outage_unending
  rwa [facts.1.1] at settled

def Fresh (db : DB) : Prop := db = .empty

def zombie (db : DB) : Bool :=
  db.notifications.rows.any (fun n => decide (n.status = .failed)) &&
    db.notifications.rows.all (fun n => n.nextRetryAt.isNone)

/-- A notification whose first delivery fails is never tried again: it is failed, has no time
for a retry, and every sweep passes it by, whatever the surroundings do. -/
theorem first_failure_never_retried :
    ∃ db, Reachable (step webhookOnly) Fresh db ∧
      ∃ n ∈ db.notifications.rows, n.status = .failed ∧ n.nextRetryAt = none ∧
        ∀ choices k, (sweeps webhookOnly choices k db).notifications.get? n.id = some n := by
  obtain ⟨db, reached, holds⟩ := exists_reached_of_replay (step webhookOnly)
    (show Fresh .empty from rfl)
    [(.renewal (Jobs.plainCert "mc-1" .active "") none, fun _ => unreachable 0 "n-1")]
    (fun db => zombie db) (by decide +kernel)
  simp only [zombie, Bool.and_eq_true, List.any_eq_true, List.all_eq_true, decide_eq_true_eq,
    Option.isNone_iff_eq_none] at holds
  obtain ⟨⟨n, member, failed⟩, unscheduled⟩ := holds
  refine ⟨db, reached, n, member, failed, unscheduled n member, ?_⟩
  intro choices k
  rw [sweeps_unscheduled unscheduled]
  exact Table.get?_of_mem member

end Certctl.Guarantees.NotificationRetry

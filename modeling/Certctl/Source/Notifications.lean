import Certctl.Source.Jobs.Store

/-!
The notification service and its table: creation and first delivery, the processing of
pending rows, the sweep that retries failed ones, the dead letter and the requeue. A
repository call runs as one step and may fail by a choice of the surroundings, and so may
a delivery. The tables of the job services stand beside the notifications. Metrics and
audit events are left out, as no modelled function reads them.

Source: internal/service/notification.go; internal/repository/postgres/notification.go;
internal/domain/certificate.go, notification.go.
-/
namespace Certctl.Source.Notifications

open Lib
open Jobs (RepoError)

inductive NotificationType where
  | expirationWarning | renewalSuccess | renewalFailure | deploymentSuccess | deploymentFailure
  | policyViolation | revocation
  deriving DecidableEq

inductive NotificationChannel where
  | webhook | slack | teams | pagerDuty | opsGenie
  deriving DecidableEq

def NotificationChannel.text : NotificationChannel → String
  | .webhook => "Webhook"
  | .slack => "Slack"
  | .teams => "Teams"
  | .pagerDuty => "PagerDuty"
  | .opsGenie => "OpsGenie"

/-- `IsValidNotificationChannel`, with the channel it names. -/
def NotificationChannel.ofText? (text : String) : Option NotificationChannel :=
  [.webhook, .slack, .teams, .pagerDuty, .opsGenie].find? (fun ch =>
    decide (NotificationChannel.text ch = text))

inductive NotificationStatus where
  | pending | sent | failed | dead | read
  deriving DecidableEq

structure NotificationEvent where
  id : String
  type : NotificationType
  certificateID : Option String
  channel : NotificationChannel
  recipient : String
  message : String
  sentAt : Option Time
  status : NotificationStatus
  error : Option String
  retryCount : Nat
  nextRetryAt : Option Time
  lastError : Option String
  createdAt : Time

/-- What a policy says about alerts; the two maps are lists of entries. -/
structure RenewalPolicy where
  id : String
  alertThresholdsDays : List Int
  alertChannels : List (String × List String)
  alertSeverityMap : List (Int × String)

/-- Besides the tables the state records the deliveries that retry sweeps have attempted for
each row since its creation or its last requeue; no query reads them. -/
structure DB where
  notifications : Table NotificationEvent.id
  policies : Table RenewalPolicy.id
  jobs : Jobs.DB
  attempts : List String

def DB.empty : DB := ⟨.empty _, .empty _, .empty, []⟩

/-- Empty texts and `none` mean no filter on the column. -/
structure NotificationFilter where
  certificateID : String
  type : Option NotificationType
  status : Option NotificationStatus
  messageLike : String
  channel : Option NotificationChannel
  page : Int
  perPage : Int

def NotificationFilter.matches (filter : NotificationFilter) (n : NotificationEvent) : Bool :=
  (decide (filter.certificateID = "") || decide (n.certificateID = some filter.certificateID)) &&
    filter.type.all (fun t => decide (n.type = t)) &&
    filter.status.all (fun status => decide (n.status = status)) &&
    (decide (filter.messageLike = "") || like filter.messageLike.toList n.message.toList) &&
    filter.channel.all (fun ch => decide (n.channel = ch))

/-- `ORDER BY sent_at DESC NULLS LAST`. -/
def sentAfter (a b : NotificationEvent) : Bool :=
  match a.sentAt, b.sentAt with
  | _, none => true
  | none, some _ => false
  | some x, some y => decide (y ≤ x)

/-- The retry-sweep predicate. -/
def retryEligible (now : Time) (maxAttempts : Nat) (n : NotificationEvent) : Bool :=
  decide (n.status = .failed) && n.nextRetryAt.any (fun at' => decide (at' ≤ now)) &&
    decide (n.retryCount < maxAttempts)

def listRetryEligibleDefaultLimit : Nat := 1000

inductive Query where
  | create (n : NotificationEvent)
  | list (filter : NotificationFilter)
  | updateStatus (id : String) (status : NotificationStatus) (sentAt : Time)
  | listRetryEligible (now : Time) (maxAttempts : Nat) (limit : Int)
  | recordFailedAttempt (id lastError : String) (nextRetryAt : Time)
  | markAsDead (id lastError : String)
  | requeue (id : String)
  | getPolicy (id : String)

@[reducible] def Query.Value : Query → Type
  | .create _ | .updateStatus .. | .recordFailedAttempt .. | .markAsDead .. | .requeue _ => Unit
  | .list _ | .listRetryEligible .. => List NotificationEvent
  | .getPolicy _ => RenewalPolicy

/-- The text a repository puts before the driver's error. -/
def Query.context : Query → String
  | .create _ => "failed to create notification: "
  | .list _ => "failed to query notifications: "
  | .updateStatus .. => "failed to update notification status: "
  | .listRetryEligible .. => "failed to query retry-eligible notifications: "
  | .recordFailedAttempt .. => "failed to record notification retry attempt: "
  | .markAsDead .. => "failed to mark notification as dead: "
  | .requeue _ => "failed to requeue notification: "
  | .getPolicy _ => "failed to query renewal policy: "

namespace NotificationEvent

/-- The assignments of `UpdateStatus`. -/
def setStatus (status : NotificationStatus) (sentAt : Time) (n : NotificationEvent) :
    NotificationEvent :=
  { n with status, sentAt := some sentAt }

/-- The assignments of `RecordFailedAttempt`; the status stays. -/
def recordFailure (lastError : String) (nextRetryAt : Time) (n : NotificationEvent) :
    NotificationEvent :=
  { n with
    retryCount := n.retryCount + 1
    lastError := some lastError
    nextRetryAt := some nextRetryAt }

/-- The assignments of `MarkAsDead`. -/
def bury (lastError : String) (n : NotificationEvent) : NotificationEvent :=
  { n with status := .dead, nextRetryAt := none, lastError := some lastError }

/-- The assignments of `Requeue`. -/
def reset (n : NotificationEvent) : NotificationEvent :=
  { n with status := .pending, retryCount := 0, nextRetryAt := none, lastError := none }

end NotificationEvent

def errNotFound : RepoError := .notFound "notification not found: "

namespace DB

/-- `UPDATE notification_events SET ... WHERE id = $1`, an error if no row is met. -/
def updateRow (db : DB) (id : String) (f : NotificationEvent → NotificationEvent)
    (keeps : ∀ n, (f n).id = n.id) : Except RepoError DB :=
  match db.notifications.update id f keeps with
  | some notifications => .ok { db with notifications }
  | none => .error errNotFound

/-- The first page is 1; a page size of zero or above 500 becomes 50. -/
def page (filter : NotificationFilter) (rows : List NotificationEvent) : List NotificationEvent :=
  let perPage := if filter.perPage = 0 ∨ filter.perPage > 500 then 50 else filter.perPage.toNat
  (rows.drop ((filter.page - 1).toNat * perPage)).take perPage

def eligibleRows (db : DB) (now : Time) (maxAttempts : Nat) : List NotificationEvent :=
  Jobs.orderBy (fun n => n.nextRetryAt.getD 0)
    (db.notifications.rows.filter (retryEligible now maxAttempts))

end DB

/-- The query without faults: the tables after it and what it returns. -/
def perform (db : DB) : (q : Query) → Except RepoError (DB × q.Value)
  | .create n =>
    -- The retry columns take their defaults.
    match db.notifications.insert
      { n with retryCount := 0, nextRetryAt := none, lastError := none } with
    | some notifications => .ok ({ db with notifications }, ())
    | none => .error (.other ("failed to create notification: pq: duplicate key value " ++
        "violates unique constraint \"notification_events_pkey\""))
  | .list filter =>
    .ok (db, DB.page filter ((db.notifications.rows.filter filter.matches).insertionSort
      (fun a b => sentAfter a b = true)))
  | .updateStatus id status sentAt =>
    (db.updateRow id (.setStatus status sentAt) (fun _ => rfl)).map (·, ())
  | .listRetryEligible now maxAttempts limit =>
    .ok (db, (db.eligibleRows now maxAttempts).take
      (if limit ≤ 0 then listRetryEligibleDefaultLimit else limit.toNat))
  | .recordFailedAttempt id lastError nextRetryAt =>
    (db.updateRow id (.recordFailure lastError nextRetryAt) (fun _ => rfl)).map (·, ())
  | .markAsDead id lastError => (db.updateRow id (.bury lastError) (fun _ => rfl)).map (·, ())
  | .requeue id =>
    (db.updateRow id .reset (fun _ => rfl)).map (fun db' =>
      ({ db' with attempts := db'.attempts.filter (fun a => decide (a ≠ id)) }, ()))
  | .getPolicy id =>
    match db.policies.get? id with
    | some policy => .ok (db, policy)
    | none => .error (.notFound "renewal policy not found: ")

/-- What is open at each step: that of the job services, and whether a delivery fails. -/
structure Choice where
  base : Jobs.Choice
  delivery : Option String

inductive Delivery where
  | first | retry

/-- A call of the job services (among them the clock and a new identifier), a delivery, or a
call of the notification repository. -/
inductive Op where
  | base (o : Jobs.Op)
  | send (delivery : Delivery) (n : NotificationEvent)
  | query (q : Query)

@[reducible] def Op.Result : Op → Type
  | .base o => o.Result
  | .send .. => Option String
  | .query q => Except RepoError q.Value

/-- The wiring of the services, and the code the model takes as given: the owner and the
policy columns of a certificate, and the text of a date, which has no bracket. -/
structure Env where
  jobs : Jobs.Env
  notifiers : List NotificationChannel
  ownerRepo : Bool
  policyOf : String → String
  date : Time → String
  date_plain : ∀ t, '[' ∉ (date t).toList

def execQuery (db : DB) (q : Query) (c : Choice) : DB × Except RepoError q.Value :=
  match c.base.fault, perform db q with
  | none, .ok (db', value) => (db', .ok value)
  | none, .error e => (db, .error e)
  | some (cause, true), .ok (db', _) => (db', .error (.other (q.context ++ cause)))
  | some (cause, _), _ => (db, .error (.other (q.context ++ cause)))

def exec (env : Env) (db : DB) : (o : Op) → Choice → DB × o.Result
  | .base o, c =>
    ({ db with jobs := (Jobs.exec env.jobs db.jobs o c.base).1 },
      (Jobs.exec env.jobs db.jobs o c.base).2)
  | .send .first _, c => (db, c.delivery)
  | .send .retry n, c => ({ db with attempts := db.attempts ++ [n.id] }, c.delivery)
  | .query q, c => execQuery db q c

inductive Reply where
  | ok
  | error (message : String)

abbrev Service := Program Op.Result Reply

def query (q : Query) (next : Except RepoError q.Value → Service) : Service := .op (.query q) next

def clock (next : Time → Service) : Service := .op (.base .now) next

/-- The zero time, which is not NULL. -/
def zeroTime : Time := 0

def sendNotification (env : Env) (n : NotificationEvent) (next : Except String Unit → Service) :
    Service :=
  if n.channel ∈ env.notifiers then
    .op (.send .first n) fun
    | some cause =>
      query (.updateStatus n.id .failed zeroTime) fun _ =>
      next (.error ("failed to send via " ++ n.channel.text ++ ": " ++ cause))
    | none =>
      clock fun now => query (.updateStatus n.id .sent now) fun _ => next (.ok ())
  else
    -- No notifier for the channel: the row counts as sent.
    clock fun now => query (.updateStatus n.id .sent now) fun _ => next (.ok ())

def resolveRecipient (env : Env) (ownerID : String) (next : String → Service) : Service :=
  if env.ownerRepo = false ∨ ownerID = "" then next ownerID
  else
    .op (.base (.query (.getOwner ownerID))) fun
    | .error _ => next ownerID
    | .ok owner => if owner.email = "" then next ownerID else next owner.email

/-- The common part of the four senders. -/
def createAndSend (env : Env) (certID ownerID : String) (type : NotificationType)
    (channel : NotificationChannel) (message context : String)
    (next : Except String Unit → Service) : Service :=
  .op (.base .newID) fun id =>
  resolveRecipient env ownerID fun recipient =>
  clock fun createdAt =>
  let n : NotificationEvent :=
    { id, type, certificateID := some certID, channel, recipient, message, sentAt := none,
      status := .pending, error := none, retryCount := 0, nextRetryAt := none, lastError := none,
      createdAt }
  query (.create n) fun
  | .error e => next (.error (context ++ e.message))
  | .ok _ => sendNotification env n next

/-- The tag by which alerts are told apart. -/
def thresholdTag (threshold : Int) : String :=
  "[threshold:" ++ String.ofList (decimal threshold) ++ "]"

def alertBody (env : Env) (commonName : String) (expiresAt : Time) (daysUntil threshold : Int) :
    String :=
  if threshold ≤ 0 then
    "[EXPIRED] The certificate for " ++ commonName ++ " has expired (" ++ env.date expiresAt ++
      ").\n\nImmediate action required.\n\n" ++ thresholdTag threshold
  else
    "The certificate for " ++ commonName ++ " will expire in " ++
      String.ofList (decimal daysUntil) ++ " days (" ++ env.date expiresAt ++
      ").\n\nPlease schedule renewal.\n\n" ++ thresholdTag threshold

/-- The check of the channel is in its type. -/
def sendThresholdAlertOnChannel (env : Env) (cert : ManagedCertificate) (daysUntil threshold : Int)
    (channel : NotificationChannel) (next : Except String Unit → Service) : Service :=
  createAndSend env cert.id (env.jobs.ownerOf cert) .expirationWarning channel
    (alertBody env cert.commonName cert.expiresAt daysUntil threshold)
    "failed to create notification: " next

def thresholdFilter (certID : String) (threshold : Int) (channel : NotificationChannel) :
    NotificationFilter where
  certificateID := certID
  type := some .expirationWarning
  status := none
  messageLike := "%" ++ thresholdTag threshold ++ "%"
  channel := some channel
  page := 0
  perPage := 1

def hasThresholdNotificationOnChannel (certID : String) (threshold : Int)
    (channel : NotificationChannel) (next : Except String Bool → Service) : Service :=
  query (.list (thresholdFilter certID threshold channel)) fun
  | .error e => next (.error ("failed to check existing notifications: " ++ e.message))
  | .ok existing => next (.ok (!existing.isEmpty))

def finish : Except String Unit → Service
  | .ok _ => .done .ok
  | .error message => .done (.error message)

/-- The error of a failed renewal, `none` for a successful one. -/
def sendRenewalNotification (env : Env) (cert : ManagedCertificate) (failure : Option String) :
    Service :=
  match failure with
  | none =>
    createAndSend env cert.id (env.jobs.ownerOf cert) .renewalSuccess .webhook
      ("The certificate for " ++ cert.commonName ++
        " has been successfully renewed.\n\nNew expiry: " ++ env.date cert.expiresAt)
      "failed to create notification: " finish
  | some cause =>
    createAndSend env cert.id (env.jobs.ownerOf cert) .renewalFailure .webhook
      ("The certificate for " ++ cert.commonName ++ " failed to renew.\n\nError: " ++ cause ++
        "\n\nPlease investigate.") "failed to create notification: " finish

def sendDeploymentNotification (env : Env) (cert : ManagedCertificate) (targetName : String)
    (failure : Option String) : Service :=
  match failure with
  | none =>
    createAndSend env cert.id (env.jobs.ownerOf cert) .deploymentSuccess .webhook
      ("The certificate for " ++ cert.commonName ++ " has been successfully deployed to " ++
        targetName ++ ".") "failed to create notification: " finish
  | some cause =>
    createAndSend env cert.id (env.jobs.ownerOf cert) .deploymentFailure .webhook
      ("The certificate for " ++ cert.commonName ++ " failed to deploy to " ++ targetName ++
        ".\n\nError: " ++ cause ++ "\n\nPlease investigate.")
      "failed to create notification: " finish

def sendRevocationNotification (env : Env) (cert : ManagedCertificate) (reason : String) :
    Service :=
  createAndSend env cert.id (env.jobs.ownerOf cert) .revocation .webhook
    ("[REVOKED] The certificate for " ++ cert.commonName ++ " has been revoked.\n\nReason: " ++
      reason ++ "\n\nThis certificate is no longer valid.")
    "failed to create revocation notification: " finish

/-- `failed` counts the rows that could not be sent, out of `total`. -/
def pendingLoop (env : Env) (total : Nat) : Nat → List NotificationEvent → Service
  | failed, [] =>
    if failed > 0 then
      .done (.error ("failed to send " ++ toString failed ++ " out of " ++ toString total ++
        " notifications"))
    else .done .ok
  | failed, n :: rest =>
    sendNotification env n fun
    | .error _ => pendingLoop env total (failed + 1) rest
    | .ok _ => pendingLoop env total failed rest

/-- The page size asked for is above 500. -/
def pendingFilter : NotificationFilter := ⟨"", none, some .pending, "", none, 0, 1000⟩

def processPendingNotifications (env : Env) : Service :=
  query (.list pendingFilter) fun
  | .error e => .done (.error ("failed to list pending notifications: " ++ e.message))
  | .ok pending => pendingLoop env pending.length 0 pending

def notifRetryMaxAttempts : Nat := 5

def notifRetrySweepLimit : Int := 1000

def minute : Time := 60 * 1000000000

def notifRetryBackoffCap : Time := 60 * minute

/-- The wait after a failed attempt, from the count before it. -/
def backoff (retryCount : Nat) : Time := min (2 ^ retryCount * minute) notifRetryBackoffCap

def retryRow (env : Env) (row : NotificationEvent) (next : Service) : Service :=
  if row.channel ∈ env.notifiers then
    .op (.send .retry row) fun
    | none => clock fun now => query (.updateStatus row.id .sent now) fun _ => next
    | some cause =>
      if row.retryCount ≥ notifRetryMaxAttempts - 1 then
        query (.markAsDead row.id cause) fun _ => next
      else
        clock fun now =>
        query (.recordFailedAttempt row.id cause (now + backoff row.retryCount)) fun _ => next
  else clock fun now => query (.updateStatus row.id .sent now) fun _ => next

def retryLoop (env : Env) : List NotificationEvent → Service
  | [] => .done .ok
  | row :: rest => retryRow env row (retryLoop env rest)

def retryFailedNotifications (env : Env) : Service :=
  clock fun now =>
  query (.listRetryEligible now notifRetryMaxAttempts notifRetrySweepLimit) fun
  | .error e => .done (.error ("failed to list retry-eligible notifications: " ++ e.message))
  | .ok rows => retryLoop env rows

def requeueNotification (id : String) : Service :=
  query (.requeue id) fun
  | .error e => .done (.error ("failed to requeue notification: " ++ e.message))
  | .ok _ => .done .ok

def markAsRead (id : String) : Service :=
  clock fun now =>
  query (.updateStatus id .read now) fun
  | .error e => .done (.error e.message)
  | .ok _ => .done .ok

inductive Call where
  | thresholdAlert (cert : ManagedCertificate) (daysUntil threshold : Int)
      (channel : NotificationChannel)
  | renewal (cert : ManagedCertificate) (failure : Option String)
  | deployment (cert : ManagedCertificate) (targetName : String) (failure : Option String)
  | revocation (cert : ManagedCertificate) (reason : String)
  | processPending
  | retryFailed
  | requeue (id : String)
  | markAsRead (id : String)

def body (env : Env) : Call → Service
  | .thresholdAlert cert daysUntil threshold channel =>
    sendThresholdAlertOnChannel env cert daysUntil threshold channel finish
  | .renewal cert failure => sendRenewalNotification env cert failure
  | .deployment cert targetName failure => sendDeploymentNotification env cert targetName failure
  | .revocation cert reason => sendRevocationNotification env cert reason
  | .processPending => processPendingNotifications env
  | .retryFailed => retryFailedNotifications env
  | .requeue id => requeueNotification id
  | .markAsRead id => markAsRead id

/-- The store after a write to the row of one notification. -/
structure Patched (id : String) (f : NotificationEvent → NotificationEvent) (db db' : DB) :
    Prop where
  row : ∀ j, db'.notifications.get? j =
    if j = id then (db.notifications.get? j).map f else db.notifications.get? j
  ids : db'.notifications.rows.map NotificationEvent.id =
    db.notifications.rows.map NotificationEvent.id
  attempts : db'.attempts = db.attempts
  policies : db'.policies = db.policies
  jobs : db'.jobs = db.jobs

namespace Patched

variable {id : String} {f : NotificationEvent → NotificationEvent} {db db' : DB}

theorem own (patched : Patched id f db db') :
    db'.notifications.get? id = (db.notifications.get? id).map f := by
  rw [patched.row, if_pos rfl]

theorem other (patched : Patched id f db db') {j : String} (different : j ≠ id) :
    db'.notifications.get? j = db.notifications.get? j := by
  rw [patched.row, if_neg different]

end Patched

theorem updateRow_patched (db : DB) (id : String) (f : NotificationEvent → NotificationEvent)
    (keeps : ∀ n, (f n).id = n.id) :
    (∃ db', db.updateRow id f keeps = .ok db' ∧ Patched id f db db') ∨
      (∃ e, db.updateRow id f keeps = .error e) ∧ Patched id f db db := by
  unfold DB.updateRow
  cases updated : db.notifications.update id f keeps with
  | some notifications =>
    obtain ⟨rfl, -⟩ := Table.update_eq updated
    refine .inl ⟨_, rfl, fun j => ?_, ?_, rfl, rfl, rfl⟩
    · exact Table.get?_updateKey _ _ _ keeps j
    · exact Table.updateWhere_keys _ _ _ keeps
  | none =>
    refine .inr ⟨⟨_, rfl⟩, fun j => ?_, rfl, rfl, rfl, rfl⟩
    split
    next equal =>
      subst equal
      rw [Table.update_eq_none updated]
      rfl
    next => rfl

section Calm

variable (env : Env) (db : DB) {c : Choice} (calm : c.base.fault = none)
include calm

theorem execQuery_calm (q : Query) :
    execQuery db q c = match perform db q with
      | .ok (db', value) => (db', .ok value)
      | .error e => (db, .error e) := by
  unfold execQuery
  rw [calm]
  cases perform db q <;> rfl

theorem execQuery_patched {q : Query} {id : String} {f : NotificationEvent → NotificationEvent}
    {keeps : ∀ n, (f n).id = n.id} (unit : Unit = q.Value)
    (performed : perform db q = (db.updateRow id f keeps).map (fun db' => (db', unit ▸ ()))) :
    Patched id f db (execQuery db q c).1 := by
  rw [execQuery_calm db calm, performed]
  obtain ⟨db', updated, patched⟩ | ⟨⟨e, failed⟩, patched⟩ :=
    updateRow_patched db id f keeps
  · rw [updated]
    exact patched
  · rw [failed]
    exact patched

theorem exec_updateStatus (id : String) (status : NotificationStatus) (sentAt : Time) :
    Patched id (.setStatus status sentAt) db
      (exec env db (.query (.updateStatus id status sentAt)) c).1 :=
  execQuery_patched db calm rfl rfl

end Calm

/-- The lookup of the owner touches neither the notifications nor the policies. -/
theorem ensures_resolveRecipient {env : Env} {may : DB → Op → Choice → Bool} {ownerID : String}
    {next : String → Service} {post : Reply → DB → Prop} {db : DB}
    (goOn : ∀ recipient db', db'.notifications = db.notifications → db'.attempts = db.attempts →
      db'.policies = db.policies → (next recipient).Ensures (exec env) may post db') :
    (resolveRecipient env ownerID next).Ensures (exec env) may post db := by
  unfold resolveRecipient
  split
  · exact goOn _ _ rfl rfl rfl
  · intro c _
    generalize (exec env db (.base (.query (.getOwner ownerID))) c).2 = result
    cases result with
    | error e => exact goOn _ _ rfl rfl rfl
    | ok owner =>
      simp only
      split
      · exact goOn _ _ rfl rfl rfl
      · exact goOn _ _ rfl rfl rfl

end Certctl.Source.Notifications

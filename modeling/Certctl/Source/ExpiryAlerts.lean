import Certctl.Source.Jobs.Renewals
import Certctl.Source.Notifications

/-!
The expiry sweep with its alerts: the thresholds, tiers and channels of a policy, the alerts
sent for a certificate, and the loop over the expiring certificates with its cache of
policies. The days left are the exact quotient cut off at zero, without the rounding of the
floating-point division.

Source: internal/domain/certificate.go; internal/service/renewal.go.
-/
namespace Certctl.Source.Notifications

def entryOf {κ α : Type} [DecidableEq κ] (entries : List (κ × α)) (key : κ) : Option α :=
  (entries.find? (fun entry => decide (entry.1 = key))).map Prod.snd

inductive AlertSeverity where
  | informational | warning | critical

def AlertSeverity.text : AlertSeverity → String
  | .informational => "informational"
  | .warning => "warning"
  | .critical => "critical"

/-- `IsValidAlertSeverityTier`, with the tier it names. -/
def AlertSeverity.ofText? (text : String) : Option AlertSeverity :=
  [.informational, .warning, .critical].find? (fun tier =>
    decide (AlertSeverity.text tier = text))

def defaultAlertThresholds : List Int := [30, 14, 7, 0]

def defaultAlertChannels : List (String × List String) :=
  [("informational", ["Webhook"]), ("warning", ["Webhook"]), ("critical", ["Webhook"])]

def defaultAlertSeverityMap : List (Int × String) :=
  [(30, "informational"), (14, "warning"), (7, "warning"), (0, "critical")]

namespace RenewalPolicy

def effectiveAlertThresholds (p : RenewalPolicy) : List Int :=
  if p.alertThresholdsDays = [] then defaultAlertThresholds else p.alertThresholdsDays

def effectiveAlertChannels (p : RenewalPolicy) : List (String × List String) :=
  if p.alertChannels = [] then defaultAlertChannels else p.alertChannels

def effectiveAlertSeverity (p : RenewalPolicy) (threshold : Int) : String :=
  ((entryOf p.alertSeverityMap threshold).or (entryOf defaultAlertSeverityMap threshold)).getD
    "informational"

end RenewalPolicy

def thresholdsOf : Option RenewalPolicy → List Int
  | none => defaultAlertThresholds
  | some policy => policy.effectiveAlertThresholds

/-- The tier of a threshold; a text that names no tier counts as informational. -/
def tierOf (policy : Option RenewalPolicy) (threshold : Int) : AlertSeverity :=
  let text := match policy with
    | none => (entryOf defaultAlertSeverityMap threshold).getD "informational"
    | some policy => policy.effectiveAlertSeverity threshold
  (AlertSeverity.ofText? text).getD .informational

/-- The channels configured for a threshold. -/
def channelsOf (policy : Option RenewalPolicy) (threshold : Int) : List String :=
  let matrix := match policy with
    | none => defaultAlertChannels
    | some policy => policy.effectiveAlertChannels
  (entryOf matrix (tierOf policy threshold).text).getD []

/-- A text that names no channel is dropped. -/
def alertChannels (env : Env) (cert : ManagedCertificate) (daysUntil threshold : Int)
    (next : Service) : List String → Service
  | [] => next
  | text :: rest =>
    match NotificationChannel.ofText? text with
    | none => alertChannels env cert daysUntil threshold next rest
    | some channel =>
      hasThresholdNotificationOnChannel cert.id threshold channel fun
      | .error _ | .ok true => alertChannels env cert daysUntil threshold next rest
      | .ok false =>
        sendThresholdAlertOnChannel env cert daysUntil threshold channel fun _ =>
        alertChannels env cert daysUntil threshold next rest

def sendThresholdAlerts (env : Env) (cert : ManagedCertificate) (daysUntil : Int)
    (policy : Option RenewalPolicy) (next : Service) : List Int → Service
  | [] => next
  | threshold :: rest =>
    if daysUntil > threshold then sendThresholdAlerts env cert daysUntil policy next rest
    else
      alertChannels env cert daysUntil threshold
        (sendThresholdAlerts env cert daysUntil policy next rest) (channelsOf policy threshold)

/-- The policy of a certificate, from the cache or the table; a failed lookup is not cached. -/
def fetchPolicy (env : Env) (certID : String) (cache : List (String × RenewalPolicy))
    (next : Option RenewalPolicy → List (String × RenewalPolicy) → Service) : Service :=
  if env.policyOf certID = "" then next none cache
  else
    match entryOf cache (env.policyOf certID) with
    | some policy => next (some policy) cache
    | none =>
      query (.getPolicy (env.policyOf certID)) fun
      | .error _ => next none cache
      | .ok policy => next (some policy) ((env.policyOf certID, policy) :: cache)

def base (q : Jobs.Query) (next : Except Jobs.RepoError q.Value → Service) : Service :=
  .op (.base (.query q)) next

/-- A call of the job services, with what follows it. -/
def embed : Jobs.Service → Service → Service
  | .done _, next => next
  | .op o rest, next => .op (.base o) (fun result => embed (rest result) next)
  | .fork child rest, next => .fork (embed child (.done .ok)) (embed rest next)

/-- The copy in hand changes even where the write fails. -/
def updateCertExpiryStatus (cert : ManagedCertificate) (left : Time)
    (next : ManagedCertificate → Service) : Service :=
  let newStatus := if left ≤ 0 then .expired else .expiring
  if cert.status = newStatus then next cert
  else if cert.status = .renewalInProgress ∨ cert.status = .archived ∨ cert.status = .revoked then
    next cert
  else
    clock fun now =>
    base (.updateCertificate { cert with status := newStatus, updatedAt := now }) fun _ =>
    next { cert with status := newStatus, updatedAt := now }

/-- The renewal job of an expiring certificate. -/
def enqueueRenewal (env : Jobs.Env) (cert : ManagedCertificate) : Jobs.Service :=
  if cert.issuerID ∉ env.issuers then .done .ok
  else
    Jobs.askRenewalInfo cert.id fun early =>
    if early then .done .ok
    else
      Jobs.query (.listByCertificate cert.id) fun existing =>
      if Jobs.blocksRenewal existing then .done .ok
      else
        .op .newID fun id =>
        .op .now fun scheduledAt =>
        .op .now fun createdAt =>
        Jobs.query (.createJob (Jobs.newJob id cert.id .renewal .pending scheduledAt createdAt)) fun
        | .error _ => .done .ok
        | .ok _ =>
          Jobs.query (.updateCertificate { cert with status := .renewalInProgress }) fun _ =>
          .done .ok

def checkLoop (env : Env) : List (String × RenewalPolicy) → List ManagedCertificate → Service
  | _, [] => .done .ok
  | cache, cert :: rest =>
    if Jobs.expirySkips cert.status then checkLoop env cache rest
    else
      clock fun now =>
      fetchPolicy env cert.id cache fun policy cache =>
      updateCertExpiryStatus cert (cert.expiresAt - now) fun cert =>
      sendThresholdAlerts env cert ((cert.expiresAt - now).tdiv Jobs.day) policy
        (embed (enqueueRenewal env.jobs cert) (checkLoop env cache rest)) (thresholdsOf policy)

def checkExpiringCertificates (env : Env) : Service :=
  clock fun now =>
  base (.getExpiringCertificates (now + 31 * Jobs.day)) fun
  | .error e => .done (.error ("failed to fetch expiring certificates: " ++ e.message))
  | .ok expiring => checkLoop env [] expiring

end Certctl.Source.Notifications

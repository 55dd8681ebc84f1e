import Certctl.Guarantees.JobSamples
import Certctl.Source.AlertSweep

/-!
Expiry alerts reach every channel in every renewal cycle. When a sweep runs while the days
left of a certificate are at or below a threshold of its policy, a row of the current cycle
exists afterwards on every channel configured for the threshold. This holds where the sweep
comes to the certificate (it expires within 31 days, and its status is not one the sweep
passes over) and no row of an earlier cycle carries the tag of the threshold: the check for
earlier alerts looks at the tag in the message only, whichever cycle the row is from.
-/
namespace Certctl.Guarantees.AlertCoverage

open Lib Source Source.Notifications Source.Notifications.Alerting

/-- The store, and which rows a certificate had when it was last renewed. -/
structure State where
  db : DB
  earlier : List (String × String)

inductive Event where
  /-- A sweep that starts at `t`. -/
  | sweep (t : Time) (choices : Nat → Choice)
  | renew (certID : String) (expiresAt now : Time)
  | call (c : Call) (choices : Nat → Choice)

def step (env : Env) (s : State) : Event → Option State
  | .sweep _ choices =>
    some { s with db := ((checkExpiringCertificates env).run (exec env) choices 0 s.db).1 }
  | .renew certID expiresAt now =>
    (s.db.jobs.inventory.get certID).bind fun cert =>
    (s.db.jobs.inventory.update { cert with status := .active, expiresAt, updatedAt := now }).map
      fun inventory =>
        { db := { s.db with jobs := { s.db.jobs with inventory } }
          earlier := s.earlier ++ s.db.notifications.rows.map (fun n => (certID, n.id)) }
  | .call c choices => some { s with db := ((body env c).run (exec env) choices 0 s.db).1 }

/-- A row of the current cycle exists for the certificate, the threshold and the channel. -/
def HasAlert (s : State) (certID : String) (threshold : Int) (channel : NotificationChannel) :
    Prop :=
  ∃ n ∈ s.db.notifications.rows, isAlert certID threshold channel n = true ∧
    (certID, n.id) ∉ s.earlier

/-- At `t` the days left of a certificate are at or below a threshold of its policy, and the
channel is configured for the threshold. -/
structure Due (env : Env) (s : State) (t : Time) (cert : ManagedCertificate) (threshold : Int)
    (channel : NotificationChannel) : Prop where
  stored : cert ∈ s.db.jobs.inventory.certs.rows
  member : threshold ∈ thresholdsOf (policyFor env s.db.policies cert.id)
  crossed : cert.expiresAt - t ≤ threshold * Jobs.day
  configured : ∃ text ∈ channelsOf (policyFor env s.db.policies cert.id) threshold,
    NotificationChannel.ofText? text = some channel

/-- The sweep comes to the certificate, and nothing is taken for the alert. -/
structure InReach (s : State) (t : Time) (cert : ManagedCertificate) (threshold : Int)
    (channel : NotificationChannel) : Prop where
  named : cert.id ≠ ""
  near : cert.expiresAt < t + 31 * Jobs.day
  alertable : Jobs.expirySkips cert.status = false
  absent : ¬ tag threshold <:+: cert.commonName.toList
  free : ∀ n ∈ s.db.notifications.rows, taken cert.id threshold channel n = false

/-- Every alert that is due at a sweep is there already or in reach of the sweep. -/
def Covered (env : Env) (s : State) : Event → Prop
  | .sweep t choices =>
    (checkExpiringCertificates env).meets (exec env) (calm t) choices 0 s.db = true ∧
      ∀ cert threshold channel, Due env s t cert threshold channel →
        HasAlert s cert.id threshold channel ∨ InReach s t cert threshold channel
  | _ => True

/-- The rows from before the last renewal are there. -/
def Recorded (s : State) : Prop :=
  ∀ p ∈ s.earlier, (s.db.notifications.get? p.2).isSome = true

variable {s : State} {threshold : Int} {db : DB}

theorem Recorded.stay (recorded : Recorded s) (stay : Stay s.db db) : Recorded { s with db } := by
  intro p member
  obtain ⟨n, found⟩ := Option.isSome_iff_exists.mp (recorded p member)
  obtain ⟨n', there, same, -⟩ := stay n (Table.get?_mem found)
  have found' := Table.get?_of_mem there
  rw [same, Table.get?_key found] at found'
  rw [found']
  rfl

theorem Recorded.step {env : Env} {s' : State} {e : Event} (recorded : Recorded s)
    (moved : step env s e = some s') : Recorded s' := by
  cases e with
  | sweep t choices | call c choices =>
    cases moved
    exact recorded.stay (stay_run env _ choices s.db)
  | renew certID expiresAt now =>
    obtain ⟨cert, -, moved⟩ := Option.bind_eq_some_iff.mp moved
    obtain ⟨inventory, -, rfl⟩ := Option.map_eq_some_iff.mp moved
    intro p member
    rcases List.mem_append.mp member with before | added
    · exact recorded p before
    · obtain ⟨n, present, rfl⟩ := List.mem_map.mp added
      exact Option.isSome_iff_exists.mpr ⟨n, Table.get?_of_mem present⟩

theorem HasAlert.stay {certID : String} {channel : NotificationChannel}
    (there : HasAlert s certID threshold channel) (stay : Stay s.db db) :
    HasAlert { s with db } certID threshold channel := by
  obtain ⟨n, member, alert, current⟩ := there
  obtain ⟨n', member', same⟩ := stay n member
  exact ⟨n', member', (same.isAlert certID threshold channel).trans alert, same.1 ▸ current⟩

/-- In a run whose sweeps are all covered, every alert that is due at a sweep is there after
it, as a row of the current cycle. -/
theorem alerts_complete (env : Env) {s s' : State} {t : Time} {choices : Nat → Choice}
    (reached : ReachableUnder (step env) Recorded (Covered env) s)
    (covered : Covered env s (.sweep t choices))
    (swept : step env s (.sweep t choices) = some s') {cert : ManagedCertificate} {threshold : Int}
    {channel : NotificationChannel} (due : Due env s t cert threshold channel) :
    HasAlert s' cert.id threshold channel := by
  have recorded : Recorded s :=
    reached.invariant (fun _ start => start) (fun _ _ _ holds _ moved => holds.step moved)
  obtain ⟨within, coverage⟩ := covered
  cases swept
  rcases coverage cert threshold channel due with there | inReach
  · exact there.stay (stay_run env _ choices s.db)
  · obtain ⟨text, configured, valid⟩ := due.configured
    have before : Open cert.id threshold channel
        ((s.earlier.filter (fun p => decide (p.1 = cert.id))).map Prod.snd) s.db.policies s.db := by
      refine ⟨⟨fun id member => ?_, rfl⟩, .inl inReach.free⟩
      obtain ⟨p, inEarlier, rfl⟩ := List.mem_map.mp member
      exact recorded p (List.mem_of_mem_filter inEarlier)
    have alerted := (ensures_sweep inReach.named inReach.absent valid before inReach.alertable
      due.crossed due.member configured inReach.near due.stored).run within
    obtain ⟨n, member, alert, current⟩ := alerted.alert
    refine ⟨n, member, alert, fun old => current ?_⟩
    exact List.mem_map.mpr ⟨(cert.id, n.id), List.mem_filter.mpr ⟨old, by simp⟩, rfl⟩

/-- The webhook is wired, no owner is looked up, and all certificates have one policy. -/
def onePolicy : Env where
  jobs := .plain
  notifiers := [.webhook]
  ownerRepo := false
  policyOf _ := "rp-1"
  date _ := "2026-01-01"
  date_plain _ := by decide

/-- One Active certificate, its policy, and no notification yet. -/
def oneCert (expiresAt : Time) (threshold : Int) : State where
  db := { DB.empty with
    policies := ⟨[⟨"rp-1", [threshold], [], []⟩], List.nodup_singleton _⟩
    jobs := { Jobs.DB.empty with
      inventory := ⟨⟨[{ Jobs.plainCert "mc-1" .active "" with expiresAt }],
        List.nodup_singleton _⟩, .empty _⟩ } }
  earlier := []

theorem recorded_oneCert (expiresAt : Time) (threshold : Int) :
    Recorded (oneCert expiresAt threshold) := fun _ member => (by cases member)

/-- A sweep at `t` in which nothing fails; identifiers are the numbers of the steps. -/
def quietly (t : Time) (i : Nat) : Choice :=
  ⟨{ Jobs.Choice.plain with now := t, id := "n-" ++ toString i }, none⟩

/-- A certificate with ten days left is alerted at fourteen. -/
theorem alert_at_fourteen_days :
    ∃ s', step onePolicy (oneCert (10 * Jobs.day) 14) (.sweep 0 (quietly 0)) = some s' ∧
      HasAlert s' "mc-1" 14 .webhook := by
  have covered : Covered onePolicy (oneCert (10 * Jobs.day) 14) (.sweep 0 (quietly 0)) := by
    refine ⟨by decide +kernel, fun cert threshold channel due => .inr ?_⟩
    have only := due.stored
    rw [show (oneCert (10 * Jobs.day) 14).db.jobs.inventory.certs.rows =
      [{ Jobs.plainCert "mc-1" .active "" with expiresAt := 10 * Jobs.day }] from rfl,
      List.mem_singleton] at only
    subst only
    refine ⟨by decide, by decide, rfl, fun found => ?_, fun n member => (by cases member)⟩
    have colon : ':' ∈ tag threshold := by simp [tag_eq]
    exact absurd (found.subset colon) (by decide)
  have due : Due onePolicy (oneCert (10 * Jobs.day) 14) 0
      { Jobs.plainCert "mc-1" .active "" with expiresAt := 10 * Jobs.day } 14 .webhook :=
    ⟨List.mem_singleton_self _, by decide, by decide, "Webhook", by decide, rfl⟩
  exact ⟨_, rfl, alerts_complete onePolicy (.start (recorded_oneCert _ _)) covered rfl due⟩

def hasAlert (s : State) (certID : String) (threshold : Int) (channel : NotificationChannel) :
    Bool :=
  s.db.notifications.rows.any (fun n =>
    !s.earlier.contains (certID, n.id) && isAlert certID threshold channel n)

/-- An alert on the webhook is due at `t`, and a sweep at `t` in which nothing fails does not
bring it. -/
def Misses (t : Time) (threshold : Int) (s : State) : Prop :=
  (checkExpiringCertificates onePolicy).meets (exec onePolicy) (calm t) (quietly t) 0 s.db = true ∧
    ∃ cert s', Due onePolicy s t cert threshold .webhook ∧
      step onePolicy s (.sweep t (quietly t)) = some s' ∧
      ¬ HasAlert s' cert.id threshold .webhook

def misses (t : Time) (threshold : Int) (s : State) : Bool :=
  (checkExpiringCertificates onePolicy).meets (exec onePolicy) (calm t) (quietly t) 0 s.db &&
    s.db.jobs.inventory.certs.rows.any (fun cert =>
      decide (threshold ∈ thresholdsOf (policyFor onePolicy s.db.policies cert.id)) &&
        decide (cert.expiresAt - t ≤ threshold * Jobs.day) &&
        decide ("Webhook" ∈ channelsOf (policyFor onePolicy s.db.policies cert.id) threshold) &&
        (step onePolicy s (.sweep t (quietly t))).any (fun s' =>
          !hasAlert s' cert.id threshold .webhook))

theorem misses_sound {t : Time} (found : misses t threshold s = true) : Misses t threshold s := by
  simp only [misses, Bool.and_eq_true, List.any_eq_true, decide_eq_true_eq, Option.any_eq_true]
    at found
  obtain ⟨within, cert, stored, ⟨⟨member, crossed⟩, configured⟩, s', moved, missing⟩ := found
  refine ⟨within, cert, s', ⟨stored, member, crossed, "Webhook", configured, rfl⟩, moved, ?_⟩
  simpa [hasAlert, HasAlert, and_comm] using missing

/-- Two sweeps in which nothing fails miss an alert. After a renewal the certificate comes to
fourteen days again, and the row of the cycle before is taken for the alert. And a certificate
with 45 days left is not selected, although its policy has a threshold of sixty. -/
theorem due_alerts_missed :
    (∃ s, Reachable (step onePolicy) Recorded s ∧ Misses (90 * Jobs.day) 14 s) ∧
    ∃ s, Reachable (step onePolicy) Recorded s ∧ Misses 0 60 s := by
  constructor
  · obtain ⟨s, reached, found⟩ := exists_reached_of_replay (step onePolicy)
      (recorded_oneCert (10 * Jobs.day) 14)
      [.sweep 0 (quietly 0), .renew "mc-1" (100 * Jobs.day) Jobs.day]
      (fun s => misses (90 * Jobs.day) 14 s) (by decide +kernel)
    exact ⟨s, reached, misses_sound found⟩
  · exact ⟨oneCert (45 * Jobs.day) 60, .start (recorded_oneCert _ _),
      misses_sound (by decide +kernel)⟩

end Certctl.Guarantees.AlertCoverage

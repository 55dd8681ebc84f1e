import Certctl.Source.AlertRows
import Certctl.Source.ExpiryAlerts

/-!
One expiry sweep, followed for one certificate, threshold and channel. Up to the turn of the
alert the operations keep it open: no row is taken for it, or it is there. At its turn it is
sent if no row is taken for it, and from then on it stays.
-/
namespace Certctl.Source.Notifications.Alerting

open Lib

section Sweep

variable (env : Env) (t : Time) (certID : String) (threshold : Int)
  (channel : NotificationChannel) (old : List String) (policies : Table RenewalPolicy.id)

/-- The repository does not fail, the clock does not fall behind the start of the sweep, and a
generated identifier is new. -/
def calm (db : DB) (o : Op) (c : Choice) : Bool :=
  c.base.fault.isNone && decide (t ≤ c.base.now) && match o with
    | .base .newID => (db.notifications.get? c.base.id).isNone
    | _ => true

/-- The operations of a sweep, where a row it creates is taken for the alert only if it is the
alert. -/
def harmless : Op → Prop
  | .base _ | .send .first _ | .query (.list _) | .query (.getPolicy _)
  | .query (.updateStatus ..) => True
  | .query (.create n) =>
    taken certID threshold channel n = true → isAlert certID threshold channel n = true
  | _ => False

/-- The rows of earlier cycles are there, and the policies are as they were. -/
structure Settled (db : DB) : Prop where
  kept : ∀ id ∈ old, (db.notifications.get? id).isSome = true
  policies : db.policies = policies

/-- The alert of the current cycle is there. -/
structure Alerted (db : DB) : Prop extends Settled old policies db where
  alert : ∃ n ∈ db.notifications.rows, isAlert certID threshold channel n = true ∧ n.id ∉ old

/-- No row is taken for the alert, or the alert is there. -/
structure Open (db : DB) : Prop extends Settled old policies db where
  open_ : (∀ n ∈ db.notifications.rows, taken certID threshold channel n = false) ∨
    ∃ n ∈ db.notifications.rows, isAlert certID threshold channel n = true ∧ n.id ∉ old

/-- What a harmless operation does: the rows stay, but for their status, and a new row is taken
for the alert only if it is the alert. -/
structure Carried (db db' : DB) : Prop where
  stay : Stay db db'
  come : ∀ n' ∈ db'.notifications.rows, (∃ n ∈ db.notifications.rows, SameAlert n n') ∨
    db.notifications.get? n'.id = none ∧ (taken certID threshold channel n' = true →
      isAlert certID threshold channel n' = true)
  policies : db'.policies = db.policies

variable {env t certID threshold channel old policies} {db : DB} {cert : ManagedCertificate}
  {text : String} {cache : List (String × RenewalPolicy)} {db' : DB} {post : Reply → DB → Prop}
  {c : Choice} {n : NotificationEvent} {o : Op}

theorem Carried.of_rows (rows : db'.notifications = db.notifications)
    (policies : db'.policies = db.policies) : Carried certID threshold channel db db' where
  stay := .of_rows rows
  come n member := .inl ⟨n, rows ▸ member, rfl, rfl, rfl, rfl, rfl⟩
  policies := policies

theorem Carried.of_patched {id : String} {status : NotificationStatus} {sentAt : Time}
    (patched : Patched id (.setStatus status sentAt) db db') :
    Carried certID threshold channel db db' := by
  refine ⟨.of_patched patched (fun _ => ⟨rfl, rfl, rfl, rfl, rfl⟩), fun n' member => .inl ?_,
    patched.policies⟩
  have found := Table.get?_of_mem member
  rw [patched.row] at found
  split at found
  · obtain ⟨n, there, rfl⟩ := Option.map_eq_some_iff.mp found
    exact ⟨n, Table.get?_mem there, rfl, rfl, rfl, rfl, rfl⟩
  · exact ⟨n', Table.get?_mem found, rfl, rfl, rfl, rfl, rfl⟩

theorem Carried.of_insert {notifications : Table _}
    (inserted : db.notifications.insert n = some notifications)
    (fine : taken certID threshold channel n = true → isAlert certID threshold channel n = true) :
    Carried certID threshold channel db { db with notifications } := by
  obtain ⟨rows, absent⟩ := Table.insert_rows inserted
  refine ⟨fun m member => ⟨m, ?_, rfl, rfl, rfl, rfl, rfl⟩, fun m member => ?_, rfl⟩
  · rw [show ({ db with notifications } : DB).notifications.rows = _ from rows]
    exact List.mem_append_left _ member
  · rw [show ({ db with notifications } : DB).notifications.rows = _ from rows] at member
    rcases mem_snoc member with old | rfl
    · exact .inl ⟨m, old, rfl, rfl, rfl, rfl, rfl⟩
    · exact .inr ⟨absent, fine⟩

theorem calm_fault (allowed : calm t db o c = true) :
    c.base.fault = none := by
  simp only [calm, Bool.and_eq_true, Option.isNone_iff_eq_none] at allowed
  exact allowed.1.1

theorem calm_now (allowed : calm t db o c = true) : t ≤ c.base.now := by
  simp only [calm, Bool.and_eq_true, decide_eq_true_eq] at allowed
  exact allowed.1.2

theorem exec_carried (env : Env) (met : harmless certID threshold channel o)
    (allowed : calm t db o c = true) : Carried certID threshold channel db (exec env db o c).1 := by
  have fault := calm_fault allowed
  cases o with
  | base o => exact .of_rows rfl rfl
  | send delivery n =>
    cases delivery with
    | first => exact .of_rows rfl rfl
    | retry => exact .of_rows rfl rfl
  | query q =>
    cases q with
    | list filter =>
      simp only [exec, execQuery_calm db fault, perform]
      exact .of_rows rfl rfl
    | getPolicy id =>
      simp only [exec, execQuery_calm db fault, perform]
      cases db.policies.get? id <;> exact .of_rows rfl rfl
    | updateStatus id status sentAt =>
      exact .of_patched (exec_updateStatus env db fault id status sentAt)
    | create n =>
      simp only [exec, execQuery_calm db fault, perform]
      cases inserted : db.notifications.insert
          { n with retryCount := 0, nextRetryAt := none, lastError := none } with
      | none => exact .of_rows rfl rfl
      | some notifications =>
        refine .of_insert inserted (fun matched => ?_)
        exact met matched
    | listRetryEligible | recordFailedAttempt | markAsDead | requeue => exact met.elim

section Carried

variable (moved : Carried certID threshold channel db db')

include moved

theorem Settled.carried (settled : Settled old policies db) : Settled old policies db' where
  kept id member := by
    obtain ⟨n, found⟩ := Option.isSome_iff_exists.mp (settled.kept id member)
    obtain ⟨n', there, same, -⟩ := moved.stay n (Table.get?_mem found)
    have keyed := Table.get?_key found
    have found' := Table.get?_of_mem there
    rw [same, keyed] at found'
    rw [found']
    rfl
  policies := moved.policies.trans settled.policies

theorem Alerted.carried (alerted : Alerted certID threshold channel old policies db) :
    Alerted certID threshold channel old policies db' := by
  refine ⟨alerted.toSettled.carried moved, ?_⟩
  obtain ⟨n, member, alert, current⟩ := alerted.alert
  obtain ⟨n', there, same⟩ := moved.stay n member
  exact ⟨n', there, (same.isAlert certID threshold channel).trans alert, same.1 ▸ current⟩

theorem Open.carried (before : Open certID threshold channel old policies db) :
    Open certID threshold channel old policies db' := by
  refine ⟨before.toSettled.carried moved, ?_⟩
  rcases before.open_ with free | alert
  · by_cases stillFree : ∀ n ∈ db'.notifications.rows, taken certID threshold channel n = false
    · exact .inl stillFree
    · simp only [not_forall, Bool.not_eq_false] at stillFree
      obtain ⟨n', member, matched⟩ := stillFree
      right
      rcases moved.come n' member with ⟨n, earlier, same⟩ | ⟨fresh, fine⟩
      · rw [same.taken certID threshold channel, free n earlier] at matched
        cases matched
      · refine ⟨n', member, fine matched, fun stale => ?_⟩
        have present := before.kept n'.id stale
        rw [fresh] at present
        cases present
  · have alerted : Alerted certID threshold channel old policies db := ⟨before.toSettled, alert⟩
    exact .inr (alerted.carried moved).alert

end Carried

theorem keeps_open (env : Env) (db : DB) (o : Op) (c : Choice)
    (met : harmless certID threshold channel o) (allowed : calm t db o c = true)
    (before : Open certID threshold channel old policies db) :
    Open certID threshold channel old policies (exec env db o c).1 :=
  before.carried (exec_carried env met allowed)

section UpTo

variable {k : Service → Prop}

theorem upTo_sendNotification {n : NotificationEvent} {next : Except String Unit → Service}
    (goOn : ∀ result, (next result).UpTo (harmless certID threshold channel) k) :
    (sendNotification env n next).UpTo (harmless certID threshold channel) k := by
  unfold sendNotification
  split
  · refine .op trivial (fun result => ?_)
    cases result with
    | none => exact .op trivial (fun _ => .op trivial (fun _ => goOn _))
    | some cause => exact .op trivial (fun _ => goOn _)
  · exact .op trivial (fun _ => .op trivial (fun _ => goOn _))

theorem upTo_resolveRecipient {ownerID : String} {next : String → Service}
    (goOn : ∀ recipient, (next recipient).UpTo (harmless certID threshold channel) k) :
    (resolveRecipient env ownerID next).UpTo (harmless certID threshold channel) k := by
  unfold resolveRecipient
  split
  · exact goOn _
  · refine .op trivial (fun result => ?_)
    cases result with
    | error e => exact goOn _
    | ok owner =>
      simp only
      split
      · exact goOn _
      · exact goOn _

variable {cert : ManagedCertificate} {daysUntil : Int} {next : Service}

section Absent

variable (named : certID ≠ "")
  (absent : cert.id = certID → ¬ tag threshold <:+: cert.commonName.toList) {other : Int}

include named absent

theorem upTo_sendThresholdAlert {ch : NotificationChannel} {next : Except String Unit → Service}
    (goOn : ∀ result, (next result).UpTo (harmless certID threshold channel) k) :
    (sendThresholdAlertOnChannel env cert daysUntil other ch next).UpTo
      (harmless certID threshold channel) k := by
  refine .op trivial (fun id => upTo_resolveRecipient (fun recipient => ?_))
  refine .op trivial (fun createdAt => .op ?_ (fun result => ?_))
  · exact isAlert_of_taken named (fun same => absent (Option.some.inj same)) rfl
  · cases result with
    | error e => exact goOn _
    | ok value => exact upTo_sendNotification goOn

theorem upTo_alertChannels_cons {text : String} {rest : List String}
    (goOn : (alertChannels env cert daysUntil other next rest).UpTo
      (harmless certID threshold channel) k) :
    (alertChannels env cert daysUntil other next (text :: rest)).UpTo
      (harmless certID threshold channel) k := by
  rw [alertChannels]
  cases NotificationChannel.ofText? text with
  | none => exact goOn
  | some ch =>
    refine .op trivial (fun result => ?_)
    cases result with
    | error e => exact goOn
    | ok existing =>
      simp only
      cases existing.isEmpty with
      | true => exact upTo_sendThresholdAlert named absent (fun _ => goOn)
      | false => exact goOn

theorem upTo_alertChannels (goOn : next.UpTo (harmless certID threshold channel) k)
    (texts : List String) :
    (alertChannels env cert daysUntil other next texts).UpTo
      (harmless certID threshold channel) k := by
  induction texts with
  | nil => exact goOn
  | cons text rest ih => exact upTo_alertChannels_cons named absent ih

variable {policy : Option RenewalPolicy}

theorem upTo_sendThresholdAlerts_cons {rest : List Int}
    (goOn : (sendThresholdAlerts env cert daysUntil policy next rest).UpTo
      (harmless certID threshold channel) k) :
    (sendThresholdAlerts env cert daysUntil policy next (other :: rest)).UpTo
      (harmless certID threshold channel) k := by
  rw [sendThresholdAlerts]
  split
  · exact goOn
  · exact upTo_alertChannels named absent goOn _

theorem upTo_sendThresholdAlerts
    (goOn : next.UpTo (harmless certID threshold channel) k) (thresholds : List Int) :
    (sendThresholdAlerts env cert daysUntil policy next thresholds).UpTo
      (harmless certID threshold channel) k := by
  induction thresholds with
  | nil => exact goOn
  | cons other rest ih => exact upTo_sendThresholdAlerts_cons named absent ih

end Absent

theorem upTo_updateCertExpiryStatus {left : Time} {next : ManagedCertificate → Service}
    (goOn : ∀ status updatedAt, (next { cert with status, updatedAt }).UpTo
      (harmless certID threshold channel) k) :
    (updateCertExpiryStatus cert left next).UpTo (harmless certID threshold channel) k := by
  unfold updateCertExpiryStatus
  generalize (if left ≤ 0 then CertificateStatus.expired else .expiring) = newStatus
  simp only
  split
  · exact goOn cert.status cert.updatedAt
  · split
    · exact goOn cert.status cert.updatedAt
    · exact .op trivial (fun now => .op trivial (fun _ => goOn _ _))

theorem upTo_embed (call : Jobs.Service) (goOn : next.UpTo (harmless certID threshold channel) k) :
    (embed call next).UpTo (harmless certID threshold channel) k := by
  induction call generalizing k next with
  | done reply => exact goOn
  | op o rest ih => exact .op trivial (fun result => ih result goOn)
  | fork child rest ihc ihn =>
    refine .fork ?_ (ihn goOn)
    exact (ihc (.here trivial)).all

/-- The loop body for a certificate after its policy has been fetched. -/
abbrev alerts (env : Env) (cert : ManagedCertificate) (now : Time) (policy : Option RenewalPolicy)
    (rest : Service) : Service :=
  sendThresholdAlerts env cert ((cert.expiresAt - now).tdiv Jobs.day) policy
    (embed (enqueueRenewal env.jobs cert) rest) (thresholdsOf policy)

abbrev turn (env : Env) (cert : ManagedCertificate) (now : Time) (policy : Option RenewalPolicy)
    (rest : Service) : Service :=
  updateCertExpiryStatus cert (cert.expiresAt - now) fun cert => alerts env cert now policy rest

theorem upTo_turn (named : certID ≠ "")
    (absent : cert.id = certID → ¬ tag threshold <:+: cert.commonName.toList) {now : Time}
    {policy : Option RenewalPolicy} (goOn : next.UpTo (harmless certID threshold channel) k) :
    (turn env cert now policy next).UpTo (harmless certID threshold channel) k := by
  refine upTo_updateCertExpiryStatus fun status updatedAt => ?_
  refine upTo_sendThresholdAlerts named ?_ (upTo_embed _ goOn) _
  exact absent

end UpTo

/-- The lookup answers whether a row is taken for the alert. -/
theorem exec_list (env : Env) (fault : c.base.fault = none) :
    ∃ rows, exec env db (.query (.list (thresholdFilter certID threshold channel))) c =
        (db, .ok rows) ∧
      (rows.isEmpty = true ↔
        ∀ n ∈ db.notifications.rows, taken certID threshold channel n = false) := by
  simp only [exec, execQuery_calm db fault, perform]
  refine ⟨_, rfl, ?_⟩
  have shape : ∀ rows, DB.page (thresholdFilter certID threshold channel) rows = rows.take 1 := by
    intro rows
    simp [DB.page, thresholdFilter]
  rw [shape, List.isEmpty_iff, List.take_eq_nil_iff]
  simp only [Nat.one_ne_zero, false_or]
  rw [← List.length_eq_zero_iff, (List.perm_insertionSort _ _).length_eq, List.length_eq_zero_iff,
    List.filter_eq_nil_iff]
  simp only [Bool.not_eq_true]
  rfl

theorem ensures_create {next : Except Jobs.RepoError Unit → Service}
    (settled : Settled old policies db)
    (fresh : db.notifications.get? n.id = none) (alert : isAlert certID threshold channel n = true)
    (goOn : ∀ db', Alerted certID threshold channel old policies db' →
      (next (.ok ())).Ensures (exec env) (calm t) post db') :
    (query (.create n) next).Ensures (exec env) (calm t) post db := by
  intro c allowed
  obtain ⟨notifications, inserted⟩ := Table.insert_isSome (t := db.notifications)
    (r := { n with retryCount := 0, nextRetryAt := none, lastError := none }) fresh
  simp only [exec, execQuery_calm db (calm_fault allowed), perform, inserted]
  have carried : Carried certID threshold channel db { db with notifications } :=
    .of_insert inserted (fun _ => alert)
  refine goOn _ ⟨settled.carried carried,
    { n with retryCount := 0, nextRetryAt := none, lastError := none }, ?_, alert, fun stale => ?_⟩
  · rw [(Table.insert_rows inserted).1]
    exact List.mem_append_right _ List.mem_cons_self
  · have present := settled.kept n.id stale
    rw [fresh] at present
    cases present

/-- A created alert is there, and stays. -/
theorem ensures_sendTarget {daysUntil : Int} {next : Except String Unit → Service}
    (rest : ∀ result, (next result).All (harmless cert.id threshold channel))
    (settled : Settled old policies db) :
    (sendThresholdAlertOnChannel env cert daysUntil threshold channel next).Ensures (exec env)
      (calm t) (fun _ => Alerted cert.id threshold channel old policies) db := by
  intro c allowed
  have fresh : db.notifications.get? c.base.id = none := by
    simp only [calm, Bool.and_eq_true, Option.isNone_iff_eq_none] at allowed
    exact allowed.2
  refine ensures_resolveRecipient (fun recipient db₁ rows _ kept => ?_)
  intro c₁ _
  have settled₁ : Settled old policies (exec env db₁ (.base .now) c₁).1 := by
    refine ⟨fun id member => ?_, kept.trans settled.policies⟩
    change (db₁.notifications.get? id).isSome = true
    rw [rows]
    exact settled.kept id member
  refine ensures_create settled₁ ?_ ?_
    (fun db₂ (alerted : Alerted cert.id threshold channel old policies db₂) => ?_)
  · change db₁.notifications.get? c.base.id = none
    rw [rows]
    exact fresh
  · have ends := tag_suffix_alertBody env cert.commonName cert.expiresAt daysUntil threshold
    simp [isAlert, ends]
  · exact (upTo_sendNotification (fun result => .here (rest result))).all.ensures
      (fun _ _ _ met allowed before => before.carried (exec_carried env met allowed)) alerted

/-- The policy of a certificate, as far as there is one. -/
def policyFor (env : Env) (policies : Table RenewalPolicy.id) (certID : String) :
    Option RenewalPolicy :=
  if env.policyOf certID = "" then none else policies.get? (env.policyOf certID)

/-- What is cached is what the table holds. -/
def Cached (policies : Table RenewalPolicy.id) (cache : List (String × RenewalPolicy)) : Prop :=
  ∀ key policy, entryOf cache key = some policy → policies.get? key = some policy

theorem Cached.cons (cached : Cached policies cache) {key : String} {policy : RenewalPolicy}
    (stored : policies.get? key = some policy) : Cached policies ((key, policy) :: cache) := by
  intro asked found hit
  by_cases same : key = asked
  · subst same
    simp only [entryOf, List.find?_cons, decide_true, Option.map_some, Option.some.injEq] at hit
    rw [stored, hit]
  · refine cached asked found ?_
    simpa [entryOf, List.find?_cons, same] using hit

theorem ensures_fetchPolicy {other : String}
    {next : Option RenewalPolicy → List (String × RenewalPolicy) → Service}
    (cached : Cached policies cache) (before : Open certID threshold channel old policies db)
    (goOn : ∀ cache' db', Cached policies cache' → Open certID threshold channel old policies db' →
      (next (policyFor env policies other) cache').Ensures (exec env) (calm t) post db') :
    (fetchPolicy env other cache next).Ensures (exec env) (calm t) post db := by
  unfold fetchPolicy
  unfold policyFor at goOn
  split
  next none =>
    rw [if_pos none] at goOn
    exact goOn cache db cached before
  next some =>
    rw [if_neg some] at goOn
    split
    next policy hit =>
      rw [cached _ policy hit] at goOn
      exact goOn cache db cached before
    next =>
      intro c allowed
      have kept := keeps_open env db (.query (.getPolicy (env.policyOf other))) c trivial allowed
        before
      simp only [exec, execQuery_calm db (calm_fault allowed), perform, before.policies] at kept ⊢
      cases stored : policies.get? (env.policyOf other) with
      | none =>
        rw [stored] at goOn
        exact goOn cache db cached before
      | some policy =>
        rw [stored] at goOn
        exact goOn _ db (cached.cons stored) before

theorem checkLoop_all (named : certID ≠ "") (certs : List ManagedCertificate)
    (absent : ∀ cert ∈ certs, cert.id = certID → ¬ tag threshold <:+: cert.commonName.toList)
    (cache : List (String × RenewalPolicy)) :
    (checkLoop env cache certs).All (harmless certID threshold channel) := by
  induction certs generalizing cache with
  | nil => trivial
  | cons cert rest ih =>
    obtain ⟨here, others⟩ := List.forall_mem_cons.mp absent
    have later := ih others
    have sweeps : ∀ now policy cache, (turn env cert now policy (checkLoop env cache rest)).All
        (harmless certID threshold channel) :=
      fun now policy cache => (upTo_turn named here (.here (later cache))).all
    rw [checkLoop]
    split
    · exact later cache
    · refine ⟨trivial, fun now => ?_⟩
      unfold fetchPolicy
      split
      · exact sweeps _ _ _
      · split
        · exact sweeps _ _ _
        · refine ⟨trivial, fun result => ?_⟩
          cases result with
          | error e => exact sweeps _ _ _
          | ok policy => exact sweeps _ _ _

theorem tdiv_day_le {left : Time} {threshold : Int} (bound : left ≤ threshold * Jobs.day) :
    left.tdiv Jobs.day ≤ threshold :=
  calc left.tdiv Jobs.day ≤ (threshold * Jobs.day).tdiv Jobs.day :=
        Int.tdiv_le_tdiv (by decide) bound
    _ = threshold := Int.mul_tdiv_cancel threshold (by decide)

section Target

variable (named : cert.id ≠ "") (absent : ¬ tag threshold <:+: cert.commonName.toList)
  (valid : NotificationChannel.ofText? text = some channel)
  (before : Open cert.id threshold channel old policies db)

include named absent valid before

theorem ensures_channelsTarget {daysUntil : Int} {next : Service}
    (after : next.All (harmless cert.id threshold channel)) (texts : List String)
    (member : text ∈ texts) :
    (alertChannels env cert daysUntil threshold next texts).Ensures (exec env) (calm t)
      (fun _ => Alerted cert.id threshold channel old policies) db := by
  induction texts generalizing db with
  | nil => cases member
  | cons head rest ih =>
    have others : (alertChannels env cert daysUntil threshold next rest).All
        (harmless cert.id threshold channel) :=
      (upTo_alertChannels named (fun _ => absent) (.here after) rest).all
    by_cases own : head = text
    · subst own
      unfold alertChannels
      simp only [valid]
      intro c allowed
      obtain ⟨existing, result, isEmpty_iff⟩ := exec_list env (calm_fault allowed)
      rw [result]
      simp only
      cases empty : existing.isEmpty with
      | true => exact ensures_sendTarget (fun _ => others) before.toSettled
      | false =>
        have alerted : Alerted cert.id threshold channel old policies db := by
          refine ⟨before.toSettled, before.open_.resolve_left (fun free => ?_)⟩
          rw [isEmpty_iff.mpr free] at empty
          cases empty
        exact others.ensures
          (fun _ _ _ met allowed before => before.carried (exec_carried env met allowed)) alerted
    · have later := (List.mem_cons.mp member).resolve_left (Ne.symm own)
      have upTo : (alertChannels env cert daysUntil threshold next (head :: rest)).UpTo
          (harmless cert.id threshold channel)
          (· = alertChannels env cert daysUntil threshold next rest) :=
        upTo_alertChannels_cons named (fun _ => absent) (.here rfl)
      exact upTo.ensures (keeps_open env) (fun _ _ same before' => same ▸ ih before' later) before

variable (cert) in
theorem ensures_thresholdsTarget {daysUntil : Int} (crossed : daysUntil ≤ threshold)
    {policy : Option RenewalPolicy} {next : Service}
    (after : next.All (harmless cert.id threshold channel))
    (configured : text ∈ channelsOf policy threshold) (thresholds : List Int)
    (member : threshold ∈ thresholds) :
    (sendThresholdAlerts env cert daysUntil policy next thresholds).Ensures (exec env) (calm t)
      (fun _ => Alerted cert.id threshold channel old policies) db := by
  induction thresholds generalizing db with
  | nil => cases member
  | cons head rest ih =>
    by_cases own : head = threshold
    · subst own
      rw [sendThresholdAlerts, if_neg (Int.not_lt.mpr crossed)]
      have later : (sendThresholdAlerts env cert daysUntil policy next rest).All
          (harmless cert.id head channel) :=
        (upTo_sendThresholdAlerts named (fun _ => absent) (.here after) rest).all
      exact ensures_channelsTarget named absent valid before later _ configured
    · have later := (List.mem_cons.mp member).resolve_left (Ne.symm own)
      have upTo : (sendThresholdAlerts env cert daysUntil policy next (head :: rest)).UpTo
          (harmless cert.id threshold channel)
          (· = sendThresholdAlerts env cert daysUntil policy next rest) :=
        upTo_sendThresholdAlerts_cons named (fun _ => absent) (.here rfl)
      exact upTo.ensures (keeps_open env) (fun _ _ same before' => same ▸ ih before' later) before

/-- What the sweep does for one certificate after it has its policy. -/
theorem ensures_certTarget {now : Time}
    (crossed : cert.expiresAt - now ≤ threshold * Jobs.day) {policy : Option RenewalPolicy}
    {rest : Service} (after : rest.All (harmless cert.id threshold channel))
    (configured : text ∈ channelsOf policy threshold) (member : threshold ∈ thresholdsOf policy) :
    (turn env cert now policy rest).Ensures (exec env) (calm t)
      (fun _ => Alerted cert.id threshold channel old policies) db := by
  have upTo : (turn env cert now policy rest).UpTo (harmless cert.id threshold channel)
      (fun body => ∃ status updatedAt,
        body = alerts env { cert with status, updatedAt } now policy rest) :=
    upTo_updateCertExpiryStatus (fun status updatedAt => .here ⟨status, updatedAt, rfl⟩)
  refine upTo.ensures (keeps_open env) ?_ before
  rintro _ db' ⟨status, updatedAt, rfl⟩ before'
  have renewal := (upTo_embed (enqueueRenewal env.jobs { cert with status, updatedAt })
    (.here after)).all
  exact ensures_thresholdsTarget { cert with status, updatedAt } named absent valid before'
    (tdiv_day_le crossed) renewal configured _ member

variable (alertable : Jobs.expirySkips cert.status = false)
  (crossed : cert.expiresAt - t ≤ threshold * Jobs.day)
  (member : threshold ∈ thresholdsOf (policyFor env policies cert.id))
  (configured : text ∈ channelsOf (policyFor env policies cert.id) threshold)

include alertable crossed member configured

theorem ensures_checkLoop (certs : List ManagedCertificate)
    (listed : cert ∈ certs) (only : ∀ other ∈ certs, other.id = cert.id → other = cert)
    (cached : Cached policies cache) :
    (checkLoop env cache certs).Ensures (exec env) (calm t)
      (fun _ => Alerted cert.id threshold channel old policies) db := by
  induction certs generalizing cache db with
  | nil => cases listed
  | cons head rest ih =>
    have onlyRest := fun other inRest => only other (List.mem_cons_of_mem head inRest)
    have absentIn : ∀ other ∈ head :: rest, other.id = cert.id →
        ¬ tag threshold <:+: other.commonName.toList := by
      intro other inList same
      rw [only other inList same]
      exact absent
    have restHarmless : ∀ cache, (checkLoop env cache rest).All
        (harmless cert.id threshold channel) :=
      checkLoop_all named rest fun other inRest =>
        absentIn other (List.mem_cons_of_mem head inRest)
    by_cases own : head = cert
    · subst own
      rw [checkLoop, if_neg (by simp [alertable])]
      intro c allowed
      have crossedNow : head.expiresAt - c.base.now ≤ threshold * Jobs.day :=
        (Int.sub_le_sub_left (calm_now allowed) _).trans crossed
      refine ensures_fetchPolicy cached (keeps_open env db (.base .now) c trivial allowed before)
        (fun cache' db' _ before' => ?_)
      exact ensures_certTarget named absent valid before' crossedNow (restHarmless cache')
        configured member
    · have later := (List.mem_cons.mp listed).resolve_left (Ne.symm own)
      have goOn : ∀ cache db, Cached policies cache →
          Open cert.id threshold channel old policies db →
          (checkLoop env cache rest).Ensures (exec env) (calm t)
            (fun _ => Alerted cert.id threshold channel old policies) db :=
        fun cache db cached before => ih before later onlyRest cached
      rw [checkLoop]
      split
      · exact goOn cache db cached before
      · intro c allowed
        refine ensures_fetchPolicy cached (keeps_open env db (.base .now) c trivial allowed before)
          (fun cache' db' cached' before' => ?_)
        have passes := absentIn head List.mem_cons_self
        refine Program.UpTo.ensures (k := (· = checkLoop env cache' rest)) (keeps_open env) ?_
          (upTo_turn named passes (.here rfl)) before'
        rintro _ db'' rfl before''
        exact goOn cache' db'' cached' before''

theorem ensures_sweep (near : cert.expiresAt < t + 31 * Jobs.day)
    (stored : cert ∈ db.jobs.inventory.certs.rows) :
    (checkExpiringCertificates env).Ensures (exec env) (calm t)
      (fun _ => Alerted cert.id threshold channel old policies) db := by
  intro c allowed c' allowed'
  have result : (exec env (exec env db (.base .now) c).1
      (.base (.query (.getExpiringCertificates (c.base.now + 31 * Jobs.day)))) c').2 =
      .ok (Jobs.orderBy ManagedCertificate.expiresAt (db.jobs.inventory.certs.rows.filter
        (fun cert => decide (cert.expiresAt < c.base.now + 31 * Jobs.day) &&
          decide (cert.status ≠ .archived)))) := by
    simp only [exec, Jobs.exec, Jobs.execQuery, calm_fault allowed', Jobs.perform]
  have kept := keeps_open env _ (.base (.query (.getExpiringCertificates
    (c.base.now + 31 * Jobs.day)))) c' trivial allowed'
    (keeps_open env db (.base .now) c trivial allowed before)
  rw [show (exec env db (.base .now) c).2 = c.base.now from rfl, result]
  have perm := List.perm_insertionSort (fun a b : ManagedCertificate => a.expiresAt ≤ b.expiresAt)
    (db.jobs.inventory.certs.rows.filter (fun cert =>
      decide (cert.expiresAt < c.base.now + 31 * Jobs.day) && decide (cert.status ≠ .archived)))
  refine ensures_checkLoop named absent valid kept alertable crossed member configured _ ?_ ?_
    (fun _ _ hit => by cases hit)
  · rw [Jobs.orderBy, perm.mem_iff, List.mem_filter]
    refine ⟨stored, ?_⟩
    have soon : cert.expiresAt < c.base.now + 31 * Jobs.day :=
      lt_of_lt_of_le near (Int.add_le_add_right (calm_now allowed) _)
    have live : cert.status ≠ .archived := by
      intro archived
      rw [archived] at alertable
      cases alertable
    simp [soon, live]
  · intro other inList same
    rw [Jobs.orderBy, perm.mem_iff, List.mem_filter] at inList
    have first := Table.get?_of_mem inList.1
    have second := Table.get?_of_mem stored
    rw [same, second] at first
    exact (Option.some.inj first).symm

end Target

end Sweep

end Certctl.Source.Notifications.Alerting

import Certctl.Guarantees.JobSamples
import Mathlib.Data.Finset.Order
import Certctl.Source.Jobs.Footprints

/-!
The three ways into a renewal beside one another, each run by itself from the same tables
with a repository that does not fail. `TriggerRenewal` asks the profile whether the renewal
needs an approval; the bulk renewal and the expiry check do not. The single renewal in turn
does not ask whether the certificate is revoked.
-/
namespace Certctl.Guarantees.EntryPointGate

open Lib Source Source.Jobs

/-- No repository call fails, and every generated identifier is new. -/
structure Calm (db : DB) (choices : Nat → Choice) : Prop where
  sound : ∀ n, (choices n).fault = none
  unused : ∀ n, db.jobs.get? (choices n).id = none
  distinct : ∀ m n, (choices m).id = (choices n).id → m = n

/-- The statuses the created jobs start in, the status the certificate is left in, and
whether an approval was asked for. -/
structure Outcome where
  jobs : List JobStatus
  certificate : Option CertificateStatus
  requested : Bool

def createdSince (before after : DB) : List Job := after.created.drop before.created.length

def outcome (certID : String) (before after : DB) : Outcome :=
  { jobs := (createdSince before after).map Job.status
    certificate := (after.inventory.get certID).map ManagedCertificate.status
    requested := decide (before.approvals.rows.length < after.approvals.rows.length) }

def singleID (certID : String) : BulkRenewalCriteria := ⟨"", "", "", "", "", [certID]⟩

/-- The profile of the certificate, as its row has it, requires approval. -/
def requiresApproval (db : DB) (certID : String) : Bool :=
  (db.inventory.get certID).any (fun cert =>
    (db.profiles.get? cert.certificateProfileID).any Profile.requiresApproval)

/-- A job for a profile that requires approval waits behind a pending request. -/
def CheckGated (before after : DB) : Prop :=
  ∀ job ∈ createdSince before after, requiresApproval before job.certificateID = true →
    job.status = .awaitingApproval ∧
      ∃ req ∈ after.approvals.rows, req.jobID = job.id ∧ req.state = .pending

structure SameGate (env : Env) (db : DB) (certID actor : String) : Prop where
  single : ∀ choices choices', Calm db choices → Calm db choices' →
    outcome certID db (runCall env choices 0 (triggerRenewal env certID actor false) db).1 =
      outcome certID db (runCall env choices' 0 (bulkRenew env (singleID certID)) db).1
  expiry : ∀ choices, Calm db choices →
    CheckGated db (runCall env choices 0 (checkExpiringCertificates env) db).1

/-- The gate is wired, and the profile the service reads requires approval. -/
def gated (env : Env) (db : DB) (cert : ManagedCertificate) : Bool :=
  decide (env.approvalSvc ∧ env.profileRepo ∧ cert.certificateProfileID ≠ "") &&
    (db.profiles.get? cert.certificateProfileID).any (fun row =>
      (env.profileColumns.read row).requiresApproval)

/-- The statuses both refuse. -/
def bothRefuse : CertificateStatus → Bool
  | .archived | .expired | .renewalInProgress => true
  | _ => false

abbrev marked (cert : ManagedCertificate) : ManagedCertificate :=
  { cert with status := .renewalInProgress }

/-- Both refuse the certificate or cannot mark it, or it is not revoked and there is no gate
in the way of the job. -/
def SameEntry (env : Env) (db : DB) (certID : String) : Prop :=
  ∀ cert, db.inventory.get certID = some cert →
    bothRefuse cert.status = true ∨ db.inventory.update (marked cert) = none ∨
      (cert.status ≠ .revoked ∧ env.jobRepo = true ∧ gated env db cert = false)

section Single

variable {env : Env} {db : DB} {choices : Nat → Choice} {certID actor : String}
  {cert : ManagedCertificate}

def unchanged (db : DB) (certID : String) : Outcome :=
  ⟨[], (db.inventory.get certID).map ManagedCertificate.status, false⟩

theorem outcome_self : outcome certID db db = unchanged db certID := by
  simp [outcome, unchanged, createdSince]

variable {c : Choice} {inventory : Inventory} {image : ManagedCertificate}

theorem execQuery_getCertificate (sound : c.fault = none) :
    execQuery env db (.getCertificate certID) c = (db, (db.inventory.get certID).elim
      (.error (.notFound "certificate not found: ")) fun cert =>
        .ok (cert, db.targetIDs certID)) := by
  cases found : db.inventory.get certID with
  | none => exact execQuery_of_error sound (by simp only [perform, found])
  | some cert => exact execQuery_of_ok sound (by simp only [perform, found])

theorem execQuery_updateCertificate_none (sound : c.fault = none)
    (missing : db.inventory.update image = none) :
    execQuery env db (.updateCertificate image) c =
      (db, .error (.notFound "certificate not found: ")) :=
  execQuery_of_error sound (by simp only [perform, missing])

theorem execQuery_updateCertificate (sound : c.fault = none)
    (updated : db.inventory.update image = some inventory) :
    execQuery env db (.updateCertificate image) c = ({ db with inventory }, .ok ()) :=
  execQuery_of_ok sound (by simp only [perform, updated])

theorem exists_execQuery_createJob (env : Env) (db : DB) (sound : c.fault = none)
    (job : Job) (fresh : db.jobs.get? job.id = none) :
    ∃ db', execQuery env db (.createJob job) c = (db', .ok ()) ∧
      db'.jobs.rows = db.jobs.rows ++ [job] ∧ db'.created = db.created ++ [job] ∧
      db'.inventory = db.inventory ∧ db'.approvals = db.approvals := by
  obtain ⟨jobs, inserted⟩ := Table.insert_isSome fresh
  refine ⟨{ db with jobs, created := db.created ++ [job] }, ?_, (Table.insert_rows inserted).1,
    rfl, rfl, rfl⟩
  exact execQuery_of_ok sound (by simp only [perform, inserted])

theorem get_marked (found : db.inventory.get certID = some cert)
    (updated : db.inventory.update (marked cert) = some inventory) :
    (inventory.get certID).map ManagedCertificate.status = some .renewalInProgress := by
  have keyed : cert.id = certID := Table.get?_key found
  obtain ⟨-, updated⟩ := of_else updated nofun
  obtain ⟨certs, changed, rfl⟩ := Option.map_eq_some_iff.mp updated
  have present : db.inventory.certs.get? certID = some cert := found
  simp [Inventory.get, Table.get?_update changed, keyed, present]

theorem bulkRenew_outcome (calm : Calm db choices) :
    outcome certID db (runCall env choices 0 (bulkRenew env (singleID certID)) db).1 =
      (db.inventory.get certID).elim (unchanged db certID) fun cert =>
        if bulkSkips cert.status = true ∨ db.inventory.update (marked cert) = none then
          unchanged db certID
        else ⟨[ungatedStatus env], some .renewalInProgress, false⟩ := by
  have single : bulkRenew env (singleID certID) = fetchCertificates
      (fun certs => bulkLoop env certs ⟨certs.length, 0, 0, 0, [], []⟩) [certID] [] := rfl
  rw [single, fetchCertificates, runCall_query (execQuery_getCertificate (calm.sound 0))]
  cases found : db.inventory.get certID with
  | none => exact outcome_self
  | some cert =>
    dsimp only [Option.elim_some, fetchCertificates, List.nil_append, bulkLoop]
    by_cases skips : bulkSkips cert.status = true
    · rw [if_pos skips, if_pos (.inl skips)]
      exact outcome_self
    rw [if_neg skips]
    cases updated : db.inventory.update (marked cert) with
    | none =>
      rw [if_pos (.inr rfl), runCall_query
        (execQuery_updateCertificate_none (calm.sound _) updated)]
      exact outcome_self
    | some inventory =>
      rw [if_neg (by simp [skips]), runCall_query
        (execQuery_updateCertificate (calm.sound _) updated)]
      rw [runCall_newID, runCall_now, runCall_now]
      obtain ⟨db', created, -, jobs, inventory', approvals⟩ := exists_execQuery_createJob env
        { db with inventory } (calm.sound (0 + 1 + 1 + 1 + 1 + 1))
        (newJob _ cert.id (renewalJobType cert) (ungatedStatus env) _ _) (calm.unused (0 + 1 + 1))
      rw [runCall_query created]
      simp [Program.run, outcome, createdSince, jobs, inventory', approvals, newJob,
        get_marked found updated]

/-- No job is created and no certificate written. -/
def Quiet (o : Op) : Prop := (∀ job, o ≠ .query (.createJob job)) ∧ o.certImage = none

def Undisturbed (s t : DB) : Prop :=
  t.created = s.created ∧ ∀ id, t.inventory.get id = s.inventory.get id

theorem undisturbed_of_quiet (s : DB) (o : Op) (c : Choice) (quiet : Quiet o) :
    Undisturbed s (exec env s o c).1 := by
  refine exec_rely Undisturbed ⟨rfl, fun _ => rfl⟩ o ?_
  intro q db' value isQuery performed
  subst isQuery
  refine ⟨?_, fun id => ?_⟩
  · obtain same | ⟨job, creates, -⟩ := perform_created performed
    · exact same
    · exact absurd (congrArg Op.query creates) (quiet.1 job)
  · obtain same | ⟨image, writes, -⟩ := perform_cert performed id
    · exact same
    · have apart : q.certImage = none := quiet.2
      rw [apart] at writes
      cases writes

theorem quiet_of_read (o : Op) (read : o.isWrite = false) (_ : o.readsCerts = false) : Quiet o := by
  refine ⟨fun job creates => ?_, certImage_of_read read⟩
  subst creates
  cases read

theorem quiet_of_query {q : Query} (apart : q.certImage = none)
    (notNew : ∀ job, q ≠ .createJob job) : Quiet (.query q) :=
  ⟨fun job same => notNew job (Op.query.inj same), apart⟩

/-- Behind the creation of the job nothing happens to jobs and certificates that counts. -/
theorem requestApproval_quiet (certID jobID profileID : String)
    {next : Except String String → Service} (rest : ∀ r, (next r).All Quiet) :
    (requestApproval env certID jobID profileID actor next).All Quiet := by
  refine requestApproval_all quiet_of_read ?_ ?_ certID jobID profileID actor rest
  · exact fun _ _ => quiet_of_query rfl (by simp)
  · intro _ id note next rest
    exact approveInternal_all quiet_of_read id _ note (fun _ _ => quiet_of_query rfl (by simp))
      (fun _ => quiet_of_query rfl (by simp)) (fun _ => quiet_of_query rfl (by simp)) rest

theorem enqueueRenewal_outcome (calm : Calm db choices) (certID : String)
    (cert : ManagedCertificate) (actor : String) (n : Nat) (inventory : Inventory)
    {gate : Option String} {waits : Bool} (asks : gate.isSome = waits) :
    ∃ requested, (waits = false → requested = false) ∧
      outcome certID db (runCall env choices n (enqueueRenewal env cert actor gate)
        { db with inventory }).1 =
      ⟨[if waits then .awaitingApproval else ungatedStatus env],
        (inventory.get certID).map ManagedCertificate.status, requested⟩ := by
  subst asks
  obtain ⟨db', created, -, jobs, stored, approvals⟩ := exists_execQuery_createJob env
    { db with inventory } (calm.sound (n + 1 + 1 + 1))
    (newJob _ cert.id (renewalJobType cert)
      (if gate.isSome then .awaitingApproval else ungatedStatus env) _ _) (calm.unused n)
  unfold enqueueRenewal
  rw [runCall_newID, runCall_now, runCall_now, runCall_query created]
  cases gate with
  | none =>
    refine ⟨false, fun _ => rfl, ?_⟩
    simp [Program.run, outcome, createdSince, jobs, stored, approvals, newJob]
  | some profileID =>
    generalize final : runCall env choices _ (requestApproval _ _ _ _ _ _) db' = after
    have undisturbed : Undisturbed db' after.1 := by
      rw [← final]
      refine Program.All.run (fun _ => ⟨rfl, fun _ => rfl⟩) ?_ undisturbed_of_quiet choices
        (requestApproval_quiet _ _ _ ?_) _ _
      · exact fun s t u first second =>
          ⟨second.1.trans first.1, fun id => (second.2 id).trans (first.2 id)⟩
      · simp only [forall_except, query, Program.All]
        exact ⟨fun _ => ⟨quiet_of_query rfl (by simp), fun _ => trivial, fun _ => trivial⟩,
          fun _ => trivial⟩
    refine ⟨decide (db.approvals.rows.length < after.1.approvals.rows.length), by simp, ?_⟩
    unfold outcome
    rw [createdSince, undisturbed.1, undisturbed.2, jobs, stored]
    simp [newJob]

/-- The profile lookup of the single renewal, and what comes of it. -/
theorem lookup_outcome (calm : Calm db choices) (certID : String) (n : Nat) (inventory : Inventory)
    {next : Except RepoError Profile → Service}
    (fails : ∀ e, next (.error e) = enqueueRenewal env cert actor none)
    (goes : ∀ profile, next (.ok profile) = enqueueRenewal env cert actor
      (if profile.requiresApproval then some profile.id else none)) :
    ∃ requested, (gated env db cert = false → requested = false) ∧
      outcome certID db (runCall env choices n
        (if env.approvalSvc ∧ env.profileRepo ∧ cert.certificateProfileID ≠ "" then
          query (.getProfile cert.certificateProfileID) next
        else enqueueRenewal env cert actor none) { db with inventory }).1 =
      ⟨[if gated env db cert then .awaitingApproval else ungatedStatus env],
        (inventory.get certID).map ManagedCertificate.status, requested⟩ := by
  by_cases looks : env.approvalSvc ∧ env.profileRepo ∧ cert.certificateProfileID ≠ ""
  · rw [if_pos looks]
    cases row : db.profiles.get? cert.certificateProfileID with
    | none =>
      have missing : execQuery env { db with inventory } (.getProfile cert.certificateProfileID)
          (choices n) = ({ db with inventory }, .error (.other
            "failed to query profile: failed to scan profile: sql: no rows in result set")) :=
        execQuery_of_error (calm.sound n) (by simp only [perform, row])
      rw [runCall_query missing, fails]
      exact enqueueRenewal_outcome calm certID cert actor (n + 1) inventory (by simp [gated, row])
    | some profile =>
      have asks : gated env db cert = (env.profileColumns.read profile).requiresApproval := by
        simp [gated, row, looks]
      have read : execQuery env { db with inventory } (.getProfile cert.certificateProfileID)
          (choices n) = ({ db with inventory }, .ok (env.profileColumns.read profile)) :=
        execQuery_of_ok (calm.sound n) (by simp only [perform, row])
      rw [runCall_query read, goes, asks]
      refine enqueueRenewal_outcome calm certID cert actor (n + 1) inventory ?_
      cases (env.profileColumns.read profile).requiresApproval <;> rfl
  · rw [if_neg looks]
    exact enqueueRenewal_outcome calm certID cert actor n inventory (by simp [gated, looks])

theorem triggerRenewal_outcome (env : Env) (calm : Calm db choices) (certID actor : String) :
    ∃ requested, (∀ cert, db.inventory.get certID = some cert → gated env db cert = false →
        requested = false) ∧
      outcome certID db (runCall env choices 0 (triggerRenewal env certID actor false) db).1 =
        (db.inventory.get certID).elim (unchanged db certID) fun cert =>
          if bothRefuse cert.status = true ∨ db.inventory.update (marked cert) = none then
            unchanged db certID
          else ⟨if env.jobRepo then
              [if gated env db cert then .awaitingApproval else ungatedStatus env]
            else [], some .renewalInProgress, requested⟩ := by
  unfold triggerRenewal
  rw [runCall_query (execQuery_getCertificate (calm.sound 0))]
  cases found : db.inventory.get certID with
  | none => exact ⟨false, fun _ _ _ => rfl, outcome_self⟩
  | some cert =>
    simp only [Option.elim_some, Option.some.injEq, forall_eq']
    by_cases refuses : bothRefuse cert.status = true
    · simp only [refuses, true_or, if_true]
      refine ⟨false, fun _ => rfl, ?_⟩
      split
      · exact outcome_self
      split
      · exact outcome_self
      split
      · exact outcome_self
      next notArchived notExpired notMarked =>
        cases status : cert.status <;> simp_all [bothRefuse]
    have goes : ∀ status, bothRefuse status = true → cert.status ≠ status :=
      fun status both same => refuses (same ▸ both)
    rw [if_neg (goes .archived rfl), if_neg (goes .expired rfl),
      if_neg (show ¬(cert.status = .renewalInProgress ∧ True) from
        fun both => goes _ rfl both.1)]
    cases updated : db.inventory.update (marked cert) with
    | none =>
      simp only [runCall_query (execQuery_updateCertificate_none (calm.sound _) updated), or_true,
        if_true]
      exact ⟨false, fun _ => rfl, outcome_self⟩
    | some inventory =>
      rw [runCall_query (execQuery_updateCertificate (calm.sound _) updated)]
      have status := get_marked found updated
      simp only [refuses, reduceCtorEq, or_self, if_false]
      by_cases wired : env.jobRepo = true
      · simp only [wired, if_true, ← status]
        exact lookup_outcome calm certID _ inventory (fun _ => rfl) (fun _ => rfl)
      · simp only [wired, Bool.false_eq_true, if_false]
        refine ⟨false, fun _ => rfl, ?_⟩
        simp [Program.run, outcome, createdSince, status]

theorem awaitingApproval_ne_ungatedStatus : JobStatus.awaitingApproval ≠ ungatedStatus env := by
  unfold ungatedStatus
  split <;> decide

theorem bulkSkips_eq (status : CertificateStatus) :
    bulkSkips status = (bothRefuse status || decide (status = .revoked)) := by
  cases status <;> rfl

/-- There are times and identifiers enough for a run in which nothing fails. -/
theorem exists_calm (db : DB) (now : Time) :
    ∃ choices, Calm db choices ∧
      ∀ n, (choices n).now = now ∧ (choices n).renewalInfo = .ok none := by
  obtain ⟨bound, short⟩ := (db.jobs.rows.map (fun job => job.id.length)).toFinset.exists_le
  refine ⟨fun n =>
    { Choice.plain with now, id := String.ofList (List.replicate (bound + 1 + n) 'x') },
    ⟨fun _ => rfl, fun n => ?_, fun m n same => ?_⟩, fun _ => ⟨rfl, rfl⟩⟩
  · rw [Table.get?_eq_none_iff]
    intro job member same
    have length := short job.id.length (by simpa using ⟨job, member, rfl⟩)
    rw [same, String.length_ofList, List.length_replicate] at length
    omega
  · have length := congrArg String.length same
    simpa using length

theorem same_single_iff :
    (∀ choices choices', Calm db choices → Calm db choices' →
      outcome certID db (runCall env choices 0 (triggerRenewal env certID actor false) db).1 =
        outcome certID db (runCall env choices' 0 (bulkRenew env (singleID certID)) db).1) ↔
      SameEntry env db certID := by
  constructor
  · intro agree cert found
    obtain ⟨choices, calm, -⟩ := exists_calm db 0
    obtain ⟨requested, -, single⟩ := triggerRenewal_outcome env calm certID actor
    have same := agree choices choices calm calm
    rw [single, bulkRenew_outcome calm, found, Option.elim_some, Option.elim_some] at same
    by_cases refused : bothRefuse cert.status = true ∨ db.inventory.update (marked cert) = none
    · exact refused.imp_right .inl
    rw [if_neg refused] at same
    obtain ⟨eligible, marks⟩ := not_or.mp refused
    refine .inr (.inr ?_)
    have live : cert.status ≠ .revoked := by
      intro revoked
      simp [unchanged, found, revoked, bulkSkips] at same
    have skips : ¬ (bulkSkips cert.status = true ∨ db.inventory.update (marked cert) = none) := by
      simp [bulkSkips_eq, eligible, live, marks]
    rw [if_neg skips] at same
    simp only [Outcome.mk.injEq] at same
    have jobs := same.1
    by_cases wired : env.jobRepo = true
    · refine ⟨live, wired, ?_⟩
      rw [if_pos wired] at jobs
      by_contra gate
      rw [if_pos (by simpa using gate)] at jobs
      exact awaitingApproval_ne_ungatedStatus (List.singleton_inj.mp jobs)
    · rw [if_neg wired] at jobs
      cases jobs
  · intro entry choices choices' calm calm'
    obtain ⟨requested, silent, single⟩ := triggerRenewal_outcome env calm certID actor
    rw [single, bulkRenew_outcome calm']
    cases found : db.inventory.get certID with
    | none => rfl
    | some cert =>
      rw [Option.elim_some, Option.elim_some]
      by_cases refused : bothRefuse cert.status = true ∨ db.inventory.update (marked cert) = none
      · rw [if_pos refused, if_pos (refused.imp_left fun both => by simp [bulkSkips_eq, both])]
      · obtain ⟨eligible, marks⟩ := not_or.mp refused
        obtain ⟨live, wired, ungated⟩ :=
          ((entry cert found).resolve_left eligible).resolve_left marks
        have skips :
            ¬ (bulkSkips cert.status = true ∨ db.inventory.update (marked cert) = none) := by
          simp [bulkSkips_eq, eligible, live, marks]
        rw [if_neg refused, silent cert found ungated, if_pos wired, if_neg skips, ungated]
        rfl

end Single

/-- The expiry check goes as far as creating a job. -/
def due (env : Env) (db : DB) (cert : ManagedCertificate) : Bool :=
  !expirySkips cert.status && decide (cert.issuerID ∈ env.issuers) &&
    !hasActiveRenewal (db.jobs.rows.filter (fun job => decide (job.certificateID = cert.id)))

/-- No certificate that is due has a profile that requires approval. -/
def NoneDueGated (env : Env) (db : DB) : Prop :=
  ∀ cert ∈ db.inventory.certs.rows, due env db cert = true → requiresApproval db cert.id = false

section Expiry

variable {env : Env} {choices : Nat → Choice} {s : DB} {n : Nat}

def SameJobs (s t : DB) : Prop := t.jobs = s.jobs ∧ t.created = s.created

theorem sameJobs_updateCertificate (env : Env) (s : DB) (image : ManagedCertificate) (c : Choice) :
    SameJobs s (exec env s (.query (.updateCertificate image)) c).1 := by
  refine exec_rely SameJobs ⟨rfl, rfl⟩ _ ?_
  intro q db' value isQuery performed
  cases isQuery
  have frame := perform_frame performed
  exact ⟨frame.2.1 rfl, frame.2.2.2.2.1 (by simp)⟩

variable {Q : DB × Reply → Prop}

theorem updateCertExpiryStatus_run {cert : ManagedCertificate} {left : Time}
    {next : ManagedCertificate → Service}
    (goes : ∀ n' s' held, n ≤ n' → SameJobs s s' → held.id = cert.id →
      held.issuerID = cert.issuerID → Q (runCall env choices n' (next held) s')) :
    Q (runCall env choices n (updateCertExpiryStatus cert left next) s) := by
  unfold updateCertExpiryStatus
  extract_lets newStatus
  split
  · exact goes n s cert le_rfl ⟨rfl, rfl⟩ rfl rfl
  split
  · exact goes n s cert le_rfl ⟨rfl, rfl⟩ rfl rfl
  · refine goes (n + 1 + 1) _ { cert with status := newStatus, updatedAt := (choices n).now }
      (by omega) (sameJobs_updateCertificate _ _ _ _) rfl rfl

/-- Where no issuer has renewal information to give, the check goes on. -/
def Prompt (choices : Nat → Choice) : Prop := ∀ n, (choices n).renewalInfo = .ok none

theorem askRenewalInfo_run {certID : String} {next : Bool → Service}
    (goes : ∀ n' early, n ≤ n' → (Prompt choices → early = false) →
      Q (runCall env choices n' (next early) s)) :
    Q (runCall env choices n (askRenewalInfo certID next) s) := by
  have read : (execQuery env s (.getLatestVersion certID) (choices n)).1 = s :=
    exec_of_read (o := .query (.getLatestVersion certID)) rfl
  unfold askRenewalInfo
  cases result : (execQuery env s (.getLatestVersion certID) (choices n)).2 with
  | error e =>
    rw [runCall_query (Prod.ext read result)]
    exact goes (n + 1) false (by omega) fun _ => rfl
  | ok version =>
    rw [runCall_query (Prod.ext read result)]
    dsimp only
    split
    · exact goes (n + 1) false (by omega) fun _ => rfl
    · simp only [runCall, Program.run, exec]
      cases answer : (choices (n + 1)).renewalInfo with
      | error e => exact goes (n + 1 + 1) false (by omega) fun _ => rfl
      | ok window =>
        cases window with
        | none => exact goes (n + 1 + 1) false (by omega) fun _ => rfl
        | some start =>
          refine goes (n + 1 + 1 + 1) _ (by omega) fun prompt => ?_
          rw [prompt] at answer
          cases answer

theorem execQuery_listByCertificate (env : Env) (s : DB) {c : Choice} (sound : c.fault = none)
    (certID : String) :
    ∃ jobs, execQuery env s (.listByCertificate certID) c = (s, .ok jobs) ∧
      hasActiveRenewal jobs =
        hasActiveRenewal (s.jobs.rows.filter (fun job => decide (job.certificateID = certID))) := by
  refine ⟨_, execQuery_of_ok sound rfl, ?_⟩
  exact (List.perm_insertionSort _ _).any_eq

/-- What the check has done once it is through with the first certificate of its list. -/
def Advances (env : Env) (choices : Nat → Choice) (n : Nat) (cert : ManagedCertificate)
    (rest : List ManagedCertificate) (s : DB) (result : DB × Reply) : Prop :=
  ∃ n' s', n ≤ n' ∧ result = runCall env choices n' (checkLoop env rest) s' ∧
    ((SameJobs s s' ∧ (Prompt choices → due env s cert = false)) ∨
    (due env s cert = true ∧ ∃ job m, n ≤ m ∧ m < n' ∧ job.id = (choices m).id ∧
      job.certificateID = cert.id ∧ job.status = .pending ∧
      s'.jobs.rows = s.jobs.rows ++ [job] ∧ s'.created = s.created ++ [job]))

theorem checkLoop_advances (env : Env) (sound : ∀ m, (choices m).fault = none)
    (fresh : ∀ m, n ≤ m → s.jobs.get? (choices m).id = none) (cert : ManagedCertificate)
    (rest : List ManagedCertificate) :
    Advances env choices n cert rest s
      (runCall env choices n (checkLoop env (cert :: rest)) s) := by
  unfold checkLoop
  by_cases skips : expirySkips cert.status = true
  · rw [if_pos skips]
    exact ⟨n, s, le_rfl, rfl, .inl ⟨⟨rfl, rfl⟩, fun _ => by simp [due, skips]⟩⟩
  rw [if_neg skips, runCall_now]
  refine updateCertExpiryStatus_run fun n₁ s₁ held le₁ same id issuer => ?_
  by_cases unknown : held.issuerID ∉ env.issuers
  · rw [if_pos unknown]
    exact ⟨n₁, s₁, by omega, rfl, .inl ⟨same, fun _ => by simp [due, ← issuer, unknown]⟩⟩
  rw [if_neg unknown]
  refine askRenewalInfo_run fun n₂ early le₂ prompt => ?_
  by_cases isEarly : early = true
  · rw [if_pos isEarly]
    refine ⟨n₂, s₁, by omega, rfl, .inl ⟨same, fun silent => ?_⟩⟩
    rw [prompt silent] at isEarly
    cases isEarly
  rw [if_neg isEarly]
  obtain ⟨jobs, listed, active⟩ := execQuery_listByCertificate env s₁ (sound n₂) held.id
  rw [same.1, id] at active
  rw [runCall_query listed]
  by_cases blocks : blocksRenewal (.ok jobs) = true
  · rw [if_pos blocks]
    refine ⟨n₂ + 1, s₁, by omega, rfl, .inl ⟨same, fun _ => ?_⟩⟩
    have busy : hasActiveRenewal jobs = true := blocks
    rw [active] at busy
    simp [due, busy]
  rw [if_neg blocks, runCall_newID, runCall_now, runCall_now]
  have isDue : due env s cert = true := by
    have idle : ¬ hasActiveRenewal jobs = true := blocks
    rw [active] at idle
    simp only [not_not] at unknown
    simp [due, skips, ← issuer, unknown, idle]
  let job := newJob (choices (n₂ + 1)).id held.id .renewal .pending (choices (n₂ + 1 + 1)).now
    (choices (n₂ + 1 + 1 + 1)).now
  obtain ⟨s₂, created, rows, grown, -, -⟩ := exists_execQuery_createJob env s₁
    (sound (n₂ + 1 + 1 + 1 + 1)) job (same.1 ▸ fresh (n₂ + 1) (by omega))
  rw [runCall_query created]
  have last := sameJobs_updateCertificate env s₂ { held with status := .renewalInProgress }
    (choices (n₂ + 1 + 1 + 1 + 1 + 1))
  refine ⟨n₂ + 1 + 1 + 1 + 1 + 1 + 1, _, by omega, rfl, .inr
    ⟨isDue, job, n₂ + 1, by omega, by omega, rfl, id, rfl, ?_, ?_⟩⟩
  · rw [last.1, rows, same.1]
  · rw [last.2, grown, same.2]

variable {job : Job} {s' : DB}

theorem due_of_rows {other : ManagedCertificate}
    (rows : s'.jobs.rows = s.jobs.rows ++ [job]) (apart : job.certificateID ≠ other.id) :
    due env s' other = due env s other := by
  simp [due, rows, List.filter_append, apart]

theorem fresh_of_rows {m n' : Nat} (distinct : ∀ m n, (choices m).id = (choices n).id → m = n)
    (fresh : ∀ k, n ≤ k → s.jobs.get? (choices k).id = none) (later : n ≤ n')
    (rows : s'.jobs.rows = s.jobs.rows ++ [job]) (keyed : job.id = (choices m).id)
    (before : m < n') :
    ∀ k, n' ≤ k → s'.jobs.get? (choices k).id = none := by
  intro k after
  rw [Table.get?_eq_none_iff]
  intro row member same
  rw [rows] at member
  rcases mem_snoc member with old | rfl
  · exact Table.get?_eq_none_iff.mp (fresh k (by omega)) row old same
  · have place := distinct m k (keyed.symm.trans same)
    omega

/-- The jobs the check has added, when it is through with its list. -/
theorem checkLoop_created (env : Env) (sound : ∀ m, (choices m).fault = none)
    (distinct : ∀ m n, (choices m).id = (choices n).id → m = n)
    (certs : List ManagedCertificate) (unique : (certs.map ManagedCertificate.id).Nodup)
    (fresh : ∀ m, n ≤ m → s.jobs.get? (choices m).id = none) :
    ∃ added, (runCall env choices n (checkLoop env certs) s).1.created = s.created ++ added ∧
      (∀ job ∈ added, job.status = .pending ∧
        ∃ cert ∈ certs, job.certificateID = cert.id ∧ due env s cert = true) ∧
      (Prompt choices → ∀ cert ∈ certs, due env s cert = true →
        ∃ job ∈ added, job.certificateID = cert.id) := by
  induction certs generalizing n s with
  | nil => exact ⟨[], by simp [checkLoop, Program.run], by simp, by simp⟩
  | cons cert rest ih =>
    obtain ⟨notLater, unique⟩ := List.nodup_cons.mp unique
    obtain ⟨n', s', later, runs, ⟨same, passed⟩ |
      ⟨isDue, job, m, early, before, keyed, own, isPending, rows, grown⟩⟩ :=
      checkLoop_advances env sound fresh cert rest
    · have unchanged : ∀ other, due env s' other = due env s other := by
        intro other
        simp only [due, same.1]
      obtain ⟨added, created, owned, complete⟩ :=
        ih unique (n := n') (s := s') (fun k after => same.1 ▸ fresh k (by omega))
      refine ⟨added, by rw [runs, created, same.2], fun job member => ?_,
        fun prompt other listed => ?_⟩
      · obtain ⟨isPending, other, listed, own, isDue⟩ := owned job member
        exact ⟨isPending, other, List.mem_cons_of_mem cert listed, own, unchanged other ▸ isDue⟩
      · intro isDue
        rcases List.mem_cons.mp listed with rfl | listed
        · rw [passed prompt] at isDue
          cases isDue
        · exact complete prompt other listed ((unchanged other).symm ▸ isDue)
    · have apart : ∀ other ∈ rest, job.certificateID ≠ other.id := by
        intro other listed same
        exact notLater (List.mem_map.mpr ⟨other, listed, same.symm.trans own⟩)
      obtain ⟨added, created, owned, complete⟩ :=
        ih unique (n := n') (s := s') (fresh_of_rows distinct fresh later rows keyed before)
      refine ⟨job :: added, by rw [runs, created, grown]; simp, fun new member => ?_,
        fun prompt other listed otherDue => ?_⟩
      · rcases List.mem_cons.mp member with rfl | member
        · exact ⟨isPending, cert, List.mem_cons_self, own, isDue⟩
        · obtain ⟨isPending, other, listed, own, isDue⟩ := owned new member
          rw [due_of_rows rows (apart other listed)] at isDue
          exact ⟨isPending, other, List.mem_cons_of_mem cert listed, own, isDue⟩
      · rcases List.mem_cons.mp listed with rfl | listed
        · exact ⟨job, List.mem_cons_self, own⟩
        · rw [← due_of_rows rows (apart other listed)] at otherDue
          obtain ⟨new, member, owns⟩ := complete prompt other listed otherDue
          exact ⟨new, List.mem_cons_of_mem job member, owns⟩

variable {db : DB}

theorem checkExpiringCertificates_run (env : Env) (calm : Calm db choices) :
    ∃ certs, runCall env choices 0 (checkExpiringCertificates env) db =
        runCall env choices (0 + 1 + 1) (checkLoop env certs) db ∧
      (certs.map ManagedCertificate.id).Nodup ∧
      ∀ cert, cert ∈ certs ↔ cert ∈ db.inventory.certs.rows ∧
        cert.expiresAt < (choices 0).now + 31 * day ∧ cert.status ≠ .archived := by
  unfold checkExpiringCertificates
  rw [runCall_now, runCall_query (execQuery_of_ok (calm.sound _) rfl)]
  refine ⟨_, rfl, ?_, fun cert => ?_⟩
  · rw [orderBy, ((List.perm_insertionSort _ _).map _).nodup_iff]
    exact db.inventory.certs.unique.sublist (List.filter_sublist.map _)
  · rw [orderBy, List.mem_insertionSort, List.mem_filter]
    simp

theorem check_gated_iff :
    (∀ choices, Calm db choices →
      CheckGated db (runCall env choices 0 (checkExpiringCertificates env) db).1) ↔
      NoneDueGated env db := by
  constructor
  · intro gatesAll cert row isDue
    by_contra asks
    obtain ⟨latest, bounded⟩ :=
      (db.inventory.certs.rows.map ManagedCertificate.expiresAt).toFinset.exists_le
    obtain ⟨choices, calm, plain⟩ := exists_calm db latest
    obtain ⟨certs, runs, unique, listed⟩ := checkExpiringCertificates_run env calm
    obtain ⟨added, created, owned, complete⟩ := checkLoop_created env calm.sound calm.distinct certs
      unique (n := 0 + 1 + 1) (s := db) (fun m _ => calm.unused m)
    have member : cert ∈ certs := by
      refine (listed cert).mpr ⟨row, ?_, ?_⟩
      · rw [(plain 0).1]
        refine lt_of_le_of_lt (bounded _ ?_) (Int.lt_add_of_pos_right latest (by decide))
        simpa using ⟨cert, row, rfl⟩
      · intro archived
        simp [due, archived, expirySkips] at isDue
    obtain ⟨job, new, own⟩ := complete (fun n => (plain n).2) cert member isDue
    have gates := gatesAll choices calm
    rw [runs] at gates
    have waits := (gates job (by rw [createdSince, created, List.drop_left]; exact new)
      (by rw [own]; simpa using asks)).1
    rw [(owned job new).1] at waits
    cases waits
  · intro noneDue choices calm job member asks
    obtain ⟨certs, runs, unique, listed⟩ := checkExpiringCertificates_run env calm
    obtain ⟨added, created, owned, -⟩ := checkLoop_created env calm.sound calm.distinct certs
      unique (n := 0 + 1 + 1) (s := db) (fun m _ => calm.unused m)
    rw [runs, createdSince, created, List.drop_left] at member
    obtain ⟨-, cert, inList, own, isDue⟩ := owned job member
    rw [own, noneDue cert ((listed cert).mp inList).1 isDue] at asks
    cases asks

end Expiry

/-- The entry points agree exactly for certificates that both refuse or that are neither
revoked nor behind the gate, and for tables in which nothing that is due is behind it. -/
theorem same_gate_iff (env : Env) (db : DB) (certID actor : String) :
    SameGate env db certID actor ↔ SameEntry env db certID ∧ NoneDueGated env db := by
  constructor
  · intro same
    exact ⟨same_single_iff.mp same.single, check_gated_iff.mp same.expiry⟩
  · rintro ⟨entry, noneDue⟩
    exact ⟨same_single_iff.mpr entry, check_gated_iff.mpr noneDue⟩

/-- The single renewal waits for approval, and the bulk renewal goes ahead. -/
theorem bulk_renewal_ungated : ¬ SameGate .plain .gated "mc-1" "alice" := by
  intro same
  have entry := same_single_iff.mp same.single (plainCert "mc-1" .active "prof-1") (by decide)
  revert entry
  decide

end Certctl.Guarantees.EntryPointGate

import Certctl.Guarantees.JobSamples
import Certctl.Source.Jobs.AgentScope

/-!
What an agent can reach. The poll for work is scoped to the agent, but a submitted request,
a status report and a pickup name a certificate or a job of their own, and the services
check no tie and no retirement; the report does not even look the agent up. So the agents of
a store are kept apart exactly where there is nothing to keep apart.
-/
namespace Certctl.Guarantees.AgentIsolation

open Lib Source Source.Jobs

inductive AgentCall where
  | submitCSR (certID csrPEM : String)
  | reportJobStatus (jobID : String) (status : JobStatus) (errMsg : String)
  | getCertificateForAgent (certID : String)

/-- The tables after the call of the agent, and whether it succeeded. -/
def agentCall (env : Env) (agentID : String) (choices : Nat → Choice) (db : DB) :
    AgentCall → DB × Bool
  | .submitCSR certID csrPEM =>
    let (db', reply) := runCall env choices 0 (submitCSR env agentID certID csrPEM) db
    (db', decide (reply = .ok))
  | .reportJobStatus jobID status errMsg =>
    let (db', reply) := runCall env choices 0 (reportJobStatus jobID status errMsg) db
    (db', decide (reply = .ok))
  | .getCertificateForAgent certID =>
    (db, (getCertificateForAgent env db agentID certID (choices 0) (choices 1)).isOk)

/-- What the call names is tied to the agent; a request may name no certificate. -/
def AgentCall.tied (db : DB) (agentID : String) : AgentCall → Prop
  | .submitCSR certID _ => certID = "" ∨ db.tiesCert agentID certID = true
  | .reportJobStatus jobID .. =>
    ∃ job, db.jobs.get? jobID = some job ∧ db.tiesJob agentID job = true
  | .getCertificateForAgent certID => db.tiesCert agentID certID = true

/-- The agent has been retired. -/
def isRetired (db : DB) (agentID : String) : Bool := (db.agents.get? agentID).any Agent.retired

/-- The calls of `a` succeed only for what is tied to `a` and not once `a` is retired, and
what is tied to `b` and not to `a` stays as it is. -/
structure Isolated (env : Env) (db : DB) (a b : String) : Prop where
  tied : ∀ call choices, (agentCall env a choices db call).2 = true → call.tied db a
  active : ∀ call choices, (agentCall env a choices db call).2 = true → isRetired db a = false
  jobs : ∀ call choices id job, db.jobs.get? id = some job → db.tiesJob b job = true →
    db.tiesJob a job = false → (agentCall env a choices db call).1.jobs.get? id = some job
  certs : ∀ call choices id, db.tiesCert b id = true → db.tiesCert a id = false →
    SameCert db.inventory (agentCall env a choices db call).1.inventory id

/-- All there is to reach is tied to the agent: the jobs, the certificates with a version,
and those a request may be accepted for. -/
structure Confined (env : Env) (db : DB) (a : String) : Prop where
  active : isRetired db a = false
  jobs : ∀ job ∈ db.jobs.rows, db.tiesJob a job = true
  versions : ∀ v ∈ db.inventory.versions.rows, db.tiesCert a v.certificateID = true
  certs : ∀ cert ∈ db.inventory.certs.rows, cert.id ≠ "" →
    cert.issuerID ∉ env.issuers ∨ Signable env db cert → db.tiesCert a cert.id = true

/-- Nothing fails. -/
def calm : Nat → Choice := fun _ => .plain

/-- The choices of a submission that is signed: the job list is lost, and on demand the
profile too; the issuer answers, and the version gets the ID. -/
def granting (withoutProfile : Bool) (id : String) (issued : Issuance) (n : Nat) : Choice :=
  { Choice.plain with
    fault := if n = 2 ∨ (n = 3 ∧ withoutProfile = true) then some ("", false) else none
    id
    issuance := .ok issued }

@[simp] theorem granting_issuance (withoutProfile : Bool) (id : String) (issued : Issuance)
    (n : Nat) : (granting withoutProfile id issued n).issuance = .ok issued := rfl

@[simp] theorem granting_id (withoutProfile : Bool) (id : String) (issued : Issuance) (n : Nat) :
    (granting withoutProfile id issued n).id = id := rfl

@[simp] theorem granting_now (withoutProfile : Bool) (id : String) (issued : Issuance) (n : Nat) :
    (granting withoutProfile id issued n).now = 0 := rfl

section Success

variable {env : Env} {db : DB} {a : String}

/-- A report on a stored job goes through, whoever sends it. -/
theorem report_succeeds {jobID : String} {job : Job} (found : db.jobs.get? jobID = some job)
    (status : JobStatus) (errMsg : String) :
    (agentCall env a calm db (.reportJobStatus jobID status errMsg)).2 = true := by
  have read : execQuery env db (.getJob jobID) (calm 0) = (db, .ok job) :=
    execQuery_of_ok rfl (by simp only [perform, found])
  cases updated : db.jobs.update jobID (setStatus (calm 1).now status errMsg)
      (setStatus_id (calm 1).now status errMsg) with
  | none =>
    rw [Table.update_eq_none updated] at found
    cases found
  | some jobs =>
    have written : execQuery env db (.updateStatus jobID status errMsg) (calm 1) =
        ({ db with jobs }, .ok ()) := execQuery_of_ok rfl (by simp only [perform, updated])
    have result : runCall env calm 0 (reportJobStatus jobID status errMsg) db =
        ({ db with jobs }, .ok) := by
      unfold reportJobStatus
      rw [runCall_query read]
      rw [runCall_query written]
      rfl
    simp only [agentCall, result, decide_true]

variable {agent : Agent} (present : db.agents.get? a = some agent)

include present

theorem getAgent_present (c : Choice) (sound : c.fault = none) :
    execQuery env db (.getAgent a) c = (db, .ok agent) :=
  execQuery_of_ok sound (by simp only [perform, present])

theorem pickup_succeeds {v : CertificateVersion} (stored : v ∈ db.inventory.versions.rows) :
    (agentCall env a calm db (.getCertificateForAgent v.certificateID)).2 = true := by
  have agentRead : execQuery env db (.getAgent a) (calm 0) = (db, .ok agent) :=
    getAgent_present present (calm 0) rfl
  simp only [agentCall, getCertificateForAgent, agentRead]
  cases listed : listVersions db v.certificateID (calm 1) with
  | error e => cases listed
  | ok versions =>
    have member : v ∈ versions := (mem_listVersions listed).mpr ⟨stored, rfl⟩
    cases versions with
    | nil => cases member
    | cons first rest => rfl

/-- A request that names no certificate is taken from any agent. -/
theorem bare_submission_succeeds :
    (agentCall env a calm db (.submitCSR "" "csr")).2 = true := by
  have result : runCall env calm 0 (submitCSR env a "" "csr") db = (db, .ok) := by
    unfold submitCSR
    rw [runCall_query (getAgent_present present (calm 0) rfl)]
    rfl
  simp only [agentCall, result, decide_true]

end Success

section Signing

variable {env : Env} {db : DB} {cert : ManagedCertificate} {csrPEM id : String} {issued : Issuance}

theorem runCall_issue {choices : Nat → Choice} {n : Nat}
    {next : Except String Issuance → Service} :
    runCall env choices n (.op .issue next) db =
      runCall env choices (n + 1) (next (choices n).issuance) db := rfl

theorem execQuery_lost {q : Query} {c : Choice} {cause : String}
    (lost : c.fault = some (cause, false)) :
    execQuery env db q c = (db, .error (.other (q.context ++ cause))) := by
  simp only [execQuery, lost]

/-- The choices can be such that the rules are checked where the request passes them. -/
theorem exists_profile (passes : Passes env db cert csrPEM) (id : String) (issued : Issuance) :
    ∃ withoutProfile k profile, 3 ≤ k ∧ env.validateCSR csrPEM profile = .ok () ∧
      ∀ next, runCall env (granting withoutProfile id issued) 3 (withProfile env cert next) db =
        runCall env (granting withoutProfile id issued) k (next profile) db := by
  obtain bare | ⟨named, wired, row, stored, checked⟩ := passes
  · by_cases looked : cert.certificateProfileID ≠ "" ∧ env.profileRepo = true
    · refine ⟨true, 4, none, by omega, bare, fun next => ?_⟩
      rw [withProfile, if_pos looked, runCall_query (execQuery_lost rfl)]
    · refine ⟨true, 3, none, le_rfl, bare, fun next => ?_⟩
      rw [withProfile, if_neg looked]
  · refine ⟨false, 4, some (env.profileColumns.read row), by omega, checked, fun next => ?_⟩
    have read : execQuery env db (.getProfile cert.certificateProfileID)
        (granting false id issued 3) = (db, .ok (env.profileColumns.read row)) :=
      execQuery_of_ok rfl (by simp only [perform, stored])
    rw [withProfile, if_pos ⟨named, wired⟩, runCall_query read]

/-- With a new fingerprint and a new ID the signed request is stored. -/
theorem signDirectly_succeeds (registered : cert.issuerID ∈ env.issuers)
    (passes : Passes env db cert csrPEM)
    (newPrint : ∀ v ∈ db.inventory.versions.rows,
      v.fingerprintSHA256 ≠ env.fingerprint issued.certPEM)
    (newID : db.inventory.versions.get? id = none) :
    ∃ withoutProfile, (runCall env (granting withoutProfile id issued) 3
      (signDirectly env cert csrPEM) db).2 = .ok := by
  obtain ⟨withoutProfile, k, profile, late, checked, goes⟩ := exists_profile passes id issued
  have unused : ¬ db.inventory.versions.rows.any (fun row => decide (row.fingerprintSHA256 =
      (issuedVersion env id cert.id csrPEM 0 issued).fingerprintSHA256)) = true := by
    rw [List.any_eq_true]
    rintro ⟨v, stored, same⟩
    exact newPrint v stored (of_decide_eq_true same)
  obtain ⟨versions, inserted⟩ := Table.insert_isSome (t := db.inventory.versions)
    (r := issuedVersion env id cert.id csrPEM 0 issued) newID
  have sound : (granting withoutProfile id issued (k + 1 + 1 + 1)).fault = none := by
    simp only [granting]
    rw [if_neg (by omega)]
  have stored : execQuery env db (.createVersion (issuedVersion env id cert.id csrPEM 0 issued))
      (granting withoutProfile id issued (k + 1 + 1 + 1)) =
        ({ db with inventory := { db.inventory with versions } }, .ok ()) := by
    refine execQuery_of_ok sound ?_
    have created : db.inventory.createVersion (issuedVersion env id cert.id csrPEM 0 issued) =
        some { db.inventory with versions } := by
      rw [Inventory.createVersion, if_neg unused, inserted, Option.map_some]
    simp only [perform, created]
  refine ⟨withoutProfile, ?_⟩
  rw [signDirectly, if_pos registered, goes]
  simp only [checked, runCall_issue, granting_issuance, runCall_newID, granting_id, runCall_now,
    granting_now]
  rw [runCall_query stored]
  rfl

/-- A request for the certificate is accepted from any agent if it can be signed for, and
also if its issuer is not registered: then nothing is done. -/
theorem submission_succeeds {a : String} {agent : Agent} (present : db.agents.get? a = some agent)
    (found : db.inventory.get cert.id = some cert) (named : cert.id ≠ "")
    (admits : cert.issuerID ∉ env.issuers ∨ Signable env db cert) :
    ∃ csrPEM choices, (agentCall env a choices db (.submitCSR cert.id csrPEM)).2 = true := by
  -- Up to the job list, which is lost, all such submissions go alike.
  have begins : ∀ csrPEM withoutProfile id issued, csrPEM ≠ "" →
      runCall env (granting withoutProfile id issued) 0 (submitCSR env a cert.id csrPEM) db =
        runCall env (granting withoutProfile id issued) 3 (signDirectly env cert csrPEM) db := by
    intro csrPEM withoutProfile id issued nonempty
    have read : execQuery env db (.getCertificate cert.id)
        (granting withoutProfile id issued 1) = (db, .ok (cert, db.targetIDs cert.id)) := by
      refine execQuery_of_ok rfl ?_
      simp only [perform, found]
    rw [submitCSR, runCall_query (getAgent_present present _ rfl)]
    rw [if_neg nonempty, if_neg named, runCall_query read]
    rfl
  obtain unknown | ⟨registered, csrPEM, issued, nonempty, passes, newPrint⟩ := admits
  · refine ⟨"csr", granting true "" ⟨"", 0, 0, "", ""⟩, ?_⟩
    have result := begins "csr" true "" ⟨"", 0, 0, "", ""⟩ (by simp)
    rw [signDirectly, if_neg unknown] at result
    simp only [agentCall, result]
    rfl
  · obtain ⟨id, newID⟩ := db.inventory.versions.exists_absent
    obtain ⟨withoutProfile, succeeds⟩ :=
      signDirectly_succeeds registered passes newPrint newID
    refine ⟨csrPEM, granting withoutProfile id issued, ?_⟩
    simp only [agentCall, begins csrPEM withoutProfile id issued nonempty, succeeds, decide_true]

end Signing

section Main

variable {env : Env} {db : DB} {a b : String} {agent : Agent}

theorem confined_of_isolated (present : db.agents.get? a = some agent)
    (isolated : Isolated env db a b) : Confined env db a := by
  refine ⟨isolated.active _ _ (bare_submission_succeeds present), ?_, ?_, ?_⟩
  · intro job stored
    have found := Table.get?_of_mem stored
    obtain ⟨job', found', ties⟩ := isolated.tied _ _ (report_succeeds found .completed "")
    rw [found] at found'
    cases found'
    exact ties
  · intro v stored
    exact isolated.tied _ _ (pickup_succeeds present stored)
  · intro cert stored named admits
    obtain ⟨csrPEM, choices, succeeds⟩ :=
      submission_succeeds present (Table.get?_of_mem stored) named admits
    obtain none | ties := isolated.tied _ _ succeeds
    · exact absurd none named
    · exact ties

variable {choices : Nat → Choice}

theorem report_job {jobID errMsg : String} {status : JobStatus}
    (succeeds : (agentCall env a choices db (.reportJobStatus jobID status errMsg)).2 = true) :
    ∃ job, db.jobs.get? jobID = some job := by
  have ends : Alone env (fun _ _ _ => true) (reportJobStatus jobID status errMsg)
      (fun reply _ => reply = .ok → ∃ job, db.jobs.get? jobID = some job) db := by
    refine alone_read rfl (fun e ok => by cases ok) fun c job returned => ?_
    refine alone_query fun c db' r _ => ?_
    cases r with
    | error e => exact fun ok => by cases ok
    | ok _ => exact fun _ => ⟨job, getJob_ok returned⟩
  exact ends.run (fun _ _ _ => rfl) (of_decide_eq_true succeeds)

theorem report_inventory (jobID : String) (status : JobStatus) (errMsg : String)
    (choices : Nat → Choice) :
    (agentCall env a choices db (.reportJobStatus jobID status errMsg)).1.inventory =
      db.inventory := by
  have keeps : (reportJobStatus jobID status errMsg).All Op.keepsInventory := by
    refine reportJobStatus_all keepsInventory_of_read jobID status errMsg rfl
  have kept : Alone env (fun _ _ _ => true) (reportJobStatus jobID status errMsg)
      (fun _ db' => db'.inventory = db.inventory) db :=
    alone_of_keeps (I := fun inv => inv = db.inventory) keeps rfl
  exact kept.run fun _ _ _ => rfl

theorem pickup_version {certID : String}
    (succeeds : (agentCall env a choices db (.getCertificateForAgent certID)).2 = true) :
    ∃ v ∈ db.inventory.versions.rows, v.certificateID = certID := by
  simp only [agentCall, getCertificateForAgent] at succeeds
  split at succeeds
  · cases succeeds
  · split at succeeds
    · cases succeeds
    · cases succeeds
    next first rest listed => exact ⟨first, (mem_listVersions listed).mp List.mem_cons_self⟩

theorem isolated_of_confined (confined : Confined env db a) : Isolated env db a b := by
  have submitted : ∀ certID csrPEM choices, Submitted env db certID
      (runCall env choices 0 (submitCSR env a certID csrPEM) db).2
      (runCall env choices 0 (submitCSR env a certID csrPEM) db).1 := by
    intro certID csrPEM choices
    have alone : Alone env (fun _ _ _ => true) (submitCSR env a certID csrPEM)
        (Submitted env db certID) db := submitCSR_submitted a
    exact alone.run fun _ _ _ => rfl
  have ties : ∀ certID cert, certID ≠ "" → db.inventory.get certID = some cert →
      cert.issuerID ∉ env.issuers ∨ Signable env db cert → db.tiesCert a certID = true := by
    intro certID cert named found admits
    have key : cert.id = certID := Table.get?_key found
    exact key ▸ confined.certs cert (Table.get?_mem found) (key.symm ▸ named) admits
  refine ⟨?_, fun _ _ _ => confined.active, ?_, ?_⟩
  · intro call choices succeeds
    cases call with
    | submitCSR certID csrPEM =>
      by_cases named : certID = ""
      · exact .inl named
      · obtain none | ⟨cert, found, admits⟩ :=
          (submitted certID csrPEM choices).ok (of_decide_eq_true succeeds)
        · exact .inl none
        · exact .inr (ties certID cert named found admits)
    | reportJobStatus jobID status errMsg =>
      obtain ⟨job, found⟩ := report_job succeeds
      exact ⟨job, found, confined.jobs job (Table.get?_mem found)⟩
    | getCertificateForAgent certID =>
      obtain ⟨v, stored, rfl⟩ := pickup_version succeeds
      exact confined.versions v stored
  · intro call choices id job found _ apart
    rw [confined.jobs job (Table.get?_mem found)] at apart
    cases apart
  · intro call choices id _ apart
    cases call with
    | submitCSR certID csrPEM =>
      obtain same | ⟨rfl, named, cert, found, signable⟩ :=
        (submitted certID csrPEM choices).others id
      · exact same
      · rw [ties id cert named found (.inr signable)] at apart
        cases apart
    | reportJobStatus jobID status errMsg =>
      rw [report_inventory]
      exact .refl _ id
    | getCertificateForAgent certID => exact .refl _ id

/-- An agent of the store is kept to what is tied to it exactly if it is not retired and
there is nothing else to reach: every job, every certificate with a version and every
certificate that a request may be accepted for is tied to it. -/
theorem agent_isolated_iff (present : db.agents.get? a = some agent) :
    Isolated env db a b ↔ Confined env db a :=
  ⟨confined_of_isolated present, isolated_of_confined⟩

end Main

section Exhibits

def fleetEnv : Env := { Env.plain with issuers := ["iss-1"], fingerprint := id }

/-- A deployment under way at the one agent. -/
def deployment : Job :=
  ⟨"job-b", .deployment, "mc-1", some "tg-b", some "ag-b", .running, 1, 3, none, 0, some 0, none, 0⟩

def deployed : CertificateVersion := ⟨"cv-1", "mc-1", "01", 0, 0, "cert", "cert\n", "csr", 0⟩

/-- Two agents; the certificate is on a target of the second. -/
def fleet (retired : Bool) : DB :=
  { DB.empty with
    agents := ⟨[⟨"ag-a", none, retired⟩, ⟨"ag-b", none, false⟩], by simp⟩
    targets := ⟨[⟨"tg-b", some "ag-b"⟩], List.nodup_singleton _⟩
    mappings := [("mc-1", "tg-b")]
    inventory := ⟨⟨[plainCert "mc-1" .active ""], List.nodup_singleton _⟩,
      ⟨[deployed], List.nodup_singleton _⟩⟩
    jobs := ⟨[deployment], List.nodup_singleton _⟩ }

/-- All there is belongs to the second agent, so that one is isolated. -/
theorem agent_isolated_deploying : Isolated fleetEnv (fleet false) "ag-b" "ag-a" := by
  have present : (fleet false).agents.get? "ag-b" = some ⟨"ag-b", none, false⟩ := rfl
  refine (agent_isolated_iff present).mpr ⟨rfl, by decide, by decide, ?_⟩
  intro cert stored _ _
  obtain rfl : cert = plainCert "mc-1" .active "" := List.mem_singleton.mp stored
  rfl

def foreignReport : AgentCall := .reportJobStatus "job-b" .failed "gone"

def foreignPickup : AgentCall := .getCertificateForAgent "mc-1"

def foreignRequest : AgentCall := .submitCSR "mc-1" "csr"

/-- The first agent, retired or not, fails the deployment of the second, picks up its
certificate and has a request of its own signed for it. -/
theorem foreign_work_reached :
    (fleet false).tiesJob "ag-a" deployment = false ∧
    (fleet false).tiesJob "ag-b" deployment = true ∧
    (fleet false).tiesCert "ag-a" "mc-1" = false ∧ (fleet false).tiesCert "ag-b" "mc-1" = true ∧
    (∀ retired, (agentCall fleetEnv "ag-a" calm (fleet retired) foreignReport).2 = true ∧
      (agentCall fleetEnv "ag-a" calm (fleet retired) foreignPickup).2 = true ∧
      (agentCall fleetEnv "ag-a" (granting false "cv-2" ⟨"02", 0, 0, "new", ""⟩) (fleet retired)
        foreignRequest).2 = true) ∧
    (agentCall fleetEnv "ag-a" calm (fleet false) foreignReport).1.jobs.get? "job-b" ≠
      some deployment ∧
    ¬ SameCert (fleet false).inventory (agentCall fleetEnv "ag-a"
      (granting false "cv-2" ⟨"02", 0, 0, "new", ""⟩) (fleet false) foreignRequest).1.inventory
      "mc-1" ∧
    ∀ retired, ¬ Isolated fleetEnv (fleet retired) "ag-a" "ag-b" := by
  have reports : ∀ retired,
      (agentCall fleetEnv "ag-a" calm (fleet retired) foreignReport).2 = true :=
    fun retired => report_succeeds rfl .failed "gone"
  refine ⟨by decide, by decide, by decide, by decide, ?_, ?_, ?_, ?_⟩
  · decide +kernel
  · decide +kernel
  · intro same
    have grown : (agentCall fleetEnv "ag-a" (granting false "cv-2" ⟨"02", 0, 0, "new", ""⟩)
        (fleet false) foreignRequest).1.inventory.versions.rows.contains
          ⟨"cv-2", "mc-1", "02", 0, 0, "new", "new\n", "csr", 0⟩ = true := by
      decide +kernel
    have stored := (same.versions _ rfl).mp (List.contains_iff_mem.mp grown)
    exact absurd stored (by decide)
  · intro retired isolated
    obtain ⟨job, found, ties⟩ := isolated.tied _ _ (reports retired)
    cases found
    cases retired with
    | false | true => exact absurd ties (by decide)

end Exhibits

end Certctl.Guarantees.AgentIsolation

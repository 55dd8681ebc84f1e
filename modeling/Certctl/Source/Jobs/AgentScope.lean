import Certctl.Source.Jobs.Footprints

/-!
The calls of an agent beside the poll for work, and what ties a job or a certificate to an
agent. `ClaimPendingByAgentID` hands out what is tied; the other calls read no tie at all.
What a submitted request can do to the inventory is worked out here for a call alone.

Source: internal/repository/postgres/certificate.go; internal/service/agent.go.
-/
namespace Certctl.Source.Jobs

open Lib

/-- A certificate-target mapping leads to a target of the agent. -/
def DB.mapped (db : DB) (agentID certID : String) : Bool :=
  db.mappings.any (fun m => decide (m.1 = certID) &&
    decide ((db.targets.get? m.2).bind Target.agentID = some agentID))

/-- The job names the agent, or names none and its target does. -/
def DB.assigned (db : DB) (agentID : String) (job : Job) : Bool :=
  decide (job.agentID = some agentID) ||
    (decide (job.agentID = none) && decide (db.targetAgent job = some agentID))

def DB.tiesJob (db : DB) (agentID : String) (job : Job) : Bool :=
  db.assigned agentID job || db.mapped agentID job.certificateID

def DB.tiesCert (db : DB) (agentID certID : String) : Bool :=
  db.mapped agentID certID ||
    db.jobs.rows.any (fun job => decide (job.certificateID = certID) && db.assigned agentID job)

/-- `ListVersions`, the newest first. -/
def listVersions (db : DB) (certID : String) (c : Choice) :
    Except RepoError (List CertificateVersion) :=
  match c.fault with
  | some (cause, _) => .error (.other ("failed to query certificate versions: " ++ cause))
  | none => .ok (orderByDesc CertificateVersion.createdAt
      (db.inventory.versions.rows.filter (fun v => decide (v.certificateID = certID))))

theorem mem_listVersions {db : DB} {certID : String} {c : Choice} {v : CertificateVersion}
    {versions : List CertificateVersion} (listed : listVersions db certID c = .ok versions) :
    v ∈ versions ↔ v ∈ db.inventory.versions.rows ∧ v.certificateID = certID := by
  unfold listVersions at listed
  split at listed
  · cases listed
  · rw [← Except.ok.inj listed, orderByDesc, List.mem_insertionSort, List.mem_filter,
      decide_eq_true_eq]

def latestVersion (first : CertificateVersion) (versions : List CertificateVersion) :
    CertificateVersion :=
  versions.foldl (fun latest v => if v.createdAt > latest.createdAt then v else latest) first

/-- The call only reads, the agent's row first and then the versions. -/
def getCertificateForAgent (env : Env) (db : DB) (agentID certID : String)
    (lookup listing : Choice) : Except String String :=
  match (execQuery env db (.getAgent agentID) lookup).2 with
  | .error e => .error ("failed to fetch agent: " ++ e.message)
  | .ok _ =>
    match listVersions db certID listing with
    | .error e => .error ("failed to fetch certificate versions: " ++ e.message)
    | .ok [] => .error "no certificate versions found"
    | .ok (first :: rest) => .ok (latestVersion first (first :: rest)).pemChain

/-- The key rules let the request through, with the stored profile or, where it was not
looked up, without one. -/
def Passes (env : Env) (db : DB) (cert : ManagedCertificate) (csrPEM : String) : Prop :=
  env.validateCSR csrPEM none = .ok () ∨
    cert.certificateProfileID ≠ "" ∧ env.profileRepo = true ∧
      ∃ row, db.profiles.get? cert.certificateProfileID = some row ∧
        env.validateCSR csrPEM (some (env.profileColumns.read row)) = .ok ()

/-- Some request can be signed for the certificate and stored as a version. -/
def Signable (env : Env) (db : DB) (cert : ManagedCertificate) : Prop :=
  cert.issuerID ∈ env.issuers ∧ ∃ csrPEM, ∃ issued : Issuance, csrPEM ≠ "" ∧
    Passes env db cert csrPEM ∧
    ∀ v ∈ db.inventory.versions.rows, v.fingerprintSHA256 ≠ env.fingerprint issued.certPEM

/-- The certificate and its versions are as they were. -/
structure SameCert (inv inv' : Inventory) (certID : String) : Prop where
  row : inv'.get certID = inv.get certID
  versions : ∀ v : CertificateVersion, v.certificateID = certID →
    (v ∈ inv'.versions.rows ↔ v ∈ inv.versions.rows)

theorem SameCert.refl (inv : Inventory) (certID : String) : SameCert inv inv certID :=
  ⟨rfl, fun _ _ => Iff.rfl⟩

variable {inv inv' : Inventory}

theorem SameCert.trans {inv'' : Inventory} {certID : String}
    (first : SameCert inv inv' certID) (second : SameCert inv' inv'' certID) :
    SameCert inv inv'' certID :=
  ⟨second.row.trans first.row, fun v own => (second.versions v own).trans (first.versions v own)⟩

theorem sameCert_createVersion {version : CertificateVersion}
    (created : inv.createVersion version = some inv') {id : String}
    (other : id ≠ version.certificateID) : SameCert inv inv' id := by
  refine ⟨Inventory.get_createVersion created id, fun v own => ?_⟩
  rw [(Inventory.createVersion_rows created).2.1, List.mem_append, List.mem_singleton, or_iff_left]
  rintro rfl
  exact other own.symm

theorem sameCert_update {image : ManagedCertificate}
    (updated : inv.update image = some inv') {id : String} (other : id ≠ image.id) :
    SameCert inv inv' id := by
  refine ⟨?_, fun v _ => ?_⟩
  · obtain same | ⟨own, -⟩ := Inventory.get_update updated id
    · exact same
    · exact absurd own.symm other
  · rw [Inventory.update_versions updated]

section Alone

variable {env : Env} {may : DB → Op → Choice → Bool}

/-- The call alone ends with `post`, whatever the surroundings choose within `may`. -/
abbrev Alone (env : Env) (may : DB → Op → Choice → Bool) (p : Service) (post : Reply → DB → Prop)
    (db : DB) : Prop :=
  p.Ensures (exec env) may post db

variable {db : DB} {post : Reply → DB → Prop} {p : Service} {q : Query}

theorem Alone.run (alone : Alone env may p post db) {choices : Nat → Choice}
    (within : ∀ s o n, may s o (choices n) = true) :
    post (runCall env choices 0 p db).2 (runCall env choices 0 p db).1 :=
  Program.Ensures.run alone (Program.meets_of_forall _ within p 0 db)

theorem alone_query {next : Except RepoError q.Value → Service}
    (holds : ∀ c db' r, execQuery env db q c = (db', r) → Alone env may (next r) post db') :
    Alone env may (query q next) post db :=
  fun c _ => holds c _ _ rfl

theorem alone_read (read : q.isWrite = false) {next : Except RepoError q.Value → Service}
    (fails : ∀ e, Alone env may (next (.error e)) post db)
    (goes : ∀ c value, (execQuery env db q c).2 = .ok value →
      Alone env may (next (.ok value)) post db) : Alone env may (query q next) post db := by
  refine alone_query fun c db' r result => ?_
  have same : (execQuery env db q c).1 = db := exec_of_read (o := .query q) read
  obtain rfl : db = db' := by rw [← same, result]
  cases r with
  | error e => exact fails e
  | ok value => exact goes c value (by rw [result])

theorem alone_issue {next : Except String Issuance → Service}
    (fails : ∀ e, Alone env may (next (.error e)) post db)
    (goes : ∀ c issued, may db .issue c = true → c.issuance = .ok issued →
      Alone env may (next (.ok issued)) post db) : Alone env may (.op .issue next) post db := by
  intro c allowed
  change Alone env may (next c.issuance) post db
  cases answer : c.issuance with
  | error e => exact fails e
  | ok issued => exact goes c issued allowed answer

theorem alone_now {next : Time → Service} (rest : ∀ now, Alone env may (next now) post db) :
    Alone env may (.op .now next) post db :=
  fun c _ => rest c.now

theorem alone_newID {next : String → Service} (rest : ∀ id, Alone env may (next id) post db) :
    Alone env may (.op .newID next) post db :=
  fun c _ => rest c.id

/-- An operation that leaves the inventory alone. -/
def Op.keepsInventory : Op → Prop
  | .query q => q.writesInventory = false
  | _ => True

theorem inventory_of_keeps {o : Op} (keeps : o.keepsInventory) (c : Choice) :
    (exec env db o c).1.inventory = db.inventory := by
  refine exec_rely (fun _ after => after.inventory = db.inventory) rfl o ?_
  intro q db' value isQuery performed
  subst isQuery
  exact (perform_frame performed).2.2.1 keeps

theorem keepsInventory_of_read (o : Op) (read : o.isWrite = false) (_ : o.readsCerts = false) :
    o.keepsInventory := by
  cases o with
  | query q => cases q <;> first | rfl | cases read
  | _ => trivial

/-- Calls that leave the inventory alone keep what is said of it. -/
theorem alone_of_keeps {I : Inventory → Prop} (all : p.All Op.keepsInventory)
    (holds : I db.inventory) : Alone env may p (fun _ db' => I db'.inventory) db := by
  refine Program.All.ensures (I := fun s : DB => I s.inventory) ?_ all holds
  intro s o c keeps _ before
  rw [inventory_of_keeps keeps c]
  exact before

theorem alone_updateStatus {id errMsg : String} {status : JobStatus}
    {next : Except RepoError Unit → Service}
    (rest : ∀ r db', db'.inventory = db.inventory → Alone env may (next r) post db') :
    Alone env may (query (.updateStatus id status errMsg) next) post db :=
  fun c _ => rest _ _ (inventory_of_keeps (o := .query (.updateStatus id status errMsg)) rfl c)

/-- The profile handed on is the stored one, or there is none. -/
theorem alone_withProfile {cert : ManagedCertificate} {next : Option Profile → Service}
    (csrPEM : String)
    (rest : ∀ profile, (env.validateCSR csrPEM profile = .ok () → Passes env db cert csrPEM) →
      Alone env may (next profile) post db) :
    Alone env may (withProfile env cert next) post db := by
  unfold withProfile
  split
  next looked =>
    refine alone_read rfl (fun _ => rest none .inl) fun c profile returned => ?_
    refine rest _ fun passed => ?_
    obtain ⟨_, performed, -⟩ := execQuery_ok returned
    simp only [perform] at performed
    split at performed
    next row stored =>
      cases performed
      exact .inr ⟨looked.1, looked.2, row, stored, passed⟩
    · cases performed
  · exact rest none .inl

section Submission

variable {db db' : DB} {cert : ManagedCertificate} {certID csrPEM message : String}

/-- A version for the certificate has been stored, so it could be signed for; the others
are as they were. -/
def Spent (env : Env) (db : DB) (cert : ManagedCertificate) (inv : Inventory) : Prop :=
  Signable env db cert ∧ ∀ id, id ≠ cert.id → SameCert db.inventory inv id

theorem alone_createVersion {s : DB} {id : String} {createdAt : Time} {issued : Issuance}
    {next : Except RepoError Unit → Service} {post : Reply → DB → Prop}
    (same : s.inventory = db.inventory) (registered : cert.issuerID ∈ env.issuers)
    (nonempty : csrPEM ≠ "") (passes : Passes env db cert csrPEM)
    (fails : ∀ e s', s'.inventory = db.inventory ∨ Spent env db cert s'.inventory →
      Alone env may (next (.error e)) post s')
    (goes : ∀ s', Spent env db cert s'.inventory → Alone env may (next (.ok ())) post s') :
    Alone env may
      (query (.createVersion (issuedVersion env id cert.id csrPEM createdAt issued)) next)
      post s := by
  have spent : ∀ inv, s.inventory.createVersion
      (issuedVersion env id cert.id csrPEM createdAt issued) = some inv →
      Spent env db cert inv := by
    intro inv created
    rw [same] at created
    exact ⟨⟨registered, csrPEM, issued, nonempty, passes,
      (Inventory.createVersion_rows created).2.2⟩,
      fun id other => sameCert_createVersion created other⟩
  refine alone_query fun c s' r result => ?_
  obtain ⟨unchanged, e, failed⟩ | ⟨after, value, performed, store, returned⟩ :=
    execQuery_cases env s (.createVersion (issuedVersion env id cert.id csrPEM createdAt issued)) c
  · rw [result] at unchanged failed
    obtain rfl : r = .error e := failed
    obtain rfl : s' = s := unchanged
    exact fails e s' (.inl same)
  · simp only [perform] at performed
    split at performed
    next inv created =>
      cases performed
      rw [result] at store returned
      obtain rfl : s' = { s with inventory := inv } := store
      have stored : Spent env db cert inv := spent inv created
      obtain good | ⟨e, failed⟩ := returned
      · obtain rfl : r = .ok () := good
        exact goes _ stored
      · obtain rfl : r = .error e := failed
        exact fails e _ (.inr stored)
    · cases performed

theorem spent_updateCertificate {s : DB} (spent : Spent env db cert s.inventory) (now : Time)
    (issued : Issuance) (c : Choice) : Spent env db cert
      (execQuery env s (.updateCertificate (renewedImage now issued cert)) c).1.inventory := by
  obtain ⟨unchanged, -⟩ | ⟨after, value, performed, store, -⟩ :=
    execQuery_cases env s (.updateCertificate (renewedImage now issued cert)) c
  · rw [unchanged]
    exact spent
  · rw [store]
    simp only [perform] at performed
    split at performed
    next inv updated =>
      cases performed
      exact ⟨spent.1, fun id other => (spent.2 id other).trans (sameCert_update updated other)⟩
    · cases performed

/-- What a submission for the certificate leaves: success means that it could be signed for
or that its issuer is not registered; only a certificate that could be signed for has
changed. -/
structure Submitted (env : Env) (db : DB) (certID : String) (reply : Reply) (db' : DB) : Prop where
  ok : reply = .ok → certID = "" ∨ ∃ cert, db.inventory.get certID = some cert ∧
    (cert.issuerID ∉ env.issuers ∨ Signable env db cert)
  others : ∀ id, SameCert db.inventory db'.inventory id ∨
    id = certID ∧ certID ≠ "" ∧
      ∃ cert, db.inventory.get certID = some cert ∧ Signable env db cert

theorem submitted_error (same : db'.inventory = db.inventory) :
    Submitted env db certID (.error message) db' := by
  refine ⟨fun ok => (by cases ok), fun id => .inl ?_⟩
  rw [same]
  exact .refl _ id

section Found

variable (found : db.inventory.get certID = some cert) (named : certID ≠ "")

include found named

theorem submitted_of_spent {reply : Reply} (spent : Spent env db cert db'.inventory) :
    Submitted env db certID reply db' := by
  have key : cert.id = certID := Table.get?_key found
  refine ⟨fun _ => .inr ⟨cert, found, .inr spent.1⟩, fun id => ?_⟩
  by_cases own : id = certID
  · exact .inr ⟨own, named, cert, found, spent.1⟩
  · exact .inl (spent.2 id (key.symm ▸ own))

theorem submitted_of_outcome
    (outcome : db'.inventory = db.inventory ∨ Spent env db cert db'.inventory) :
    Submitted env db certID (.error message) db' := by
  obtain same | spent := outcome
  · exact submitted_error same
  · exact submitted_of_spent found named spent

theorem signDirectly_submitted (nonempty : csrPEM ≠ "") :
    Alone env may (signDirectly env cert csrPEM) (Submitted env db certID) db := by
  unfold signDirectly
  split
  next registered =>
    refine alone_withProfile csrPEM fun profile passes => ?_
    cases checked : env.validateCSR csrPEM profile with
    | error e => exact submitted_error rfl
    | ok _ =>
      refine alone_issue (fun e => submitted_error rfl) fun _ issued _ _ => ?_
      refine alone_newID fun id => alone_now fun createdAt => ?_
      refine alone_createVersion rfl registered nonempty (passes checked) ?_ ?_
      · exact fun e s' outcome => submitted_of_outcome found named outcome
      · intro s' spent
        refine alone_now fun now c _ => ?_
        exact submitted_of_spent found named (spent_updateCertificate spent now issued c)
  next unknown =>
    exact ⟨fun _ => .inr ⟨cert, found, .inl unknown⟩, fun id => .inl (.refl _ id)⟩

/-- The completion of a job, for a caller that only puts its error into words. -/
theorem completeAgentCSRRenewal_submitted (job : Job) (targetIDs : List String)
    {next : Except String Unit → Service} (nonempty : csrPEM ≠ "")
    (fails : ∀ e, ∃ message, next (.error e) = .done (.error message))
    (goes : next (.ok ()) = .done .ok) :
    Alone env may (completeAgentCSRRenewal env job cert targetIDs csrPEM next)
      (Submitted env db certID) db := by
  have failed : ∀ e s, s.inventory = db.inventory ∨ Spent env db cert s.inventory →
      Alone env may (next (.error e)) (Submitted env db certID) s := by
    intro e s outcome
    obtain ⟨message, same⟩ := fails e
    rw [same]
    exact submitted_of_outcome found named outcome
  have failsJob : ∀ errMsg e s, s.inventory = db.inventory ∨ Spent env db cert s.inventory →
      Alone env may (failJob job.id errMsg (next (.error e))) (Submitted env db certID) s := by
    intro errMsg e s outcome
    refine alone_updateStatus fun _ s' kept => failed e s' ?_
    rw [kept]
    exact outcome
  have ends : ∀ r, (next r).All Op.keepsInventory := by
    intro r
    cases r with
    | error e =>
      obtain ⟨message, same⟩ := fails e
      rw [same]
      trivial
    | ok _ =>
      rw [goes]
      trivial
  have deploys : Deploys Op.keepsInventory job :=
    ⟨keepsInventory_of_read, fun _ _ => rfl, fun _ _ => rfl⟩
  unfold completeAgentCSRRenewal
  split
  · exact failsJob _ _ db (.inl rfl)
  next known =>
    have registered : cert.issuerID ∈ env.issuers := not_not.mp known
    refine alone_withProfile csrPEM fun profile passes => ?_
    cases checked : env.validateCSR csrPEM profile with
    | error e => exact failsJob _ _ db (.inl rfl)
    | ok _ =>
      refine alone_updateStatus fun r s same => ?_
      cases r with
      | error e => exact failed _ s (.inl same)
      | ok _ =>
        refine alone_issue (fun e => failsJob _ _ s (.inl same)) fun _ issued _ _ => ?_
        refine alone_newID fun id => alone_now fun createdAt => ?_
        refine alone_createVersion same registered nonempty (passes checked)
          (fun e => failsJob _ _) fun s' spent => ?_
        refine alone_now fun now => alone_query fun c after r result => ?_
        have stored := spent_updateCertificate spent now issued c
        rw [result] at stored
        cases r with
        | error e => exact failsJob _ _ after (.inr stored)
        | ok _ =>
          refine (alone_of_keeps (finishRenewal_all deploys cert.id targetIDs ends)
            stored).mono fun reply s'' spent => ?_
          exact submitted_of_spent found named spent

end Found

theorem submitCSR_submitted (agentID : String) :
    Alone env may (submitCSR env agentID certID csrPEM) (Submitted env db certID) db := by
  refine alone_read rfl (fun e => submitted_error rfl) fun _ _ _ => ?_
  dsimp only
  split
  · exact submitted_error rfl
  next nonempty =>
    split
    next none => exact ⟨fun _ => .inl none, fun id => .inl (.refl _ id)⟩
    next named =>
      refine alone_read rfl (fun e => submitted_error rfl) fun c read returned => ?_
      obtain ⟨cert, targetIDs⟩ := read
      have found : db.inventory.get certID = some cert := getCertificate_ok returned
      have signs : Alone env may (signDirectly env cert csrPEM) (Submitted env db certID) db :=
        signDirectly_submitted found named nonempty
      refine alone_read rfl (fun e => signs) fun c jobs _ => ?_
      cases awaitingCSRJobs (.ok jobs) with
      | nil => exact signs
      | cons job rest =>
        exact completeAgentCSRRenewal_submitted found named job targetIDs nonempty
          (fun e => ⟨_, rfl⟩) rfl

end Submission

end Alone

end Certctl.Source.Jobs

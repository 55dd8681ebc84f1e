import Certctl.Source.AgentRuns

/-!
Which key an agent holds for a certificate and which version is its newest. An agent owns the
certificates it has a key file for: as long as nobody else has one, the file and the versions
of such a certificate change only by the agent's own doing. An agent is settled when each of
its keys belongs to the newest version; a job leaves it settled if the new key it writes is
also signed.
-/
namespace Certctl.Source.Agents

open Lib Source.Jobs

section Paths

/-- The shape check leaves a name that is a path component by itself. -/
theorem plain_of_validateAgentCertID {id : String} (valid : validateAgentCertID id = .ok ()) :
    id ≠ "" ∧ Plain (id ++ ".key").toList := by
  obtain ⟨_, nonempty, valid⟩ := bind_eq_ok.mp valid
  obtain ⟨-, -, valid⟩ := bind_eq_ok.mp valid
  obtain ⟨_, shape, -⟩ := bind_eq_ok.mp valid
  have named : id ≠ "" := ensure_eq_ok.mp nonempty
  have allowed : id.toList.all agentCertIDChar = true := ensure_eq_ok.mp shape
  have ends : (id ++ ".key").toList = id.toList ++ ['.', 'k', 'e', 'y'] := by
    rw [String.toList_append]
    rfl
  refine ⟨named, ?_⟩
  rw [ends]
  refine ⟨by simp, ?_, ?_, ?_⟩
  · intro same
    have length := congrArg List.length same
    simp at length
  · intro same
    have length := congrArg List.length same
    simp at length
  · intro member
    rcases List.mem_append.mp member with inside | suffix
    · have slash := List.all_eq_true.mp allowed '/' inside
      exact absurd slash (by decide)
    · exact absurd suffix (by decide)

variable {agentID certID path : String} {setup : Setup}

theorem keyPath_ok (found : setup.keyPath agentID certID = .ok path) :
    certID ≠ "" ∧ String.ofList (baseOf path.toList) = certID ++ ".key" := by
  obtain ⟨_, valid, found⟩ := bind_eq_ok.mp found
  obtain ⟨-, -, found⟩ := bind_eq_ok.mp found
  obtain ⟨dir, -, found⟩ := bind_eq_ok.mp found
  obtain ⟨-, -, found⟩ := bind_eq_ok.mp found
  obtain ⟨-, -, found⟩ := bind_eq_ok.mp found
  obtain ⟨named, plain⟩ := plain_of_validateAgentCertID valid
  obtain rfl : String.ofList (joinPath dir.toList (certID ++ ".key").toList) = path :=
    Except.ok.inj found
  refine ⟨named, ?_⟩
  rw [String.toList_ofList, baseOf_joinPath _ plain, String.ofList_toList]

/-- Two certificates never share a key file. -/
theorem keyPath_inj {other : String} (found : setup.keyPath agentID certID = .ok path)
    (found' : setup.keyPath agentID other = .ok path) : certID = other := by
  have same : certID ++ ".key" = other ++ ".key" :=
    (keyPath_ok found).2.symm.trans (keyPath_ok found').2
  have texts := congrArg String.toList same
  rw [String.toList_append, String.toList_append] at texts
  exact String.toList_injective (List.append_cancel_right texts)

end Paths

section Versions

def versionsOf (db : DB) (certID : String) : List CertificateVersion :=
  db.inventory.versions.rows.filter (fun v => decide (v.certificateID = certID))

/-- The version an agent is given. -/
def newestOf (versions : List CertificateVersion) : Option CertificateVersion :=
  match orderByDesc CertificateVersion.createdAt versions with
  | [] => none
  | first :: rest => some (latestVersion first (first :: rest))

theorem latestVersion_spec (first : CertificateVersion) (versions : List CertificateVersion) :
    (latestVersion first versions = first ∨ latestVersion first versions ∈ versions) ∧
      first.createdAt ≤ (latestVersion first versions).createdAt ∧
      ∀ v ∈ versions, v.createdAt ≤ (latestVersion first versions).createdAt := by
  induction versions generalizing first with
  | nil => exact ⟨.inl rfl, le_refl _, fun v absent => by cases absent⟩
  | cons head tail ih =>
    have next : latestVersion first (head :: tail) =
        latestVersion (if head.createdAt > first.createdAt then head else first) tail := rfl
    rw [next]
    by_cases newer : head.createdAt > first.createdAt
    · rw [if_pos newer]
      obtain ⟨member, above, all⟩ := ih head
      refine ⟨.inr (List.mem_cons.mpr member), le_trans (le_of_lt newer) above, ?_⟩
      exact List.forall_mem_cons.mpr ⟨above, all⟩
    · rw [if_neg newer]
      obtain ⟨member, above, all⟩ := ih first
      refine ⟨member.imp_right (List.mem_cons_of_mem _), above, ?_⟩
      exact List.forall_mem_cons.mpr ⟨le_trans (not_lt.mp newer) above, all⟩

variable {versions : List CertificateVersion}

theorem newestOf_spec {v : CertificateVersion} (newest : newestOf versions = some v) :
    v ∈ versions ∧ ∀ w ∈ versions, w.createdAt ≤ v.createdAt := by
  unfold newestOf at newest
  split at newest
  · cases newest
  next first rest ordered =>
    have members : ∀ w, w ∈ first :: rest ↔ w ∈ versions := by
      intro w
      rw [← ordered, orderByDesc, List.mem_insertionSort]
    obtain ⟨member, -, all⟩ := latestVersion_spec first (first :: rest)
    cases newest
    refine ⟨(members _).mp ?_, fun w inside => all w ((members w).mpr inside)⟩
    exact member.elim (fun same => by rw [same]; exact List.mem_cons_self) id

/-- A version dated after the others is the newest. -/
theorem eq_of_newestOf_append {new v : CertificateVersion}
    (older : ∀ w ∈ versions, w.createdAt < new.createdAt)
    (newest : newestOf (versions ++ [new]) = some v) : v = new := by
  obtain ⟨member, all⟩ := newestOf_spec newest
  rcases mem_snoc member with old | last
  · exact absurd (older v old) (not_lt.mpr (all new List.mem_concat_self))
  · exact last

end Versions

section Keys

variable {setup : Setup}

/-- The key an agent holds for a certificate. -/
def World.key? (w : World) (setup : Setup) (agentID certID : String) : Option String :=
  match setup.keyPath agentID certID with
  | .ok path => w.read agentID path
  | .error _ => none

variable {agentID certID : String} {path other : String} {w : World}

theorem key?_of_path (found : setup.keyPath agentID certID = .ok path) :
    w.key? setup agentID certID = w.read agentID path := by
  simp only [World.key?, found]

theorem read_write_other (w : World) {path' : String} (content : String)
    (apart : other ≠ agentID ∨ path' ≠ path) :
    (w.write agentID path content).read other path' = w.read other path' := by
  have miss : (decide (agentID = other) && decide (path = path')) = false := by
    rcases apart with agents | paths
    · simp [agents.symm]
    · simp [paths.symm]
  simp only [World.read, World.write, List.find?_cons, miss]

theorem key?_write_other {certID' : String} (content : String)
    (found : setup.keyPath agentID certID = .ok path) (apart : other ≠ agentID ∨ certID' ≠ certID) :
    (w.write agentID path content).key? setup other certID' = w.key? setup other certID' := by
  cases found' : setup.keyPath other certID' with
  | error e => simp only [World.key?, found']
  | ok path' =>
    rw [key?_of_path found', key?_of_path found']
    refine read_write_other w content ?_
    by_cases same : other = agentID
    · subst same
      refine .inr fun shared => ?_
      subst shared
      exact (apart.resolve_left (fun differ => differ rfl)) (keyPath_inj found' found)
    · exact .inl same

/-- Another agent has a key file for the certificate. -/
def heldElsewhere (setup : Setup) (w : World) (agentID certID : String) : Bool :=
  w.files.any (fun f => decide (f.agentID ≠ agentID) &&
    decide (setup.keyPath f.agentID certID = .ok f.path))

theorem key?_eq_none_of_not_held
    (sole : heldElsewhere setup w agentID certID = false) (apart : other ≠ agentID) :
    w.key? setup other certID = none := by
  cases found : setup.keyPath other certID with
  | error e => simp only [World.key?, found]
  | ok path =>
    rw [key?_of_path found, World.read, Option.map_eq_none_iff, List.find?_eq_none]
    intro f member isFile
    simp only [Bool.and_eq_true, decide_eq_true_eq] at isFile
    have absent := List.any_eq_false.mp sole f member
    rw [isFile.1, isFile.2, found] at absent
    simp [apart] at absent

end Keys

section Discipline

def storesVersion : Query → Bool
  | .createVersion _ | .commitRenewal .. => true
  | _ => false

/-- What a certificate authority does: the certificate it returns is for the public key of
the request. -/
def signsRequest (setup : Setup) : AgentOp → Bool
  | .server (.query (.createVersion v)) =>
    decide (setup.certKey v.pemChain = setup.requestKey v.csrPEM)
  | _ => true

/-- A key is written for a certificate that no other agent has a key for and that has a
common name; from then on nothing goes wrong until the new key is signed for: the file is
whole, the request is made, arrives and is accepted, and the answer arrives. A looked-up
certificate names a registered issuer, and a new version is dated after the old ones. -/
def orderly (setup : Setup) (w : World) : AgentOp → Surroundings → Bool
  | .writeKey agentID _ job _, c =>
    decide (job.commonName ≠ "") && !heldElsewhere setup w agentID job.certificateID &&
      (match c.write with
      | .torn .. => false
      | _ => true)
  | .createCSR, c => c.problem.isNone
  | .send (.submitCSR ..), c =>
    match c.fate with
    | .reaches => true
    | _ => false
  | .receive (.submitCSR ..) accepted, c => accepted && c.problem.isNone
  | .server (.query (.getCertificate id)), _ =>
    (w.db.inventory.get id).all (fun cert => decide (cert.issuerID ∈ setup.env.issuers))
  | .server (.query (.createVersion v)), _ =>
    (versionsOf w.db v.certificateID).all (fun old => decide (old.createdAt < v.createdAt))
  | _, _ => true

def Meets (setup : Setup) (w : World) (o : AgentOp) (c : Surroundings) : Prop :=
  signsRequest setup o = true ∧ orderly setup w o c = true

/-- An agent's keys, and the versions of the certificates it has keys for. -/
structure SamePart (setup : Setup) (agentID : String) (w w' : World) : Prop where
  keys : ∀ certID, w'.key? setup agentID certID = w.key? setup agentID certID
  versions : ∀ certID, (w.key? setup agentID certID).isSome →
    versionsOf w'.db certID = versionsOf w.db certID

/-- The control plane's own queries have no part. -/
def Own (setup : Setup) : Option String → World → World → Prop
  | some agentID, w, w' => SamePart setup agentID w w'
  | none, _, _ => True

def Setup.Pairs (setup : Setup) (certPEM keyPEM : String) : Prop :=
  setup.certKey certPEM = some (setup.publicKey keyPEM)

/-- Every pair handed over belongs together, and a certificate's keys are with one agent. -/
structure Sane (setup : Setup) (w : World) : Prop where
  handed : ∀ h ∈ w.handed, setup.Pairs h.certPEM h.keyPEM
  single : ∀ agentID other certID, (w.key? setup agentID certID).isSome →
    (w.key? setup other certID).isSome → agentID = other

/-- The key held for the certificate, if any, belongs to its newest version. -/
def Fits (setup : Setup) (agentID : String) (w : World) (certID : String) : Prop :=
  ∀ keyPEM v, w.key? setup agentID certID = some keyPEM →
    newestOf (versionsOf w.db certID) = some v → setup.Pairs v.pemChain keyPEM

def Settled (setup : Setup) (agentID : String) (w : World) : Prop :=
  ∀ certID, Fits setup agentID w certID

abbrev Safe (setup : Setup) (agentID : String) : AgentProgram → World → Prop :=
  Keeps (execAgent setup) (Own setup) (Meets setup) (Sane setup) (some agentID)

end Discipline

section Parts

variable {setup : Setup} {agentID : String} {w w' : World}

theorem SamePart.refl (setup : Setup) (agentID : String) (w : World) :
    SamePart setup agentID w w :=
  ⟨fun _ => rfl, fun _ _ => rfl⟩

theorem SamePart.trans {w'' : World} (first : SamePart setup agentID w w')
    (second : SamePart setup agentID w' w'') : SamePart setup agentID w w'' := by
  refine ⟨fun certID => (second.keys certID).trans (first.keys certID), fun certID held => ?_⟩
  refine (second.versions certID ?_).trans (first.versions certID held)
  rw [first.keys certID]
  exact held

theorem Fits.stable {certID : String} (fits : Fits setup agentID w certID)
    (same : SamePart setup agentID w w') : Fits setup agentID w' certID := by
  intro keyPEM v held newest
  rw [same.keys certID] at held
  rw [same.versions certID (by rw [held]; rfl)] at newest
  exact fits keyPEM v held newest

theorem Settled.stable (w w' : World) (same : SamePart setup agentID w w')
    (settled : Settled setup agentID w) : Settled setup agentID w' :=
  fun certID => (settled certID).stable same

theorem own_of_others (same : ∀ other ≠ agentID, SamePart setup other w w') (i : Option String)
    (apart : i ≠ some agentID) : Own setup i w w' := by
  cases i with
  | none => trivial
  | some other => exact same other fun mine => apart (congrArg some mine)

theorem key?_of_files (files : w'.files = w.files) (agentID certID : String) :
    w'.key? setup agentID certID = w.key? setup agentID certID := by
  simp only [World.key?, World.read, files]

/-- Nothing of what is anyone's is touched if the key files and the versions are as they
were. -/
theorem samePart_of_eq (files : w'.files = w.files)
    (versions : w'.db.inventory.versions = w.db.inventory.versions) (agentID : String) :
    SamePart setup agentID w w' := by
  refine ⟨key?_of_files files agentID, fun certID _ => ?_⟩
  rw [versionsOf, versions, versionsOf]

theorem Sane.of_eq (sane : Sane setup w) (files : w'.files = w.files)
    (handed : w'.handed = w.handed) : Sane setup w' := by
  refine ⟨fun h member => sane.handed h (handed ▸ member), ?_⟩
  intro agentID other certID held held'
  rw [key?_of_files files] at held held'
  exact sane.single agentID other certID held held'

end Parts

section Neutral

variable {setup : Setup}

def keepsVersions : Op → Prop
  | .query q => storesVersion q = false
  | _ => True

theorem keepsVersions_of_read (o : Op) (read : o.isWrite = false) : keepsVersions o := by
  cases o with
  | query q => cases q <;> first | rfl | cases read
  | _ => trivial

theorem exec_versions {env : Env} {db : DB} {o : Op} {c : Choice} (keeps : keepsVersions o) :
    (exec env db o c).1.inventory.versions = db.inventory.versions := by
  refine exec_rely (fun _ after => after.inventory.versions = db.inventory.versions) rfl o ?_
  intro q db' value isQuery performed
  subst isQuery
  cases q with
  | createVersion v => cases keeps
  | commitRenewal v image => cases keeps
  | updateCertificate image | commitRevocation image row =>
    simp only [perform] at performed
    split at performed
    next inv written =>
      cases performed
      exact Inventory.update_versions written
    · cases performed
  | _ => rw [(perform_frame performed).2.2.1 rfl]

/-- The operation leaves key files, versions and hand-overs alone. -/
def AgentOp.still : AgentOp → Prop
  | .server o => keepsVersions o
  | .writeKey .. | .deployCertificate .. => False
  | _ => True

theorem exec_still (setup : Setup) {o : AgentOp} (still : o.still) (w : World)
    (c : Surroundings) :
    (execAgent setup w o c).1.files = w.files ∧ (execAgent setup w o c).1.handed = w.handed ∧
      (execAgent setup w o c).1.db.inventory.versions = w.db.inventory.versions := by
  cases o with
  | server o => exact ⟨rfl, rfl, exec_versions still⟩
  | writeKey => exact still.elim
  | deployCertificate => exact still.elim
  | _ => exact ⟨rfl, rfl, rfl⟩

theorem neutral_of_still {o : AgentOp} (still : o.still) :
    Neutral (execAgent setup) (Own setup) (Meets setup) (Sane setup) o := by
  intro w c sane _
  obtain ⟨files, handed, versions⟩ := exec_still setup still w c
  refine ⟨sane.of_eq files handed, fun i => ?_⟩
  cases i with
  | none => trivial
  | some agentID => exact samePart_of_eq files versions agentID

end Neutral

section Rules

variable {next : Reply → AgentProgram} {call : Service}

theorem serve_upTo {k : AgentProgram → Prop} (goOn : ∀ reply, (next reply).UpTo AgentOp.still k)
    (all : call.All keepsVersions) : (serve next call).UpTo AgentOp.still k := by
  induction call generalizing k next with
  | done reply => exact goOn reply
  | op o rest ih => exact .op (o := .server o) all.1 fun r => ih r goOn (all.2 r)
  | fork child rest ihc ihn => exact .fork (ihc (fun _ => .here trivial) all.1).all (ihn goOn all.2)

variable {setup : Setup}

/-- The program is safe from every state with the fact. -/
abbrev SafeFrom (setup : Setup) (agentID : String) (J : World → Prop) (p : AgentProgram) : Prop :=
  ∀ w, J w → Safe setup agentID p w

abbrev SafeSettled (setup : Setup) (agentID : String) : AgentProgram → Prop :=
  SafeFrom setup agentID (Settled setup agentID)

variable {agentID : String} {J : World → Prop}
  (stable : ∀ w w', SamePart setup agentID w w' → J w → J w')

include stable

theorem safe_met {o : AgentOp} {next : o.Result → AgentProgram} (still : o.still)
    (rest : ∀ w c, J w → Meets setup w o c → J (execAgent setup w o c).1 →
      Safe setup agentID (next (execAgent setup w o c).2) (execAgent setup w o c).1) :
    SafeFrom setup agentID J (.op o next) := by
  have stays : ∀ w w', Own setup (some agentID) w w' → J w → J w' := stable
  exact fun _ => keeps_neutral stays (neutral_of_still still)
    (fun w c before _ met after => rest w c before met after)

theorem safe_still {o : AgentOp} {next : o.Result → AgentProgram} (still : o.still)
    (rest : ∀ r, SafeFrom setup agentID J (next r)) : SafeFrom setup agentID J (.op o next) :=
  safe_met stable still fun _ _ _ _ after => rest _ _ after

theorem safe_upTo {body : AgentProgram}
    (upTo : body.UpTo AgentOp.still (SafeFrom setup agentID J)) :
    SafeFrom setup agentID J body := by
  induction upTo with
  | here arrived => exact arrived
  | op still _ ih => exact safe_still stable still ih
  | fork beside _ ih =>
    exact fun w fact => ⟨beside.mono fun _ => neutral_of_still, ih w fact⟩

theorem safe_serve (all : call.All keepsVersions)
    (rest : ∀ reply, SafeFrom setup agentID J (next reply)) :
    SafeFrom setup agentID J (serve next call) :=
  safe_upTo stable (serve_upTo (fun reply => .here (rest reply)) all)

/-- A request whose reply comes with a fact of its own. -/
theorem safe_request {ρ : Type} {r : Request} {accepted : ρ → Bool}
    {call : (ρ → AgentProgram) → AgentProgram} {next : Except String (ρ × String) → AgentProgram}
    {K : ρ → World → Prop}
    (stays : ∀ reply w w', SamePart setup agentID w w' → K reply w → K reply w')
    (weaker : ∀ reply w, K reply w → J w)
    (beside : (call fun _ => .done ()).UpTo AgentOp.still (fun rest => rest.All AgentOp.still))
    (answers : ∀ goOn : ρ → AgentProgram, (∀ reply, SafeFrom setup agentID (K reply) (goOn reply)) →
      SafeFrom setup agentID J (call goOn))
    (fails : ∀ e, SafeFrom setup agentID J (next (.error e)))
    (goes : ∀ reply requestID, SafeFrom setup agentID (K reply) (next (.ok (reply, requestID)))) :
    SafeFrom setup agentID J (request r accepted call next) := by
  refine safe_still stable (o := .send r) trivial fun fate => ?_
  cases fate with
  | lost e => exact fails e
  | abandoned e =>
    exact fun w fact => ⟨beside.all.mono fun _ => neutral_of_still, fails e w fact⟩
  | reaches =>
    refine answers _ fun reply => ?_
    refine safe_still (stays reply) (o := .receive r (accepted reply)) trivial fun received => ?_
    cases received with
    | ok requestID => exact goes reply requestID
    | error e => exact fun w known => fails e w (weaker reply w known)

theorem safe_report (jobID : String) (status : JobStatus) (errMsg : String) {next : AgentProgram}
    (rest : SafeFrom setup agentID J next) :
    SafeFrom setup agentID J (report jobID status errMsg next) := by
  have all : (reportJobStatus jobID status errMsg).All keepsVersions :=
    reportJobStatus_all (fun o read _ => keepsVersions_of_read o read) jobID status errMsg rfl
  exact safe_request stable (K := fun _ => J) (fun _ => stable) (fun _ _ fact => fact)
    (serve_upTo (fun _ => .here trivial) all) (fun _ => safe_serve stable all) (fun _ => rest)
    (fun _ _ => rest)

end Rules

end Certctl.Source.Agents

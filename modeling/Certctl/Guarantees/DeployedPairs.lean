import Certctl.Guarantees.JobSamples
import Certctl.Source.AgentJobs

/-!
The pairs of certificate and key that agents hand to the target connectors, in every
interleaving of the agents' jobs with each other and with the rest of the control plane. The
key file is written before the request is signed, and a deployment takes whatever the file
holds together with the newest version. In a run in which a certificate's keys are with one
agent and every key that is written is signed for in the same job, the two belong together.
-/
namespace Certctl.Guarantees.DeployedPairs

open Lib Source Source.Jobs Source.Agents

/-- An agent is one process, and only the agents' submissions store versions. -/
def begins (s : Site) : Move Party Surroundings → Bool
  | .start (.agent agentID _) =>
    s.tasks.all (fun task => decide (task.call.agentID ≠ some agentID))
  | .start (.server q) => !storesVersion q
  | .step .. => true

/-- The moves of the system, with certificate authorities that sign what was requested. -/
def proper (setup : Setup) (s : Site) (m : Move Party Surroundings) : Bool :=
  begins s m && disciplined (fun _ _ _ o _ => signsRequest setup o) s m

def inOrder (setup : Setup) (s : Site) (m : Move Party Surroundings) : Bool :=
  disciplined (fun _ _ w o c => orderly setup w o c) s m

/-- No process has started; a key file belongs to the newest version of its certificate, and
no two agents have one for the same certificate. -/
structure Start (setup : Setup) (s : Site) : Prop where
  idle : s.tasks = []
  nothing : s.store.handed = []
  single : ∀ agentID other certID, (s.store.key? setup agentID certID).isSome →
    (s.store.key? setup other certID).isSome → agentID = other
  settled : ∀ agentID, Settled setup agentID s.store

def Ready (setup : Setup) : Option String → World → Prop
  | some agentID, w => Settled setup agentID w
  | none, _ => True

theorem meets_of_disciplined {setup : Setup} {s : Site} {i : Nat} {c : Surroundings}
    {party : Party} {log : List (Event AgentOp.Result)} {o : AgentOp}
    {next : o.Result → AgentProgram}
    (allowed : (proper setup s (.step i c) && inOrder setup s (.step i c)) = true)
    (current : s.tasks[i]? = some ⟨party, log, .op o next⟩) : Meets setup s.store o c := by
  obtain ⟨isProper, ordered⟩ := Bool.and_eq_true_iff.mp allowed
  obtain ⟨-, signs⟩ := Bool.and_eq_true_iff.mp isProper
  exact ⟨may_of_disciplined signs current, may_of_disciplined ordered current⟩

theorem tenure (setup : Setup) : Tenure (execAgent setup) (Party.program setup) (Own setup)
    (Meets setup) (Sane setup) Party.agentID (Ready setup)
    (fun s m => (proper setup s m && inOrder setup s m) = true) where
  refl i w := by
    cases i with
    | none => trivial
    | some agentID => exact .refl setup agentID w
  trans i w w' w'' first second := by
    cases i with
    | none => trivial
    | some agentID => exact SamePart.trans first second
  stays i w w' same ready := by
    cases i with
    | none => trivial
    | some agentID => exact Settled.stable _ _ same ready
  opens s party allowed := by
    obtain ⟨isProper, -⟩ := Bool.and_eq_true_iff.mp allowed
    obtain ⟨begun, -⟩ := Bool.and_eq_true_iff.mp isProper
    cases party with
    | agent agentID rounds =>
      refine .inr ⟨fun task member => ?_, safe_runAgent rounds _⟩
      exact of_decide_eq_true (List.all_eq_true.mp begun task member)
    | server q =>
      have still : storesVersion q = false := by simpa [begins] using begun
      exact .inl ⟨neutral_of_still (o := .server (.query q)) still, fun _ => trivial⟩
  meets s i c party log o next allowed current := meets_of_disciplined allowed current

/-- In an orderly run every key that is handed to a connector is the private key of the
certificate it is handed over with. -/
theorem deployed_pairs_match {setup : Setup} {s : Site}
    (reached : ReachableUnder (step setup) (Start setup)
      (fun s m => (proper setup s m && inOrder setup s m) = true) s) :
    ∀ h ∈ s.store.handed, setup.certKey h.certPEM = some (setup.publicKey h.keyPEM) := by
  have tended := tended_of_reachable (tenure setup) (fun _ start => start.idle)
    (fun s start => ⟨by simp [start.nothing], start.single⟩) (fun s start i => ?_) reached
  · exact tended.store.handed
  · cases i with
    | none => trivial
    | some agentID => exact start.settled agentID

/-- A request is its key, and so is the first line of a certificate. -/
def plainSetup : Setup where
  env := { Env.plain with issuers := ["iss-1"], fingerprint := id }
  typeOf _ := "NGINX"
  keyDir _ := "/var/lib/certctl/keys"
  workingDir _ := .ok "/"
  publicKey := id
  csr keyPEM _ _ _ := keyPEM
  requestKey := some
  certKey chain := some (String.ofList (chain.toList.takeWhile (fun c => decide (c ≠ '\n'))))
  requestKey_csr _ _ _ _ := rfl

def version (id keyPEM : String) (createdAt : Time) : CertificateVersion :=
  ⟨id, "mc-1", id, 0, 0, id, keyPEM ++ "\n", keyPEM, createdAt⟩

def awaiting : Job :=
  ⟨"job-1", .renewal, "mc-1", none, none, .awaitingCSR, 1, 3, none, 0, none, none, 0⟩

def deployment : Job :=
  ⟨"job-2", .deployment, "mc-1", some "t-1", some "ag-1", .pending, 0, 3, none, 0, none, none, 0⟩

/-- A certificate with targets on two agents, and a job that waits for a request. -/
def tables (versions : Table CertificateVersion.id) : DB :=
  { DB.empty with
    jobs := ⟨[awaiting], List.nodup_singleton _⟩
    inventory := ⟨⟨[plainCert "mc-1" .active ""], List.nodup_singleton "mc-1"⟩, versions⟩
    targets := ⟨[⟨"t-1", some "ag-1"⟩, ⟨"t-2", some "ag-2"⟩], by decide⟩
    mappings := [("mc-1", "t-1"), ("mc-1", "t-2")]
    agents := ⟨[⟨"ag-1", none, false⟩, ⟨"ag-2", none, false⟩], by decide⟩ }

/-- Everything works; the clock shows `n`, and new identifiers are told apart by `n`. -/
def calm (keyPEM : String) (n : Nat) : Surroundings :=
  ⟨{ Choice.plain with
      now := n
      id := String.ofList (List.replicate n 'i')
      issuance := .ok ⟨keyPEM, 0, 0, keyPEM, ""⟩ },
    .reaches, .ok keyPEM, .stored, none, ""⟩

/-- The issuer does not answer. -/
def refusing (keyPEM : String) (n : Nat) : Surroundings :=
  { calm keyPEM n with
    server := { (calm keyPEM n).server with issuance := .error "signing backend unavailable" } }

/-- The next steps of a call, from a time on. -/
def stepsOf (i : Nat) (surroundings : Nat → Surroundings) (first steps : Nat) :
    List (Move Party Surroundings) :=
  (List.range steps).map (fun k => .step i (surroundings (first + k)))

/-- No agent has a key, and no version is stored. -/
def fresh : Site := ⟨⟨tables (.empty _), [], []⟩, []⟩

theorem start_fresh : Start plainSetup fresh := by
  have none : ∀ agentID certID, fresh.store.key? plainSetup agentID certID = none := by
    intro agentID certID
    unfold World.key?
    split
    · rfl
    · rfl
  refine ⟨rfl, rfl, fun agentID other certID held => ?_, fun agentID certID keyPEM v held => ?_⟩
  · rw [none] at held
    cases held
  · rw [none] at held
    cases held

def keyFile : String := "/var/lib/certctl/keys/mc-1.key"

/-- An agent has the key of the only version. -/
def renewing : Site :=
  ⟨⟨tables ⟨[version "v-1" "k-1" 0], List.nodup_singleton _⟩, [⟨"ag-1", keyFile, "k-1"⟩], []⟩, []⟩

theorem key?_renewing {agentID certID keyPEM : String}
    (held : renewing.store.key? plainSetup agentID certID = some keyPEM) :
    agentID = "ag-1" ∧ certID = "mc-1" ∧ keyPEM = "k-1" := by
  cases found : plainSetup.keyPath agentID certID with
  | error e =>
    simp only [World.key?, found] at held
    cases held
  | ok path =>
    rw [key?_of_path found] at held
    obtain ⟨file, isFile, rfl⟩ := Option.map_eq_some_iff.mp held
    obtain rfl := List.mem_singleton.mp (List.mem_of_find?_eq_some isFile)
    have named := List.find?_some isFile
    simp only [Bool.and_eq_true, decide_eq_true_eq] at named
    obtain ⟨rfl, rfl⟩ := named
    exact ⟨rfl, keyPath_inj found (by decide +kernel), rfl⟩

theorem start_renewing : Start plainSetup renewing := by
  refine ⟨rfl, rfl, fun agentID other certID held held' => ?_,
    fun agentID certID keyPEM v held newest => ?_⟩
  · obtain ⟨keyPEM, found⟩ := Option.isSome_iff_exists.mp held
    obtain ⟨keyPEM', found'⟩ := Option.isSome_iff_exists.mp held'
    rw [(key?_renewing found).1, (key?_renewing found').1]
  · obtain ⟨-, rfl, rfl⟩ := key?_renewing held
    obtain rfl : version "v-1" "k-1" 0 = v := Option.some.inj newest
    unfold Setup.Pairs
    decide +kernel

/-- One agent renews a certificate and deploys it. -/
theorem renewed_pair_matches :
    ∃ s : Site, ReachableUnder (step plainSetup) (Start plainSetup)
        (fun s m => (proper plainSetup s m && inOrder plainSetup s m) = true) s ∧
      ∃ h ∈ s.store.handed, h.agentID = "ag-1" ∧
        plainSetup.certKey h.certPEM = some (plainSetup.publicKey h.keyPEM) := by
  obtain ⟨s, reached, h, member, agent⟩ := exists_reachable_of_replay (step plainSetup)
    (fun s m => proper plainSetup s m && inOrder plainSetup s m) start_fresh
    (.start (.agent "ag-1" 2) :: stepsOf 0 (calm "k-1") 0 50)
    (fun s => ∃ h ∈ s.store.handed, h.agentID = "ag-1") (by decide +kernel)
  exact ⟨s, reached, h, member, agent, deployed_pairs_match reached h member⟩

/-- A renewal is rejected after the key file has been overwritten, and the next deployment
hands over the old certificate with the new key. With targets on two agents, both submit a
request and both are accepted; the first agent then deploys the certificate of the second
with its own key, and no job has failed. -/
theorem mismatched_pairs_deployed :
    (∃ s : Site, ReachableUnder (step plainSetup) (Start plainSetup)
        (fun s m => proper plainSetup s m = true) s ∧
      (s.store.db.jobs.get? "job-1").map Job.status = some .failed ∧
      ∃ h ∈ s.store.handed,
        ¬ plainSetup.certKey h.certPEM = some (plainSetup.publicKey h.keyPEM)) ∧
    ∃ s : Site, ReachableUnder (step plainSetup) (Start plainSetup)
        (fun s m => proper plainSetup s m = true) s ∧
      (∀ job ∈ s.store.db.jobs.rows, job.status ≠ .failed) ∧
      ∃ h ∈ s.store.handed,
        ¬ plainSetup.certKey h.certPEM = some (plainSetup.publicKey h.keyPEM) := by
  constructor
  · exact exists_reachable_of_replay (step plainSetup) (proper plainSetup) start_renewing
      (.start (.agent "ag-1" 2) :: stepsOf 0 (refusing "k-2") 0 22 ++
        [.start (.server (.createJob deployment)), .step 1 (calm "" 22)] ++
        stepsOf 0 (calm "k-3") 23 17) _ (by decide +kernel)
  · exact exists_reachable_of_replay (step plainSetup) (proper plainSetup) start_fresh
      ([.start (.agent "ag-1" 2), .start (.agent "ag-2" 1)] ++ stepsOf 0 (calm "k-1") 0 5 ++
        stepsOf 1 (calm "k-2") 5 5 ++ stepsOf 0 (calm "k-1") 10 28 ++
        stepsOf 1 (calm "k-2") 38 16 ++ stepsOf 0 (calm "k-1") 54 17) _ (by decide +kernel)

end Certctl.Guarantees.DeployedPairs

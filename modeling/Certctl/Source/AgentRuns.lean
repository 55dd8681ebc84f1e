import Certctl.Lib.Ownership
import Certctl.Lib.PathText
import Certctl.Source.Jobs.AgentScope

/-!
Agents at work: each polls for jobs and runs them one after the other, with the private keys
in files of its own host. A request to the control plane runs the service call it stands for,
beside whatever else goes on there. It may be lost on the way, the agent may give up on it
while the call goes on, and the answer may be lost.

Taken as given are the key generator, the signing of a request, what a request and a
certificate say about the public key, the target connectors, and the type column of a target.
A connector is handed the whole chain: the split into the first certificate and the rest keeps
that certificate. The verification after a deployment reads and writes nothing of what is
modelled here. An agent runs as one process that is not restarted.

Source: cmd/agent/deploy.go, keymem.go, main.go, poll.go; internal/api/handler/agents.go;
internal/service/agent.go.
-/
namespace Certctl.Source.Agents

open Lib Source.Jobs

structure Setup where
  env : Env
  typeOf : Target → String
  keyDir : String → String
  workingDir : String → Except String String
  publicKey : String → String
  /-- `x509.CreateCertificateRequest`: the key, the common name, DNS names and addresses. -/
  csr : String → String → List String → List String → String
  requestKey : String → Option String
  certKey : String → Option String
  requestKey_csr : ∀ key commonName dnsNames emails,
    requestKey (csr key commonName dnsNames emails) = some (publicKey key)

section KeyPath

/-- `agentCertIDPattern`, without the bounds on the length. -/
def agentCertIDChar (c : Char) : Bool := c.isAlphanum || c = '.' || c = '_' || c = '-'

def validateAgentCertID (id : String) : Except String Unit := do
  ensure (id ≠ "") "certificate_id is required"
  ensure (id.utf8ByteSize ≤ 128)
    ("certificate_id length " ++ toString id.utf8ByteSize ++ " exceeds 128")
  ensure (id.toList.all agentCertIDChar = true)
    ("certificate_id " ++ quote id ++ " contains disallowed characters")
  ensure (id ≠ "." ∧ id ≠ "..") ("certificate_id " ++ quote id ++ " is a relative-path token")

def safeAgentKeyPath (workingDir : Except String String) (keyDir certificateID : String) :
    Except String String := do
  validateAgentCertID certificateID
  ensure (keyDir ≠ "") "safeAgentKeyPath: empty keyDir"
  let cleanDir ← (absolutePath workingDir keyDir).mapError (fun e =>
    "safeAgentKeyPath: resolve keyDir: " ++ e)
  let joined := joinPath cleanDir.toList (certificateID ++ ".key").toList
  let rel := relPath cleanDir.toList joined
  ensure (rel ≠ ".." ∧ hasPrefixText "../" rel = false)
    ("safeAgentKeyPath: " ++ quote certificateID ++ " escapes keyDir " ++ quote cleanDir ++
      " (rel=" ++ quote rel ++ ")")
  ensure (rel.toList.contains '\x00' = false) "safeAgentKeyPath: NUL byte in computed path"
  return String.ofList joined

def Setup.keyPath (setup : Setup) (agentID certID : String) : Except String String :=
  safeAgentKeyPath (setup.workingDir agentID) (setup.keyDir agentID) certID

end KeyPath

/-- A key file on the host of an agent. -/
structure KeyFile where
  agentID : String
  path : String
  content : String

/-- What a connector was given. -/
structure HandOver where
  agentID : String
  certPEM : String
  keyPEM : String

/-- The tables of the control plane, the key files of all agents, the latest write first, and
a record of the hand-overs, which nothing reads. -/
structure World where
  db : DB
  files : List KeyFile
  handed : List HandOver

def World.read (w : World) (agentID path : String) : Option String :=
  (w.files.find? (fun f => decide (f.agentID = agentID) && decide (f.path = path))).map
    KeyFile.content

def World.write (w : World) (agentID path content : String) : World :=
  { w with files := ⟨agentID, path, content⟩ :: w.files }

/-- A job as the work endpoint describes it. -/
structure JobItem where
  id : String
  type : JobType
  certificateID : String
  commonName : String
  sans : List String
  targetType : String
  status : JobStatus

inductive Request where
  | getWork
  | reportJobStatus (jobID : String) (status : JobStatus) (errMsg : String)
  | submitCSR (certID csrPEM : String)
  | getCertificate (certID : String)

/-- A request reaches the control plane; or it never does; or it does and the agent gives up
on the answer. -/
inductive Fate where
  | reaches
  | lost (error : String)
  | abandoned (error : String)

/-- `os.WriteFile` truncates the file before it writes. -/
inductive WriteOutcome where
  | stored
  | refused (error : String)
  | torn (error left : String)

/-- The operations of the control plane, and those of an agent. -/
inductive AgentOp where
  | server (o : Op)
  | listVersions (certID : String)
  | send (r : Request)
  /-- The answer comes back; the operation knows whether it is a success. -/
  | receive (r : Request) (accepted : Bool)
  | generateKey
  | ensureKeyDir
  | marshalKey
  | writeKey (agentID path : String) (job : JobItem) (keyPEM : String)
  | createCSR
  | readKey (agentID path : String)
  | createTargetConnector (targetType : String)
  | validateConfig (targetType : String)
  | deployCertificate (agentID certPEM keyPEM : String)

/-- An optional text is the error, if any. An answer carries the ID of its request. -/
@[reducible] def AgentOp.Result : AgentOp → Type
  | .server o => o.Result
  | .listVersions _ => Except RepoError (List CertificateVersion)
  | .send _ => Fate
  | .receive .. => Except String String
  | .generateKey => Except String String
  | .ensureKeyDir | .marshalKey | .writeKey .. | .createCSR => Option String
  | .readKey .. => Except String String
  | .createTargetConnector _ | .validateConfig _ | .deployCertificate .. => Option String

/-- What is open at each step. -/
structure Surroundings where
  server : Choice
  fate : Fate
  key : Except String String
  write : WriteOutcome
  problem : Option String
  requestID : String

def execAgent (setup : Setup) (w : World) : (o : AgentOp) → Surroundings → World × o.Result
  | .server o, c =>
    ({ w with db := (exec setup.env w.db o c.server).1 }, (exec setup.env w.db o c.server).2)
  | .listVersions certID, c => (w, Jobs.listVersions w.db certID c.server)
  | .send _, c => (w, c.fate)
  | .receive .., c => (w, c.problem.elim (.ok c.requestID) .error)
  | .generateKey, c => (w, c.key)
  | .ensureKeyDir, c => (w, c.problem)
  | .marshalKey, c => (w, c.problem)
  | .writeKey agentID path _ keyPEM, c =>
    match c.write with
    | .stored => (w.write agentID path keyPEM, none)
    | .refused e => (w, some e)
    | .torn e left => (w.write agentID path left, some e)
  | .createCSR, c => (w, c.problem)
  | .readKey agentID path, c =>
    (w, match c.problem with
      | some e => .error e
      | none => orFail (w.read agentID path) ("open " ++ path ++ ": no such file or directory"))
  | .createTargetConnector _, c => (w, c.problem)
  | .validateConfig _, c => (w, c.problem)
  | .deployCertificate agentID certPEM keyPEM, c =>
    ({ w with handed := ⟨agentID, certPEM, keyPEM⟩ :: w.handed }, c.problem)

abbrev AgentProgram := Program AgentOp.Result Unit

/-- A service call of the control plane, and what follows on its reply. -/
def serve (next : Reply → AgentProgram) : Service → AgentProgram
  | .done reply => next reply
  | .op o rest => .op (.server o) fun r => serve next (rest r)
  | .fork child rest => .fork (serve (fun _ => .done ()) child) (serve next rest)

/-- A request: an error stands for one without an answer. -/
def request {ρ : Type} (r : Request) (accepted : ρ → Bool)
    (call : (ρ → AgentProgram) → AgentProgram) (next : Except String (ρ × String) → AgentProgram) :
    AgentProgram :=
  .op (.send r) fun
  | .lost e => next (.error e)
  | .abandoned e => .fork (call fun _ => .done ()) (next (.error e))
  | .reaches => call fun reply => .op (.receive r (accepted reply)) fun
    | .error e => next (.error e)
    | .ok requestID => next (.ok (reply, requestID))

/-- The body of `ErrorWithRequestID`. -/
def errorBody (statusText message requestID : String) : String :=
  "\x7b\"error\":\"" ++ statusText ++ "\",\"message\":\"" ++ message ++
    "\",\"request_id\":\"" ++ requestID ++ "\"\x7d\n"

def isOK (reply : Reply) : Bool := decide (reply = .ok)

/-- The agent only logs that a report failed. -/
def report (jobID : String) (status : JobStatus) (errMsg : String) (next : AgentProgram) :
    AgentProgram :=
  request (.reportJobStatus jobID status errMsg) isOK
    (fun answer => serve answer (reportJobStatus jobID status errMsg)) fun _ => next

section Server

/-- The target's type, where the target can be read. -/
def withTargetType (setup : Setup) (job : Job) (next : String → AgentProgram) : AgentProgram :=
  if job.targetID.getD "" = "" then next ""
  else .op (.server (.query (.getTarget (job.targetID.getD "")))) fun
    | .error _ => next ""
    | .ok target => next (setup.typeOf target)

/-- The names for a request, where the certificate can be read. -/
def withNames (job : Job) (next : String → List String → AgentProgram) : AgentProgram :=
  if job.status = .awaitingCSR then
    .op (.server (.query (.getCertificate job.certificateID))) fun
    | .error _ => next "" []
    | .ok (cert, _) => next cert.commonName cert.sans
  else next "" []

def describe (setup : Setup) (next : List JobItem → AgentProgram) :
    List Job → List JobItem → AgentProgram
  | [], items => next items
  | job :: rest, items =>
    withTargetType setup job fun targetType =>
    withNames job fun commonName sans =>
    describe setup next rest (items ++
      [⟨job.id, job.type, job.certificateID, commonName, sans, targetType, job.status⟩])

def getWorkWithTargets (setup : Setup) (agentID : String)
    (next : Except String (List JobItem) → AgentProgram) : AgentProgram :=
  serve (fun
    | .jobs jobs => describe setup (fun items => next (.ok items)) jobs []
    | _ => next (.error "Failed to get pending work")) (getPendingWork agentID)

/-- `GetCertificateForAgent` behind its endpoint. -/
def certificatePickup (agentID certID : String) (next : Except String String → AgentProgram) :
    AgentProgram :=
  .op (.server (.query (.getAgent agentID))) fun
  | .error _ => next (.error "Certificate not found or not ready")
  | .ok _ =>
    .op (.listVersions certID) fun
    | .ok (first :: rest) => next (.ok (latestVersion first (first :: rest)).pemChain)
    | _ => next (.error "Certificate not found or not ready")

end Server

section Agent

variable (setup : Setup) (agentID : String)

/-- A name with an at sign is an e-mail address. -/
def isEmail (san : String) : Bool := san.toList.contains '@'

def csrFor (keyPEM : String) (job : JobItem) : String :=
  setup.csr keyPEM job.commonName (job.sans.filter (fun san => !isEmail san))
    (job.sans.filter isEmail)

def submitKey (job : JobItem) (keyPEM : String) (next : AgentProgram) : AgentProgram :=
  if job.commonName = "" then report job.id .failed "empty common name" next
  else
    .op .createCSR fun
    | some e => report job.id .failed ("CSR creation failed: " ++ e) next
    | none =>
      request (.submitCSR job.certificateID (csrFor setup keyPEM job)) isOK
        (fun answer => serve answer
          (submitCSR setup.env agentID job.certificateID (csrFor setup keyPEM job))) fun
      | .error e => report job.id .failed ("CSR submission failed: " ++ e) next
      | .ok (.ok, _) => next
      | .ok (_, requestID) =>
        report job.id .failed ("CSR rejected: " ++
          errorBody "Internal Server Error" "Failed to submit CSR" requestID) next

def executeCSRJob (job : JobItem) (next : AgentProgram) : AgentProgram :=
  .op .generateKey fun
  | .error e => report job.id .failed ("key generation failed: " ++ e) next
  | .ok keyPEM =>
    match setup.keyPath agentID job.certificateID with
    | .error e => report job.id .failed ("key path validation failed: " ++ e) next
    | .ok keyPath =>
      .op .ensureKeyDir fun
      | some e => report job.id .failed ("key dir hardening failed: " ++ e) next
      | none =>
        .op .marshalKey fun
        | some e => report job.id .failed ("key marshal failed: " ++ e) next
        | none =>
          .op (.writeKey agentID keyPath job keyPEM) fun
          | some e => report job.id .failed ("key storage failed: " ++ e) next
          | none => submitKey setup agentID job keyPEM next

def deployPair (job : JobItem) (certPEM keyPEM : String) (next : AgentProgram) : AgentProgram :=
  if job.targetType = "" then report job.id .completed "" next
  else
    .op (.createTargetConnector job.targetType) fun
    | some e => report job.id .failed ("connector init failed: " ++ e) next
    | none =>
      .op (.validateConfig job.targetType) fun
      | some e =>
        report job.id .failed (job.targetType ++ " config validation failed: " ++ e) next
      | none =>
        .op (.deployCertificate agentID certPEM keyPEM) fun
        | some e => report job.id .failed ("deployment failed: " ++ e) next
        | none => report job.id .completed "" next

def executeDeploymentJob (job : JobItem) (next : AgentProgram) : AgentProgram :=
  report job.id .running "" <|
  request (.getCertificate job.certificateID) (fun answer => answer.isOk)
    (certificatePickup agentID job.certificateID) fun
  | .error e => report job.id .failed ("cert fetch failed: request failed: " ++ e) next
  | .ok (.error e, requestID) =>
    report job.id .failed ("cert fetch failed: server returned 404: " ++
      errorBody "Not Found" e requestID) next
  | .ok (.ok certPEM, _) =>
    match setup.keyPath agentID job.certificateID with
    | .error e => report job.id .failed ("key path validation failed: " ++ e) next
    | .ok keyPath =>
      .op (.readKey agentID keyPath) fun
      | .error e => report job.id .failed ("key read failed: " ++ e) next
      | .ok keyPEM => deployPair agentID job certPEM keyPEM next

def runJobs (next : AgentProgram) : List JobItem → AgentProgram
  | [] => next
  | job :: rest =>
    if job.status = .awaitingCSR then executeCSRJob setup agentID job (runJobs next rest)
    else if job.type = .deployment then
      executeDeploymentJob setup agentID job (runJobs next rest)
    else runJobs next rest

def pollForWork (next : AgentProgram) : AgentProgram :=
  request .getWork (fun answer => answer.isOk) (getWorkWithTargets setup agentID) fun
  | .ok (.ok jobs, _) => runJobs setup agentID next jobs
  | _ => next

def runAgent : Nat → AgentProgram
  | 0 => .done ()
  | rounds + 1 => pollForWork setup agentID (runAgent rounds)

end Agent

/-- An agent with the number of its polls, or a query from elsewhere in the control plane. -/
inductive Party where
  | agent (agentID : String) (rounds : Nat)
  | server (q : Query)

def Party.agentID : Party → Option String
  | .agent agentID _ => some agentID
  | .server _ => none

def Party.program (setup : Setup) : Party → AgentProgram
  | .agent agentID rounds => runAgent setup agentID rounds
  | .server q => .op (.server (.query q)) fun _ => .done ()

abbrev Site := Pool AgentOp.Result World Unit Party

def step (setup : Setup) : Site → Move Party Surroundings → Option Site :=
  poolStep (execAgent setup) (Party.program setup)

end Certctl.Source.Agents

import Certctl.Guarantees.JobSamples
import Certctl.Source.Jobs.Footprints

/-!
Revoked as the last status of a certificate. Every writer puts back the whole row it has
read, so a revocation in between is undone, and three of the writers do not ask whether the
certificate they have read is revoked. Under the discipline those three do not read a
revoked certificate, and no certificate is revoked between a call's read and its write.
-/
namespace Certctl.Guarantees.RevocationFinal

open Lib Source Source.Jobs

/-- `CompleteAgentCSRRenewal` is called by `SubmitCSR` alone, with the certificate that call
has read. -/
inductive CertCall where
  | revokeCertificateWithActor (certID reason actor : String)
  | triggerRenewal (certID actor : String) (force : Bool)
  | checkExpiringCertificates
  | processRenewalJob (job : Job)
  | submitCSR (agentID certID csrPEM : String)

def certBody (env : Env) : CertCall → Service
  | .revokeCertificateWithActor certID reason actor =>
    revokeCertificateWithActor env certID reason actor
  | .triggerRenewal certID actor force => triggerRenewal env certID actor force
  | .checkExpiringCertificates => checkExpiringCertificates env
  | .processRenewalJob job => processRenewalJob env job answer
  | .submitCSR agentID certID csrPEM => submitCSR env agentID certID csrPEM

abbrev CertPool := Pool Op.Result DB Reply CertCall

def certStep (env : Env) : CertPool → Move CertCall Choice → Option CertPool :=
  poolStep (exec env) (certBody env)

def CertInit (s : CertPool) : Prop := s.tasks = []

def isRevoked (db : DB) (id : String) : Bool :=
  (db.inventory.get id).any (fun cert => decide (cert.status = .revoked))

/-- The calls that go on with a revoked certificate. -/
def CertCall.unguarded : CertCall → Bool
  | .triggerRenewal .. | .processRenewalJob _ | .submitCSR .. => true
  | _ => false

def CertCall.revokes : CertCall → Bool
  | .revokeCertificateWithActor .. => true
  | _ => false

/-- The status of the certificate that the operation has shown. -/
def sees (id : String) : Event Op.Result → Option CertificateStatus
  | ⟨.query (.getCertificate target), .ok found⟩ =>
    if target = id then some found.1.status else none
  | ⟨.query (.getExpiringCertificates _), .ok certs⟩ =>
    (certs.find? (fun cert => decide (cert.id = id))).map ManagedCertificate.status
  | _ => none

def seen (id : String) (log : List (Event Op.Result)) : Option CertificateStatus :=
  log.findSome? (sees id)

def revocationMay (call : CertCall) (log : List (Event Op.Result)) (db : DB) (o : Op)
    (_ : Choice) : Bool :=
  match o with
  | .query (.getCertificate id) => !(call.unguarded && isRevoked db id)
  | o => o.certImage.all (fun image => call.revokes || !isRevoked db image.id ||
      decide (seen image.id log = some .revoked))

section Rely

/-- A revoked certificate stays revoked and keeps a time of revocation. -/
def CertRely (db db' : DB) : Prop :=
  ∀ id cert, db.inventory.get id = some cert → cert.status = .revoked →
    ∃ cert', db'.inventory.get id = some cert' ∧ cert'.status = .revoked ∧
      (cert.revokedAt.isSome = true → cert'.revokedAt.isSome = true)

theorem CertRely.refl (db : DB) : CertRely db db :=
  fun _ cert found revoked => ⟨cert, found, revoked, id⟩

theorem CertRely.trans (a b c : DB) (first : CertRely a b) (second : CertRely b c) :
    CertRely a c := by
  intro id cert found revoked
  obtain ⟨cert', found', revoked', dated⟩ := first id cert found revoked
  obtain ⟨cert'', found'', revoked'', dated'⟩ := second id cert' found' revoked'
  exact ⟨cert'', found'', revoked'', dated' ∘ dated⟩

/-- A certificate write revokes, or the call has not seen the certificate revoked. -/
def Tame (call : CertCall) (log : List (Event Op.Result)) (o : Op) : Prop :=
  ∀ image, o.certImage = some image →
    (image.status = .revoked ∧ image.revokedAt.isSome = true) ∨
    (call.revokes = false ∧ seen image.id log ≠ some .revoked)

abbrev Allowed (call : CertCall) (log : List (Event Op.Result)) (db : DB) (o : Op) (c : Choice) :
    Prop := revocationMay call log db o c = true

variable {env : Env} {call : CertCall} {log : List (Event Op.Result)} {db : DB}

theorem certRely_of_tame (o : Op) (c : Choice) (tame : Tame call log o)
    (allowed : Allowed call log db o c) : CertRely db (exec env db o c).1 := by
  refine exec_rely CertRely (.refl db) o ?_
  intro q db' value isQuery performed id cert found revoked
  subst isQuery
  obtain same | ⟨image, writes, rfl, -, now⟩ := perform_cert performed id
  · exact ⟨cert, same.trans found, revoked, fun dated => dated⟩
  obtain ⟨revokes, dated⟩ | ⟨renews, unseen⟩ := tame image writes
  · exact ⟨image, now, revokes, fun _ => dated⟩
  · have present : isRevoked db image.id = true := by simp [isRevoked, found, revoked]
    have stale : q.certImage.all (fun image => call.revokes ||
        !isRevoked db image.id || decide (seen image.id log = some .revoked)) = true := by
      cases q <;> first | exact allowed | cases writes
    rw [writes] at stale
    simp [renews, present, unseen] at stale

end Rely

section Calls

variable {env : Env} {call : CertCall}

abbrev Final (env : Env) (call : CertCall) (p : Service) (log : List (Event Op.Result)) (db : DB) :
    Prop :=
  Within (exec env) CertRely Allowed (fun _ _ _ _ => True) call p log db

variable {log : List (Event Op.Result)} {cert : ManagedCertificate} {ids : String → Prop}
  {p : Service} {q : Query}

theorem final_of_tame (all : p.AllFrom (Tame call) log) (db : DB) : Final env call p log db := by
  refine within_of_allFrom (p := p) ?_ (fun _ _ _ => trivial) db
  exact all.mono fun log o tame s c allowed => certRely_of_tame o c tame allowed

/-- No certificate is read, and only certificates with one of the IDs are written. -/
def Writes (ids : String → Prop) (o : Op) : Prop :=
  o.readsCerts = false ∧ ∀ image, o.certImage = some image → ids image.id

theorem sees_of_not_readsCerts {id : String} {o : Op} {r : o.Result}
    (apart : o.readsCerts = false) : sees id ⟨o, r⟩ = none := by
  unfold sees
  split <;> first | rfl | (rename_i same; cases same; cases apart)

theorem tame_of_writes (renews : call.revokes = false)
    (all : p.All (Writes ids)) (unseen : ∀ id, ids id → seen id log ≠ some .revoked) :
    p.AllFrom (Tame call) log := by
  induction p generalizing log with
  | done => trivial
  | op o next ih =>
    obtain ⟨⟨apart, writes⟩, rest⟩ := all
    refine ⟨fun image written => .inr ⟨renews, unseen _ (writes image written)⟩, fun r => ?_⟩
    refine ih r (rest r) fun id member => ?_
    simp only [seen, List.findSome?_cons, sees_of_not_readsCerts apart]
    exact unseen id member
  | fork child next ihc ihn => exact ⟨ihc all.1 (fun _ _ => by simp [seen]), ihn all.2 unseen⟩

theorem writes_of_none {o : Op} (apart : o.readsCerts = false) (none : o.certImage = none) :
    Writes ids o := by
  refine ⟨apart, fun image writes => ?_⟩
  rw [none] at writes
  cases writes

theorem writes_of_read (o : Op) (read : o.isWrite = false) (apart : o.readsCerts = false) :
    Writes ids o :=
  writes_of_none apart (certImage_of_read read)

theorem writes_of_image {image : ManagedCertificate}
    (apart : (Op.query q).readsCerts = false) (writes : q.certImage = some image)
    (member : ids image.id) : Writes ids (.query q) := by
  refine ⟨apart, fun other same => ?_⟩
  change q.certImage = some other at same
  rw [writes] at same
  cases same
  exact member

theorem signs_writes (member : ids cert.id) :
    Signs (Writes ids) cert where
  read := writes_of_read
  version := fun _ => writes_of_none rfl rfl
  image := fun _ _ => writes_of_image rfl rfl member

theorem renews_writes (job : Job) (member : ids cert.id) :
    Renews (Writes ids) job cert where
  toSigns := signs_writes member
  status := fun _ _ => writes_of_none rfl rfl
  deploy := fun _ _ => writes_of_none rfl rfl
  mark := fun _ => writes_of_image rfl rfl member
  commit := fun _ _ _ => writes_of_image rfl rfl member

/-- A guarded read: what follows may write the certificate that was read. -/
theorem read_final {certID : String} (unguarded : call.unguarded = true)
    {next : Except RepoError (ManagedCertificate × List String) → Service}
    (fails : ∀ e, (next (.error e)).All (Writes fun _ => False))
    (goes : ∀ cert targetIDs, (next (.ok (cert, targetIDs))).All (Writes fun id => id = cert.id))
    (log : List (Event Op.Result)) (db : DB) :
    Final env call (query (.getCertificate certID) next) log db := by
  have renews : call.revokes = false := by
    cases call with
    | revokeCertificateWithActor => cases unguarded
    | _ => rfl
  refine within_read rfl CertRely.refl fun s c r _ allowed returned => ?_
  cases r with
  | error e => exact final_of_tame (tame_of_writes renews (fails e) fun _ absurd => absurd.elim) s
  | ok found =>
    obtain ⟨cert, targetIDs⟩ := found
    have present := getCertificate_ok returned
    have keyed : cert.id = certID := Table.get?_key present
    have live : cert.status ≠ .revoked := by
      simpa [Allowed, revocationMay, unguarded, isRevoked, present] using allowed
    refine final_of_tame (tame_of_writes renews (goes cert targetIDs) ?_) s
    intro id own
    simp [seen, sees, own, keyed, live]

theorem enqueueRenewal_writes (cert : ManagedCertificate) (actor : String) (gate : Option String) :
    (enqueueRenewal env cert actor gate).All (Writes ids) :=
  (enqueueRenewal_apart cert actor gate).mono fun _ apart => writes_of_none apart.1 apart.2

theorem triggerRenewal_final (certID actor : String) (force : Bool) (db : DB) :
    Final env (.triggerRenewal certID actor force) (triggerRenewal env certID actor force) []
      db := by
  refine read_final rfl (fun _ => ?_) (fun cert targetIDs => ?_) [] db
  · trivial
  dsimp only
  split
  · trivial
  split
  · trivial
  split
  · trivial
  refine all_query (writes_of_image rfl rfl rfl) (fun _ => trivial) fun _ => ?_
  dsimp only
  split
  · split
    · exact all_query (writes_of_none rfl rfl) (fun _ => enqueueRenewal_writes ..) fun _ =>
        enqueueRenewal_writes ..
    · exact enqueueRenewal_writes ..
  · trivial

theorem processRenewalJob_final (job : Job) (db : DB) :
    Final env (.processRenewalJob job) (processRenewalJob env job answer) [] db := by
  refine within_query fun s c _ allowed => ⟨certRely_of_tame (.query _) c ?_ allowed, ?_⟩
  · intro image writes
    cases writes
  simp only [forall_except]
  refine ⟨fun e _ => trivial, fun _ _ => ?_⟩
  refine read_final rfl (fun e => ?_) (fun cert targetIDs => ?_) _ _
  · exact ⟨writes_of_none rfl rfl, fun _ => trivial⟩
  have may : Renews (Writes fun id => id = cert.id) job cert := renews_writes job rfl
  dsimp only
  split
  · exact ⟨may.status _ _, fun _ => trivial⟩
  split
  · exact ⟨may.status _ _, fun _ => trivial⟩
  split
  · exact processRenewalAgentKeygen_all may answer_all
  · exact processRenewalServerKeygen_all may targetIDs answer_all

theorem submitCSR_final (agentID certID csrPEM : String) (db : DB) :
    Final env (.submitCSR agentID certID csrPEM) (submitCSR env agentID certID csrPEM) [] db := by
  refine within_read rfl CertRely.refl fun s c r _ _ _ => ?_
  cases r with
  | error e => trivial
  | ok agent =>
    dsimp only
    split
    · trivial
    split
    · trivial
    refine read_final rfl (fun e => ?_) (fun cert targetIDs => ?_) _ _
    · trivial
    refine ⟨writes_of_none rfl rfl, fun jobs => ?_⟩
    dsimp only
    split
    next job rest _ =>
      refine completeAgentCSRRenewal_all (renews_writes job (by rfl)) targetIDs csrPEM ?_
      simp only [forall_except]
      exact ⟨fun _ => trivial, fun _ => trivial⟩
    · exact signDirectly_all (signs_writes (by rfl)) csrPEM

/-- The check passes over the certificates it was given as revoked. -/
theorem checkExpiringCertificates_final (db : DB) :
    Final env .checkExpiringCertificates (checkExpiringCertificates env) [] db := by
  refine within_now CertRely.refl fun s now _ => ?_
  refine within_read rfl CertRely.refl fun s c r _ _ returned => ?_
  cases r with
  | error e => trivial
  | ok certs =>
    have rows := getExpiringCertificates_ok returned
    have all : (checkLoop env certs).All
        (Writes fun id => ∃ cert ∈ certs, cert.id = id ∧ cert.status ≠ .revoked) := by
      refine checkLoop_all writes_of_read certs (fun _ => writes_of_none rfl rfl) ?_
      intro cert listed kept image same
      refine writes_of_image rfl rfl ⟨cert, listed, same.symm, ?_⟩
      intro revoked
      simp [revoked, expirySkips] at kept
    refine final_of_tame (tame_of_writes rfl all ?_) s
    · rintro id ⟨cert, listed, rfl, live⟩ revoked
      simp [seen, sees, Table.find?_of_rows rows listed, live] at revoked

theorem revokeCertificateWithActor_final (certID reason actor : String) (db : DB) :
    Final env (.revokeCertificateWithActor certID reason actor)
      (revokeCertificateWithActor env certID reason actor) [] db := by
  refine final_of_tame (Program.All.allFrom (p := fun o => ∀ image, o.certImage = some image →
    image.status = .revoked ∧ image.revokedAt.isSome = true) ?_ ?_ []) db
  · exact fun log o revokes image writes => .inl (revokes image writes)
  · refine revokeCertificateWithActor_all ?_ certID reason actor ?_ ?_ ?_ ?_
    · intro o read _ image writes
      rw [certImage_of_read read] at writes
      cases writes
    · intro image writes
      cases writes
    · intro now reason cert row image writes
      cases writes
      exact ⟨rfl, rfl⟩
    · intro now reason cert image writes
      cases writes
      exact ⟨rfl, rfl⟩
    · intro row image writes
      cases writes

theorem certBody_final (call : CertCall) (db : DB) : Final env call (certBody env call) [] db := by
  cases call with
  | revokeCertificateWithActor certID reason actor =>
    exact revokeCertificateWithActor_final certID reason actor db
  | triggerRenewal certID actor force => exact triggerRenewal_final certID actor force db
  | checkExpiringCertificates => exact checkExpiringCertificates_final db
  | processRenewalJob job => exact processRenewalJob_final job db
  | submitCSR agentID certID csrPEM => exact submitCSR_final agentID certID csrPEM db

theorem certObligations : Obligations (exec env) (certBody env) CertRely Allowed
    (fun _ _ _ _ => True) (fun _ => True) (fun s m => disciplined revocationMay s m = true) where
  refl := .refl
  trans := .trans
  settled := fun _ _ _ _ _ _ _ => trivial
  keeps := fun _ _ _ _ => trivial
  opens := fun s call _ _ => certBody_final call s.store
  meets := fun _ _ _ _ _ _ _ => may_of_disciplined

end Calls

/-- Along a disciplined run a revoked certificate stays revoked and keeps its time of
revocation. -/
theorem revocation_final (env : Env) (s s' : CertPool)
    (reached : ReachableUnder (certStep env) CertInit (fun s m => disciplined revocationMay s m) s)
    (run : Later (certStep env) (fun s m => disciplined revocationMay s m) s s') (id : String)
    (cert : ManagedCertificate) (found : s.store.inventory.get id = some cert)
    (revoked : cert.status = .revoked) :
    ∃ cert', s'.store.inventory.get id = some cert' ∧ cert'.status = .revoked ∧
      (cert.revokedAt.isSome = true → cert'.revokedAt.isSome = true) := by
  have covered : Covered (exec env) CertRely Allowed (fun _ _ _ _ => True) (fun _ => True) s := by
    exact covered_of_reachable certObligations (fun _ initial => initial) (fun _ _ => trivial)
      reached
  exact (covered.rely_later certObligations run).2 id cert found revoked

def activePool : CertPool :=
  ⟨{ DB.empty with
    inventory := ⟨⟨[plainCert "mc-1" .active ""], by decide⟩,
      ⟨[⟨"mv-1", "mc-1", "01", 0, 0, "", "", "", 0⟩], by decide⟩⟩ }, []⟩

def revokeMoves : List (Move CertCall Choice) :=
  [.start (.revokeCertificateWithActor "mc-1" "" "alice"), .step 0 .plain, .step 0 .plain,
    .step 0 .plain, .step 0 .plain, .step 0 .plain]

/-- A renewal is triggered for a revoked certificate. -/
theorem revoked_certificate_renewed : ∃ s s' : CertPool,
    Reachable (certStep .plain) CertInit s ∧ Later (certStep .plain) (fun _ _ => True) s s' ∧
    (∃ cert, s.store.inventory.get "mc-1" = some cert ∧ cert.status = .revoked) ∧
    ∃ cert, s'.store.inventory.get "mc-1" = some cert ∧ cert.status = .renewalInProgress :=
  exists_reached_later_of_replay (certStep .plain) (show CertInit activePool from rfl) revokeMoves
    [.start (.triggerRenewal "mc-1" "bob" false), .step 1 .plain, .step 1 .plain] _
    (by decide +kernel)

/-- The expiry check passes over a revoked certificate. -/
theorem revoked_certificate_passed_over : ∃ s s' : CertPool,
    Later (certStep .plain) (fun s m => disciplined revocationMay s m) s s' ∧
    (∃ cert, s.store.inventory.get "mc-1" = some cert ∧ cert.status = .revoked) ∧
    ∃ cert, s'.store.inventory.get "mc-1" = some cert ∧ cert.status = .revoked := by
  obtain ⟨s, s', reached, run, revoked⟩ := exists_later_of_replay (certStep .plain)
    (disciplined revocationMay) (show CertInit activePool from rfl) revokeMoves
    [.start .checkExpiringCertificates, .step 1 .plain, .step 1 .plain]
    (fun s _ => ∃ cert, s.store.inventory.get "mc-1" = some cert ∧ cert.status = .revoked)
    (by decide +kernel)
  obtain ⟨cert, found, isRevoked⟩ := revoked
  obtain ⟨cert', found', stays, -⟩ :=
    revocation_final .plain s s' reached run "mc-1" cert found isRevoked
  exact ⟨s, s', run, ⟨cert, found, isRevoked⟩, cert', found', stays⟩

end Certctl.Guarantees.RevocationFinal

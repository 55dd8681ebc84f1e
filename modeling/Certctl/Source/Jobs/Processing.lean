import Certctl.Source.Jobs.Footprints

/-!
The job writes of a processor. A processor sets the job it has claimed to Running, and then
to Failed, AwaitingCSR or Completed, once; after that it may add deployment jobs. The other
writes it makes are to the certificate. The scheduler's loops over jobs work on the rows they
have claimed or listed.
-/
namespace Certctl.Source.Jobs

open Lib

/-- A processor is at work on its job, or has given it its last status. -/
inductive Phase where
  | atWork | over
  deriving DecidableEq

/-- The phase after a status write to the job in hand. -/
def Phase.write : JobStatus → Option Phase
  | .running => some .atWork
  | .failed | .awaitingCSR | .completed => some .over
  | _ => none

def processing (job : Job) (phase : Phase) : Op → Option Phase
  | .query (.updateStatus id status _) =>
    if phase = .atWork ∧ id = job.id then Phase.write status else none
  | .query (.createJob new) =>
    if new.type = .deployment ∧ new.status = .pending ∧ new.attempts = 0 then some phase else none
  | o => if o.onJobs then none else some phase

/-- A move is a status write to the job in hand, a new deployment job, or has nothing to do
with jobs. -/
theorem processing_cases {job : Job} {a b : Phase} {o : Op} (moves : processing job a o = some b) :
    (∃ status errMsg, o = .query (.updateStatus job.id status errMsg) ∧ a = .atWork ∧
      Phase.write status = some b) ∨
    (∃ new : Job, o = .query (.createJob new) ∧ new.type = .deployment ∧ new.status = .pending ∧
      new.attempts = 0 ∧ a = b) ∨
    (o.onJobs = false ∧ a = b) := by
  unfold processing at moves
  split at moves
  next id status errMsg =>
    simp only [Option.ite_none_right_eq_some] at moves
    obtain ⟨⟨rfl, rfl⟩, written⟩ := moves
    exact .inl ⟨status, errMsg, rfl, rfl, written⟩
  next new =>
    simp only [Option.ite_none_right_eq_some, Option.some.injEq] at moves
    obtain ⟨⟨isDeployment, isPending, unclaimed⟩, same⟩ := moves
    exact .inr (.inl ⟨new, rfl, isDeployment, isPending, unclaimed, same⟩)
  next =>
    simp only [Option.ite_none_left_eq_some, Option.some.injEq, Bool.not_eq_true] at moves
    exact .inr (.inr moves)

section

variable {env : Env} {job : Job}

theorem conforms_query {phase later : Phase} {q : Query}
    {next : Except RepoError q.Value → Service}
    (moves : processing job phase (.query q) = some later)
    (fails : ∀ e, (next (.error e)).Conforms (processing job) later)
    (rest : ∀ value, (next (.ok value)).Conforms (processing job) later) :
    (query q next).Conforms (processing job) phase :=
  ⟨later, moves, forall_except.mpr ⟨fails, rest⟩⟩

theorem places_conforms : Places (Program.Conforms (processing job) .over) where
  read o _ read apart _ later := by
    refine ⟨.over, ?_, later⟩
    unfold processing
    split
    · cases read
    · cases read
    · rw [if_neg (by simp [apart])]
  deploy new _ isDeployment isPending unclaimed later :=
    ⟨.over, by simp [processing, isDeployment, isPending, unclaimed], later⟩

variable {next : Except String Unit → Service}
  (rest : ∀ r phase, (next r).Conforms (processing job) phase)

include rest

theorem failed_conforms (errMsg : String) (r : Except String Unit) :
    (failJob job.id errMsg (next r)).Conforms (processing job) .atWork :=
  ⟨.over, by simp [processing, Phase.write], fun _ => rest r _⟩

theorem finishRenewal_conforms (certID : String) (targetIDs : List String) :
    (finishRenewal job certID targetIDs next).Conforms (processing job) .atWork := by
  exact conforms_query (by simp [processing, Phase.write]) (fun _ => rest _ _) fun _ =>
    places_conforms.createDeploymentJobs certID targetIDs (rest _ _)

theorem processRenewalAgentKeygen_conforms (cert : ManagedCertificate) :
    (processRenewalAgentKeygen job cert next).Conforms (processing job) .atWork := by
  exact conforms_query (by simp [processing, Phase.write]) (fun _ => rest _ _) fun _ =>
    ⟨.over, rfl, fun _ => ⟨.over, rfl, fun _ => rest _ _⟩⟩

theorem processRenewalServerKeygen_conforms (cert : ManagedCertificate) (targetIDs : List String) :
    (processRenewalServerKeygen env job cert targetIDs next).Conforms (processing job) .atWork := by
  have fails := failed_conforms rest
  have finishes := finishRenewal_conforms rest cert.id targetIDs
  refine ⟨.atWork, rfl, ?_⟩
  simp only [forall_except]
  refine ⟨fun _ => fails _ _, fun keyPEM => ⟨.atWork, rfl, ?_⟩⟩
  simp only [forall_except]
  refine ⟨fun _ => fails _ _, fun _ => ⟨.atWork, rfl, ?_⟩⟩
  simp only [forall_except]
  refine ⟨fun _ => fails _ _, fun issued => ⟨.atWork, rfl, fun id => ⟨.atWork, rfl, fun createdAt =>
    ⟨.atWork, rfl, fun now => ?_⟩⟩⟩⟩
  split
  · exact conforms_query rfl (fun _ => fails _ _) fun _ => finishes
  · exact conforms_query rfl (fun _ => fails _ _) fun _ =>
      conforms_query rfl (fun _ => fails _ _) fun _ => finishes

theorem processRenewalJob_conforms :
    (processRenewalJob env job next).Conforms (processing job) .atWork := by
  have fails := failed_conforms rest
  refine conforms_query (by simp [processing, Phase.write]) (fun _ => rest _ _) fun _ =>
    conforms_query rfl (fun _ => fails _ _) fun found => ?_
  dsimp only
  split
  · exact fails _ _
  split
  · exact fails _ _
  split
  · exact processRenewalAgentKeygen_conforms rest _
  · exact processRenewalServerKeygen_conforms rest _ _

theorem processDeploymentJob_conforms :
    (processDeploymentJob job next).Conforms (processing job) .atWork := by
  have fails := failed_conforms rest
  refine conforms_query (by simp [processing, Phase.write]) (fun _ => rest _ _) fun _ =>
    conforms_query rfl (fun _ => fails _ _) fun _ => ?_
  dsimp only
  split
  · exact fails _ _
  refine conforms_query rfl (fun _ => fails _ _) fun target =>
    conforms_query rfl (fun _ => fails _ _) fun agent => ⟨.atWork, rfl, fun now => ?_⟩
  dsimp only
  split
  · exact fails _ _
  · exact rest _ _

omit rest in
theorem processJob_conforms : (processJob env job).Conforms (processing job) .atWork := by
  have ends : ∀ (r : Except String Unit) phase, (answer r).Conforms (processing job) phase := by
    simp only [forall_except]
    exact ⟨fun _ _ => trivial, fun _ _ => trivial⟩
  unfold processJob
  split
  · exact processRenewalJob_conforms ends
  · exact processRenewalJob_conforms ends
  · exact processDeploymentJob_conforms ends
  · trivial
  · trivial

end

section Loops

variable {env : Env} {γ : Type} {rely : DB → DB → Prop}
  {may : γ → List (Event Op.Result) → DB → (o : Op) → Choice → Prop}
  {post : γ → Reply → List (Event Op.Result) → DB → Prop} {call : γ}
  (ends : ∀ reply log s, post call reply log s)

include ends in
theorem fanOut_within (each : ∀ job db, Within (exec env) rely may post call (processJob env job)
      [] db) (jobs : List Job) (log : List (Event Op.Result)) (db : DB) :
    Within (exec env) rely may post call (fanOut env jobs) log db := by
  induction jobs with
  | nil => exact ends _ log db
  | cons job rest ih =>
    unfold fanOut
    split
    · exact ih
    · exact ⟨each job db, ih⟩

variable (refl : ∀ s, rely s s)

include ends refl in
/-- The retry works on rows that were stored as it listed them. -/
theorem retryFailedJobs_within (loop : ∀ s jobs,
      (∀ job ∈ jobs, s.jobs.get? job.id = some job ∧ job.status = .failed) →
      Within (exec env) rely may post call (retryLoop jobs)
        [⟨.query (.listByStatus .failed), .ok jobs⟩] s) (db : DB) :
    Within (exec env) rely may post call retryFailedJobs [] db := by
  refine within_read rfl refl fun s c r _ _ returned => ?_
  cases r with
  | error e => exact ends _ _ _
  | ok jobs => exact loop s jobs fun job listed => listByStatus_ok returned job listed

include ends refl in
theorem reapTimedOutJobs_within {csrTTL approvalTTL : Time} (loop : ∀ s now jobs,
      (∀ job ∈ jobs, s.jobs.get? job.id = some job ∧
        (job.status = .awaitingCSR ∨ job.status = .awaitingApproval)) →
      Within (exec env) rely may post call (reapLoop (timeoutText csrTTL approvalTTL) jobs)
        [⟨.query (.listTimedOutAwaitingJobs (now - csrTTL) (now - approvalTTL)), .ok jobs⟩,
          ⟨.now, now⟩] s) (db : DB) :
    Within (exec env) rely may post call (reapTimedOutJobs csrTTL approvalTTL) [] db := by
  refine within_now refl fun s now _ => ?_
  refine within_read rfl refl fun s c r _ _ returned => ?_
  cases r with
  | error e => exact ends _ _ _
  | ok jobs =>
    exact loop s now jobs fun job listed => listTimedOutAwaitingJobs_ok returned job listed

include ends refl in
theorem reapJobsWithOfflineAgents_within {agentTTL : Time} (loop : ∀ s now jobs errMsg,
      (∀ job ∈ jobs, s.jobs.get? job.id = some job ∧ job.status = .running) →
      Within (exec env) rely may post call (reapLoop errMsg jobs)
        [⟨.query (.listJobsWithOfflineAgents (now - agentTTL)), .ok jobs⟩, ⟨.now, now⟩] s)
    (db : DB) :
    Within (exec env) rely may post call (reapJobsWithOfflineAgents agentTTL) [] db := by
  unfold reapJobsWithOfflineAgents
  split
  · exact ends _ _ _
  refine within_now refl fun s now _ => ?_
  refine within_read rfl refl fun s c r _ _ returned => ?_
  cases r with
  | error e => exact ends _ _ _
  | ok jobs =>
    exact loop s now jobs _ fun job listed => listJobsWithOfflineAgents_ok returned job listed

end Loops

end Certctl.Source.Jobs

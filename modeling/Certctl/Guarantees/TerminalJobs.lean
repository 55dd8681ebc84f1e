import Certctl.Guarantees.JobSamples
import Certctl.Source.Jobs.Decisions
import Certctl.Source.Jobs.Footprints
import Certctl.Source.Jobs.Processing

/-!
Completed and Cancelled as the last status of a job. The status update takes no notice of
the status it replaces, so the check of a call is worth as much as the row it was made on.
Under the discipline every write finds the status its call has last seen, and no agent
reports on a job that is done.
-/
namespace Certctl.Guarantees.TerminalJobs

open Lib Source Source.Jobs

inductive JobCall where
  | processPendingJobs
  | cancelJob (jobID : String)
  | rejectJob (id reason : String)
  | approve (requestID decidedBy note : String)
  | reject (requestID decidedBy note : String)
  | reapTimedOutJobs (csrTTL approvalTTL : Time)
  | reapJobsWithOfflineAgents (agentTTL : Time)
  | retryFailedJobs
  | reportJobStatus (jobID : String) (status : JobStatus) (errMsg : String)

def jobBody (env : Env) : JobCall → Service
  | .processPendingJobs => processPendingJobs env
  | .cancelJob jobID => cancelJob jobID
  | .rejectJob id reason => rejectJob id reason
  | .approve requestID decidedBy note => approve env requestID decidedBy note
  | .reject requestID decidedBy note => reject requestID decidedBy note
  | .reapTimedOutJobs csrTTL approvalTTL => reapTimedOutJobs csrTTL approvalTTL
  | .reapJobsWithOfflineAgents agentTTL => reapJobsWithOfflineAgents agentTTL
  | .retryFailedJobs => retryFailedJobs
  | .reportJobStatus jobID status errMsg => reportJobStatus jobID status errMsg

abbrev JobPool := Pool Op.Result DB Reply JobCall

def jobStep (env : Env) : JobPool → Move JobCall Choice → Option JobPool :=
  poolStep (exec env) (jobBody env)

def JobInit (s : JobPool) : Prop := s.tasks = []

def terminal : JobStatus → Bool
  | .completed | .cancelled => true
  | _ => false

/-- The status of the job that the operation has shown, or set. -/
def sees (id : String) : Event Op.Result → Option JobStatus
  | ⟨.query (.getJob target), .ok job⟩ => if target = id then some job.status else none
  | ⟨.query (.listByStatus _), .ok jobs⟩ =>
    (jobs.find? (fun job => decide (job.id = id))).map Job.status
  | ⟨.query (.listTimedOutAwaitingJobs ..), .ok jobs⟩ =>
    (jobs.find? (fun job => decide (job.id = id))).map Job.status
  | ⟨.query (.listJobsWithOfflineAgents _), .ok jobs⟩ =>
    (jobs.find? (fun job => decide (job.id = id))).map Job.status
  | ⟨.query (.updateStatus target status _), .ok _⟩ => if target = id then some status else none
  | ⟨.query (.updateJob image), .ok _⟩ => if image.id = id then some image.status else none
  | _ => none

/-- The status the call has last seen. -/
def seen (id : String) (log : List (Event Op.Result)) : Option JobStatus :=
  log.findSome? (sees id)

/-- The status a write of the call should find. `Approve` and `Reject` do not look at the
job; it should be waiting. A processor has its job from a claim. -/
def expected (call : JobCall) (log : List (Event Op.Result)) (id : String) : JobStatus :=
  match call with
  | .approve .. | .reject .. => .awaitingApproval
  | _ => (seen id log).getD .running

def hasStatus (db : DB) (id : String) (status : JobStatus) : Bool :=
  (db.jobs.get? id).all (fun row => decide (row.status = status))

/-- A report is made on a job that is not done. -/
def reportable (db : DB) : JobCall → Bool
  | .reportJobStatus id _ _ => (db.jobs.get? id).all (fun row => !terminal row.status)
  | _ => true

def terminalMay (call : JobCall) (log : List (Event Op.Result)) (db : DB) (o : Op) (_ : Choice) :
    Bool :=
  match o with
  | .query (.getJob _) => reportable db call
  | .query (.updateStatus id _ _) => hasStatus db id (expected call log id)
  | .query (.updateJob image) => hasStatus db image.id (expected call log image.id)
  | _ => true

section Rely

structure JobRely (db db' : DB) : Prop where
  kept : RequestsKept db db'
  final : ∀ id row, db.jobs.get? id = some row → ∃ row', db'.jobs.get? id = some row' ∧
    (terminal row.status = true → row'.status = row.status)

theorem JobRely.refl (db : DB) : JobRely db db :=
  ⟨.refl db, fun _ row found => ⟨row, found, fun _ => rfl⟩⟩

theorem JobRely.trans (a b c : DB) (first : JobRely a b) (second : JobRely b c) : JobRely a c := by
  refine ⟨first.kept.trans second.kept, ?_⟩
  intro id row found
  obtain ⟨row', found', same⟩ := first.final id row found
  obtain ⟨row'', found'', same'⟩ := second.final id row' found'
  refine ⟨row'', found'', fun done => ?_⟩
  rw [same' (by rw [same done]; exact done), same done]

/-- A write of the operation expects a job that is not done. -/
def Tame (call : JobCall) (log : List (Event Op.Result)) : Op → Prop
  | .query (.updateStatus id _ _) => terminal (expected call log id) = false
  | .query (.updateJob image) => terminal (expected call log image.id) = false
  | _ => True

abbrev Allowed (call : JobCall) (log : List (Event Op.Result)) (db : DB) (o : Op) (c : Choice) :
    Prop := terminalMay call log db o c = true

variable {env : Env}

theorem not_terminal_of_hasStatus {db : DB} {id : String} {status : JobStatus} {row : Job}
    (has : hasStatus db id status = true) (calm : terminal status = false)
    (found : db.jobs.get? id = some row) : terminal row.status = false := by
  simp only [hasStatus, found, Option.all_some, decide_eq_true_eq] at has
  rw [has]
  exact calm

theorem jobRely_of_tame {call : JobCall} {log : List (Event Op.Result)} {db : DB} (o : Op)
    (c : Choice) (tame : Tame call log o) (allowed : Allowed call log db o c) :
    JobRely db (exec env db o c).1 := by
  refine exec_rely JobRely (.refl db) o ?_
  intro q db' value isQuery performed
  subst isQuery
  refine ⟨perform_requestsKept performed, ?_⟩
  intro id row found
  obtain ⟨row', now, way⟩ := perform_job performed found
  refine ⟨row', now, fun done => ?_⟩
  obtain rfl | ⟨status, errMsg, rfl, rfl⟩ | ⟨image, rfl, rfl, rfl⟩ | ⟨-, isPending, rfl⟩ := way
  · rfl
  · have calm := not_terminal_of_hasStatus allowed tame found
    simp [calm] at done
  · have calm := not_terminal_of_hasStatus allowed tame found
    simp [calm] at done
  · simp [isPending, terminal] at done

end Rely

section Calls

variable {env : Env} {call : JobCall}

/-- No status the call has seen is a last one. -/
def Calm (log : List (Event Op.Result)) : Prop :=
  ∀ id status, seen id log = some status → terminal status = false

theorem calm_nil : Calm [] := fun _ _ none => by cases none

variable {log : List (Event Op.Result)} {next : Except RepoError Unit → Service}
  {event : Event Op.Result} {id : String} {o : Op}

theorem calm_cons (calm : Calm log)
    (shows : ∀ id status, sees id event = some status → terminal status = false) :
    Calm (event :: log) := by
  intro id status sight
  simp only [seen, List.findSome?_cons] at sight
  split at sight
  next found =>
    cases sight
    exact shows id _ found
  next => exact calm id status sight

theorem tame_of_calm (calm : Calm log) (o : Op) : Tame call log o := by
  have expectsLive : ∀ id, terminal (expected call log id) = false := by
    intro id
    unfold expected
    split
    · rfl
    · rfl
    · cases sight : seen id log with
      | none => rfl
      | some status => exact calm id status sight
  unfold Tame
  split
  · exact expectsLive _
  · exact expectsLive _
  · trivial

abbrev Final (env : Env) (call : JobCall) (p : Service) (log : List (Event Op.Result)) (db : DB) :
    Prop :=
  Within (exec env) JobRely Allowed (fun _ _ _ _ => True) call p log db

theorem final_of_tame {p : Service} (all : p.AllFrom (fun log o => Tame call log o) log) (db : DB) :
    Final env call p log db := by
  refine within_of_allFrom (p := p) ?_ (fun _ _ _ => trivial) db
  exact all.mono fun log o tame s c allowed => jobRely_of_tame o c tame allowed

theorem retryLoop_tame (jobs : List Job) (log : List (Event Op.Result)) (calm : Calm log) :
    (retryLoop jobs).AllFrom (fun log o => Tame call log o) log := by
  induction jobs generalizing log with
  | nil => trivial
  | cons job rest ih =>
    unfold retryLoop
    split
    · exact ih log calm
    · refine ⟨trivial, fun now => ?_⟩
      have calm' : Calm (⟨.now, now⟩ :: log) := calm_cons calm fun _ _ shown => by cases shown
      dsimp only
      split
      · refine ⟨tame_of_calm calm' _, fun r => ih _ (calm_cons calm' ?_)⟩
        intro id status shown
        cases r with
        | error e => cases shown
        | ok done =>
          rw [← Option.some.inj (Option.ite_none_right_eq_some.mp shown).2]
          rfl
      · exact ih _ calm'

theorem reapLoop_tame (errMsg : Job → Option String) (jobs : List Job)
    (log : List (Event Op.Result)) (calm : Calm log) :
    (reapLoop errMsg jobs).AllFrom (fun log o => Tame call log o) log := by
  induction jobs generalizing log with
  | nil => trivial
  | cons job rest ih =>
    unfold reapLoop
    split
    · exact ih log calm
    · refine ⟨tame_of_calm calm _, fun r => ih _ (calm_cons calm ?_)⟩
      intro id status shown
      cases r with
      | error e => cases shown
      | ok done =>
        rw [← Option.some.inj (Option.ite_none_right_eq_some.mp shown).2]
        rfl

theorem tame_of_not_onJobs (apart : o.onJobs = false) : Tame call log o := by
  unfold Tame
  split
  · cases apart
  · cases apart
  · trivial

theorem sees_of_not_onJobs {r : o.Result} (apart : o.onJobs = false) : sees id ⟨o, r⟩ = none := by
  unfold sees
  split <;> first | rfl | (rename_i same; cases same; cases apart)

/-- A processor at work has seen no last status. -/
theorem processJob_tame (job : Job) :
    (processJob env job).AllFrom (fun log o => Tame .processPendingJobs log o) [] := by
  refine processJob_conforms.allFrom (J := fun phase log => phase = .atWork → Calm log) ?_ ?_
    (fun _ => calm_nil)
  · intro a b o log moves calm
    obtain ⟨status, errMsg, rfl, rfl, -⟩ | ⟨new, rfl, -⟩ | ⟨apart, -⟩ := processing_cases moves
    · exact tame_of_calm (calm rfl) _
    · trivial
    · exact tame_of_not_onJobs apart
  · intro a b o log r moves calm atWork
    obtain ⟨status, errMsg, rfl, rfl, written⟩ | ⟨new, rfl, -, -, -, rfl⟩ | ⟨apart, rfl⟩ :=
      processing_cases moves
    · -- Only the write of Running leaves the processor at work.
      have isRunning : status = .running := by
        rw [atWork] at written
        unfold Phase.write at written
        split at written <;> first | rfl | cases written
      refine calm_cons (calm rfl) fun id shown sight => ?_
      cases r with
      | error e => cases sight
      | ok done =>
        rw [← Option.some.inj (Option.ite_none_right_eq_some.mp sight).2, isRunning]
        rfl
    · exact calm_cons (calm atWork) fun id shown sight => by cases r <;> cases sight
    · refine calm_cons (calm atWork) fun id shown sight => ?_
      rw [sees_of_not_onJobs apart] at sight
      cases sight

/-- What a list shows is what the rows were when it was made. -/
theorem calm_of_listed {jobs : List Job}
    (shows : ∀ id, sees id event = (jobs.find? (fun job => decide (job.id = id))).map Job.status)
    (live : ∀ job ∈ jobs, terminal job.status = false) (log : List (Event Op.Result))
    (calm : Calm log) : Calm (event :: log) := by
  refine calm_cons calm fun id status sight => ?_
  rw [shows id] at sight
  obtain ⟨job, found, rfl⟩ := Option.map_eq_some_iff.mp sight
  exact live job (List.mem_of_find?_eq_some found)

theorem write_final {errMsg : String} {status : JobStatus} (calm : Calm log)
    (ends : ∀ r, ∃ reply, next r = .done reply) (db : DB) :
    Final env call (query (.updateStatus id status errMsg) next) log db := by
  refine final_of_tame ?_ db
  refine ⟨tame_of_calm calm _, fun r => ?_⟩
  obtain ⟨reply, isDone⟩ := ends r
  rw [isDone]
  trivial

theorem calm_of_read {job : Job} (live : terminal job.status = false) :
    Calm [⟨.query (.getJob id), .ok job⟩] := by
  refine calm_cons calm_nil fun target status sight => ?_
  rw [← Option.some.inj (Option.ite_none_right_eq_some.mp sight).2]
  exact live

theorem ends_of_except {onError : RepoError → Reply} {onOk : Reply}
    (error : ∀ e, next (.error e) = .done (onError e))
    (ok : next (.ok ()) = .done onOk) : ∀ r, ∃ reply, next r = .done reply := by
  simp only [forall_except]
  exact ⟨fun e => ⟨_, error e⟩, fun _ => ⟨_, ok⟩⟩

theorem cancelJob_final (jobID : String) (db : DB) :
    Final env call (cancelJob jobID) [] db := by
  refine within_read rfl JobRely.refl fun s c r _ _ _ => ?_
  cases r with
  | error e => trivial
  | ok job =>
    dsimp only
    split
    · trivial
    next cancellable =>
      have live : terminal job.status = false := by
        have either : job.status = .pending ∨ job.status = .running := by
          by_contra neither
          exact cancellable (not_or.mp neither)
        rcases either with status | status <;> simp [status, terminal]
      exact write_final (calm_of_read live) (ends_of_except (fun _ => rfl) rfl) s

theorem rejectJob_final (id reason : String) (db : DB) :
    Final env call (rejectJob id reason) [] db := by
  refine within_read rfl JobRely.refl fun s c r _ _ _ => ?_
  cases r with
  | error e => trivial
  | ok job =>
    dsimp only
    split
    · trivial
    next waiting =>
      have live : terminal job.status = false := by simp [not_not.mp waiting, terminal]
      exact write_final (calm_of_read live) (ends_of_except (fun _ => rfl) rfl) s

theorem reportJobStatus_final (jobID : String) (status : JobStatus) (errMsg : String) (db : DB) :
    Final env (.reportJobStatus jobID status errMsg) (reportJobStatus jobID status errMsg) []
      db := by
  refine within_read rfl JobRely.refl fun s c r _ allowed returned => ?_
  cases r with
  | error e => trivial
  | ok job =>
    have live : terminal job.status = false := by
      simpa [Allowed, terminalMay, reportable, getJob_ok returned] using allowed
    exact write_final (calm_of_read live) (ends_of_except (fun _ => rfl) rfl) s

theorem retryFailedJobs_final (db : DB) : Final env call retryFailedJobs [] db := by
  refine retryFailedJobs_within (fun _ _ _ => trivial) JobRely.refl (fun s jobs listed => ?_) db
  refine final_of_tame (retryLoop_tame jobs _ (calm_of_listed (fun _ => rfl) ?_ _ calm_nil)) s
  intro job member
  simp [(listed job member).2, terminal]

theorem calm_now (now : Time) : Calm [⟨.now, now⟩] :=
  calm_cons calm_nil fun _ _ sight => by cases sight

theorem reapTimedOutJobs_final (csrTTL approvalTTL : Time) (db : DB) :
    Final env call (reapTimedOutJobs csrTTL approvalTTL) [] db := by
  refine reapTimedOutJobs_within (fun _ _ _ => trivial) JobRely.refl
    (fun s now jobs listed => ?_) db
  refine final_of_tame (reapLoop_tame _ jobs _ (calm_of_listed (fun _ => rfl) ?_ _
    (calm_now now))) s
  intro job member
  rcases (listed job member).2 with status | status <;> simp [status, terminal]

theorem reapJobsWithOfflineAgents_final (agentTTL : Time) (db : DB) :
    Final env call (reapJobsWithOfflineAgents agentTTL) [] db := by
  refine reapJobsWithOfflineAgents_within (fun _ _ _ => trivial) JobRely.refl
    (fun s now jobs errMsg listed => ?_) db
  refine final_of_tame (reapLoop_tame _ jobs _ (calm_of_listed (fun _ => rfl) ?_ _
    (calm_now now))) s
  intro job member
  simp [(listed job member).2, terminal]

theorem processPendingJobs_final (db : DB) :
    Final env .processPendingJobs (processPendingJobs env) [] db := by
  refine within_query fun s c _ allowed => ⟨jobRely_of_tame (.query _) c trivial allowed, ?_⟩
  simp only [forall_except]
  exact ⟨fun _ _ => trivial, fun jobs _ => fanOut_within (fun _ _ _ => trivial)
    (fun job db => final_of_tame (processJob_tame job) db) jobs _ _⟩

/-- The decisions look at the request; the job is waiting by the discipline. -/
theorem approve_final (requestID decidedBy note : String) (db : DB) :
    Final env (.approve requestID decidedBy note) (approve env requestID decidedBy note) [] db := by
  refine approve_within JobRely.refl (fun _ _ moved => moved.kept) (fun _ _ _ => trivial)
    requestID decidedBy note ?_ ?_ ?_ [] db
  · exact fun _ s c at_ note' _ allowed => jobRely_of_tame (.query _) c trivial allowed
  · exact fun _ s c profile allowed => jobRely_of_tame (.query _) c trivial allowed
  · intro log s c jobID _ allowed
    have tame : Tame (.approve requestID decidedBy note) log
      (.query (.updateStatus jobID .pending "")) := rfl
    exact jobRely_of_tame _ c tame allowed

theorem reject_final (requestID decidedBy note : String) (db : DB) :
    Final env (.reject requestID decidedBy note) (reject requestID decidedBy note) [] db := by
  refine reject_within JobRely.refl (fun _ _ moved => moved.kept) (fun _ _ _ => trivial)
    requestID decidedBy note ?_ ?_ [] db
  · exact fun _ s c at_ note' _ allowed => jobRely_of_tame (.query _) c trivial allowed
  · intro log s c jobID _ allowed
    have tame : Tame (.reject requestID decidedBy note) log
      (.query (.updateStatus jobID .cancelled ("approval rejected: " ++ note))) := rfl
    exact jobRely_of_tame _ c tame allowed

theorem jobBody_final (call : JobCall) (db : DB) : Final env call (jobBody env call) [] db := by
  cases call with
  | processPendingJobs => exact processPendingJobs_final db
  | cancelJob jobID => exact cancelJob_final jobID db
  | rejectJob id reason => exact rejectJob_final id reason db
  | approve requestID decidedBy note => exact approve_final requestID decidedBy note db
  | reject requestID decidedBy note => exact reject_final requestID decidedBy note db
  | reapTimedOutJobs csrTTL approvalTTL => exact reapTimedOutJobs_final csrTTL approvalTTL db
  | reapJobsWithOfflineAgents agentTTL => exact reapJobsWithOfflineAgents_final agentTTL db
  | retryFailedJobs => exact retryFailedJobs_final db
  | reportJobStatus jobID status errMsg => exact reportJobStatus_final jobID status errMsg db

theorem jobObligations : Obligations (exec env) (jobBody env) JobRely Allowed
    (fun _ _ _ _ => True) (fun _ => True) (fun s m => disciplined terminalMay s m = true) where
  refl := .refl
  trans := .trans
  settled := fun _ _ _ _ _ _ _ => trivial
  keeps := fun _ _ _ _ => trivial
  opens := fun s call _ _ => jobBody_final call s.store
  meets := fun _ _ _ _ _ _ _ => may_of_disciplined

end Calls

/-- Along a disciplined run a job that is Completed or Cancelled keeps its status. -/
theorem terminal_jobs_stay (env : Env) (s s' : JobPool)
    (reached : ReachableUnder (jobStep env) JobInit (fun s m => disciplined terminalMay s m) s)
    (run : Later (jobStep env) (fun s m => disciplined terminalMay s m) s s') (id : String)
    (row : Job) (found : s.store.jobs.get? id = some row) (done : terminal row.status = true) :
    ∃ row', s'.store.jobs.get? id = some row' ∧ row'.status = row.status := by
  have covered : Covered (exec env) JobRely Allowed (fun _ _ _ _ => True) (fun _ => True) s :=
    covered_of_reachable jobObligations (fun _ initial => initial) (fun _ _ => trivial) reached
  obtain ⟨-, moved⟩ := covered.rely_later jobObligations run
  obtain ⟨row', found', same⟩ := moved.final id row found
  exact ⟨row', found', same done⟩

def pendingJobPool : JobPool :=
  ⟨{ DB.empty with jobs := ⟨[newJob "job-1" "mc-1" .renewal .pending 0 0], by decide⟩ }, []⟩

/-- A claimed job is cancelled; its processor then sets it to Running. -/
theorem cancelled_job_runs : ∃ s s' : JobPool,
    Reachable (jobStep .plain) JobInit s ∧ Later (jobStep .plain) (fun _ _ => True) s s' ∧
    (∃ row, s.store.jobs.get? "job-1" = some row ∧ row.status = .cancelled) ∧
    ∃ row, s'.store.jobs.get? "job-1" = some row ∧ row.status = .running :=
  exists_reached_later_of_replay (jobStep .plain) (show JobInit pendingJobPool from rfl)
    [.start .processPendingJobs, .step 0 .plain, .step 0 .plain, .start (.cancelJob "job-1"),
      .step 2 .plain, .step 2 .plain]
    [.step 1 .plain] _ (by decide +kernel)

/-- A cancelled job is neither retried nor claimed. -/
theorem cancelled_job_stays : ∃ s s' : JobPool,
    Later (jobStep .plain) (fun s m => disciplined terminalMay s m) s s' ∧
    (∃ row, s.store.jobs.get? "job-1" = some row ∧ row.status = .cancelled) ∧
    ∃ row, s'.store.jobs.get? "job-1" = some row ∧ row.status = .cancelled := by
  obtain ⟨s, s', reached, run, cancelled⟩ := exists_later_of_replay (jobStep .plain)
    (disciplined terminalMay) (show JobInit pendingJobPool from rfl)
    [.start (.cancelJob "job-1"), .step 0 .plain, .step 0 .plain]
    [.start .retryFailedJobs, .step 1 .plain, .start .processPendingJobs, .step 2 .plain]
    (fun s _ => ∃ row, s.store.jobs.get? "job-1" = some row ∧ row.status = .cancelled)
    (by decide +kernel)
  obtain ⟨row, found, isCancelled⟩ := cancelled
  have stays := terminal_jobs_stay .plain s s' reached run "job-1" row found
    (by simp [isCancelled, terminal])
  exact ⟨s, s', run, ⟨row, found, isCancelled⟩, isCancelled ▸ stays⟩

end Certctl.Guarantees.TerminalJobs

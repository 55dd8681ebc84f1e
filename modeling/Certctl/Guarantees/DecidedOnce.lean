import Certctl.Guarantees.JobSamples
import Certctl.Source.Jobs.Decisions
import Certctl.Source.Jobs.Footprints

/-!
Approval requests are decided once and by two people. Any number of approvals, rejections
and sweeps of stale requests run beside one another, and new requests come in. The checks
of a decision are made on rows read earlier; the conditional update makes up for that.
-/
namespace Certctl.Guarantees.DecidedOnce

open Lib Source Source.Jobs

inductive DecisionCall where
  | requestApproval (certID jobID profileID requestedBy : String)
  | requestProfileEditApproval (profileID requestedBy : String) (payload : List UInt8)
  | approve (requestID decidedBy note : String)
  | reject (requestID decidedBy note : String)
  | expireStale (before : Time)

def decisionBody (env : Env) : DecisionCall → Service
  | .requestApproval certID jobID profileID requestedBy =>
    requestApproval env certID jobID profileID requestedBy answer
  | .requestProfileEditApproval profileID requestedBy payload =>
    requestProfileEditApproval env profileID requestedBy payload answer
  | .approve requestID decidedBy note => approve env requestID decidedBy note
  | .reject requestID decidedBy note => reject requestID decidedBy note
  | .expireStale before => expireStale before

abbrev DecisionPool := Pool Op.Result DB Reply DecisionCall

def decisionStep (env : Env) : DecisionPool → Move DecisionCall Choice → Option DecisionPool :=
  poolStep (exec env) (decisionBody env)

/-- No call is under way, and two people decided the requests approved so far. -/
def DecisionInit (s : DecisionPool) : Prop := s.tasks = [] ∧ TwoPerson s.store

/-- The state update went through: it hit a row. -/
def decides (id : String) : Event Op.Result → Bool
  | ⟨.query (.decidePending target state ..), .ok rows⟩ =>
    decide (target = id) && state.isTerminal && decide (rows ≠ 0)
  | _ => false

def passed (id : String) (task : Task Op.Result Reply DecisionCall) : Bool :=
  task.log.any (decides id)

/-- What the others may do to the requests. -/
structure DecisionRely (db db' : DB) : Prop where
  kept : RequestsKept db db'
  twoPerson : TwoPerson db → TwoPerson db'

theorem DecisionRely.refl (db : DB) : DecisionRely db db := ⟨.refl db, id⟩

theorem DecisionRely.trans (a b c : DB) (first : DecisionRely a b) (second : DecisionRely b c) :
    DecisionRely a c :=
  ⟨first.kept.trans second.kept, fun before => second.twoPerson (first.twoPerson before)⟩

variable {env : Env} {id : String}

theorem decisionRely_of_approvesNothing (o : Op) (nothing : o.approvesNothing) (db : DB)
    (c : Choice) : DecisionRely db (exec env db o c).1 :=
  ⟨exec_requestsKept o, exec_twoPerson nothing⟩

section Calls

variable {env : Env}

abbrev Decides (env : Env) (call : DecisionCall) (p : Service) (log : List (Event Op.Result))
    (db : DB) : Prop :=
  Within (exec env) DecisionRely (fun _ _ _ _ _ => True) (fun _ _ _ _ => True) call p log db

theorem decides_of_all {call : DecisionCall} {p : Service}
    (all : p.All Op.approvesNothing) (log : List (Event Op.Result)) (db : DB) :
    Decides env call p log db :=
  within_of_all (all.mono fun o nothing _ s c _ => decisionRely_of_approvesNothing o nothing s c)
    (fun _ _ _ => trivial) log db

theorem approvesNothing_of_read (o : Op) (read : o.isWrite = false) : o.approvesNothing := by
  unfold Op.approvesNothing
  split
  · cases read
  · cases read
  · trivial

/-- The state update of an approval, on a request someone else asked for. -/
theorem decisionRely_of_askedByOther {requestID decidedBy : String} (decidedAt : Time)
    (note : Option String) (db : DB) (c : Choice) (asked : AskedByOther requestID decidedBy db) :
    DecisionRely db (exec env db
      (.query (.decidePending requestID .approved decidedBy decidedAt note)) c).1 := by
  refine ⟨exec_requestsKept _, fun before => ?_⟩
  refine exec_rely (fun _ after => TwoPerson after) before _ ?_
  intro q db' value isQuery performed
  cases isQuery
  refine perform_twoPerson performed before (fun _ created => by cases created) ?_
  intro id decidedBy' decidedAt' note' same req found
  cases same
  obtain ⟨req', found', other⟩ := asked
  rw [found] at found'
  cases found'
  exact other

theorem approve_decides (call : DecisionCall) (requestID decidedBy note : String)
    (log : List (Event Op.Result)) (db : DB) :
    Decides env call (approve env requestID decidedBy note) log db := by
  refine approve_within DecisionRely.refl (fun _ _ moved => moved.kept) (fun _ _ _ => trivial)
    requestID decidedBy note ?_ ?_ ?_ log db
  · exact fun _ s c at_ note asked _ => decisionRely_of_askedByOther at_ note s c asked
  · exact fun _ s c profile _ =>
      decisionRely_of_approvesNothing (.query (.updateProfile profile)) trivial s c
  · exact fun _ s c jobID _ _ =>
      decisionRely_of_approvesNothing (.query (.updateStatus jobID .pending "")) trivial s c

theorem decisionBody_decides (off : env.bypass = false) (call : DecisionCall) (db : DB) :
    Decides env call (decisionBody env call) [] db := by
  have reads : ∀ o : Op, o.isWrite = false → o.readsCerts = false → o.approvesNothing :=
    fun o read _ => approvesNothing_of_read o read
  cases call with
  | approve requestID decidedBy note => exact approve_decides _ requestID decidedBy note [] db
  | requestApproval certID jobID profileID requestedBy =>
    refine decides_of_all ?_ [] db
    unfold decisionBody
    exact requestApproval_all reads (fun _ isPending => isPending)
      (fun on => by simp [off] at on) _ _ _ _ answer_all
  | requestProfileEditApproval profileID requestedBy payload =>
    refine decides_of_all ?_ [] db
    exact requestProfileEditApproval_all reads (fun _ isPending => isPending) off _ _ _
      answer_all
  | reject requestID decidedBy note =>
    refine decides_of_all ?_ [] db
    refine reject_all reads (fun _ _ => trivial) _ _ _ (fun at_ note => ?_)
    exact fun same => by cases same
  | expireStale before =>
    refine decides_of_all ?_ [] db
    exact expireStale_all reads (fun _ _ => trivial) before trivial

end Calls

theorem decisionObligations (off : env.bypass = false) :
    Obligations (exec env) (decisionBody env) DecisionRely (fun _ _ _ _ _ => True)
      (fun _ _ _ _ => True) TwoPerson (fun _ _ => True) where
  refl := .refl
  trans := .trans
  settled := fun _ _ _ _ _ _ _ => trivial
  keeps := fun _ _ moved => moved.twoPerson
  opens := fun s call _ _ => decisionBody_decides off call s.store
  meets := fun _ _ _ _ _ _ _ _ _ => trivial

/-- A state update that goes through finds the request open and leaves it decided. -/
theorem decides_spec {db : DB} {o : Op} {c : Choice}
    (decided : decides id ⟨o, (exec env db o c).2⟩ = true) :
    (∃ req, db.approvals.get? id = some req ∧ req.state = .pending) ∧
    ∃ req, (exec env db o c).1.approvals.get? id = some req ∧ req.state ≠ .pending := by
  unfold decides at decided
  split at decided
  next target state decidedBy decidedAt note rows same =>
    simp only [Event.mk.injEq] at same
    obtain ⟨rfl, returned⟩ := same
    simp only [Bool.and_eq_true, decide_eq_true_eq] at decided
    obtain ⟨⟨rfl, terminal⟩, hit⟩ := decided
    obtain ⟨req, found, isOpen, after⟩ := decidePending_ok hit (eq_of_heq returned)
    refine ⟨⟨req, found, isOpen⟩, _, after, fun stillOpen => ?_⟩
    have isPending : state = .pending := stillOpen
    rw [isPending] at terminal
    cases terminal
  · cases decided

/-- A call past its state update found the request open and left it decided, so there was
none before and there will be no other. -/
structure PassedOnce (s : DecisionPool) : Prop where
  decided : ∀ task ∈ s.tasks, ∀ id, passed id task = true →
    ∃ req, s.store.approvals.get? id = some req ∧ req.state ≠ .pending
  once : ∀ id, s.tasks.countP (passed id) ≤ 1

theorem PassedOnce.none_of_pending {s : DecisionPool} (holds : PassedOnce s)
    {req : ApprovalRequest} (found : s.store.approvals.get? id = some req)
    (isOpen : req.state = .pending) : s.tasks.countP (passed id) = 0 := by
  rw [List.countP_eq_zero]
  intro task member past
  obtain ⟨req', found', closed⟩ := holds.decided task member id past
  rw [found] at found'
  cases found'
  exact closed isOpen

/-- Decided requests stay decided, whatever is done. -/
theorem decided_of_kept {db db' : DB} (kept : RequestsKept db db')
    (decided : ∃ req, db.approvals.get? id = some req ∧ req.state ≠ .pending) :
    ∃ req, db'.approvals.get? id = some req ∧ req.state ≠ .pending := by
  obtain ⟨req, found, closed⟩ := decided
  obtain ⟨req', found', progress⟩ := kept id req found
  exact ⟨req', found', progress.settled closed ▸ closed⟩

theorem passed_new (id : String) (call : DecisionCall) (rest : Service) :
    passed id ⟨call, [], rest⟩ = false := rfl

theorem passed_log (id : String) (call : DecisionCall) (event : Event Op.Result)
    (log : List (Event Op.Result)) (rest rest' : Service) :
    passed id ⟨call, event :: log, rest⟩ = (decides id event || passed id ⟨call, log, rest'⟩) := by
  simp [passed]

theorem PassedOnce.step {s s' : DecisionPool} {m : Move DecisionCall Choice}
    (holds : PassedOnce s) (taken : decisionStep env s m = some s') : PassedOnce s' := by
  cases poolStep_effect taken with
  | start call =>
    refine ⟨?_, fun id => ?_⟩
    · refine forall_mem_snoc holds.decided fun id past => ?_
      cases past
    · simpa [passed_new] using holds.once id
  | @op i call log o next c current =>
    have kept : RequestsKept s.store (exec env s.store o c).1 := exec_requestsKept o
    refine ⟨?_, fun id => ?_⟩
    · intro task member id past
      rcases List.mem_or_eq_of_mem_set member with old | rfl
      · exact decided_of_kept kept (holds.decided task old id past)
      · rw [passed_log id call _ log _ (.op o next), Bool.or_eq_true] at past
        rcases past with now | earlier
        · exact (decides_spec now).2
        · exact decided_of_kept kept
            (holds.decided _ (List.mem_of_getElem? current) id earlier)
    · have moved := countP_set_add (passed id)
        ⟨call, ⟨o, (exec env s.store o c).2⟩ :: log, next (exec env s.store o c).2⟩ current
      rw [passed_log id call _ log _ (.op o next)] at moved
      have before := holds.once id
      cases now : decides id ⟨o, (exec env s.store o c).2⟩ with
      | true =>
        obtain ⟨req, found, isOpen⟩ := (decides_spec now).1
        have none := holds.none_of_pending found isOpen
        simp only [now, Bool.true_or, if_true] at moved
        dsimp only
        omega
      | false =>
        simp only [now, Bool.false_or] at moved
        dsimp only
        omega
  | @fork i call log child next _ current =>
    refine ⟨?_, fun id => ?_⟩
    · have before := holds.decided _ (List.mem_of_getElem? current)
      refine forall_mem_snoc (forall_mem_set holds.decided before) fun id past => ?_
      cases past
    · have moved := countP_set_add (passed id) ⟨call, log, next⟩ current
      have before := holds.once id
      have same : passed id ⟨call, log, next⟩ = passed id ⟨call, log, .fork child next⟩ := rfl
      rw [same] at moved
      simp only [List.countP_append, List.countP_singleton, passed_new, Bool.false_eq_true,
        if_false]
      omega

section Main

variable {env : Env} {s : DecisionPool}

theorem passedOnce_of_reachable (reached : Reachable (decisionStep env) DecisionInit s) :
    PassedOnce s := by
  refine reached.invariant ?_ ?_
  · intro s initial
    refine ⟨?_, fun id => ?_⟩
    · intro task member
      rw [initial.1] at member
      cases member
    · rw [initial.1]
      exact Nat.zero_le 1
  · intro s m s' holds _ taken
    exact holds.step taken

/-- In every state of every interleaving at most one decision of a request has got past its
state update, a decided request keeps its state, decider and note from then on, and an
approved request was decided by someone other than its requester. -/
theorem decided_once (off : env.bypass = false)
    (reached : Reachable (decisionStep env) DecisionInit s) :
    (∀ id, s.tasks.countP (passed id) ≤ 1) ∧
    (∀ s', Later (decisionStep env) (fun _ _ => True) s s' →
      ∀ id req, s.store.approvals.get? id = some req → req.state ≠ .pending →
      ∃ req', s'.store.approvals.get? id = some req' ∧ req'.state = req.state ∧
        req'.decidedBy = req.decidedBy ∧ req'.decisionNote = req.decisionNote) ∧
    (∀ id req, s.store.approvals.get? id = some req → req.state = .approved →
      ∃ decider, req.decidedBy = some decider ∧ decider ≠ req.requestedBy) := by
  have covered := covered_of_reachable (decisionObligations off) (fun _ initial => initial.1)
    (fun _ initial => initial.2) reached
  refine ⟨(passedOnce_of_reachable reached).once, ?_, covered.store⟩
  intro s' run id req found closed
  obtain ⟨-, moved⟩ := covered.rely_later (decisionObligations off) run
  obtain ⟨req', found', progress⟩ := moved.kept id req found
  rw [progress.settled closed] at found'
  exact ⟨req, found', rfl, rfl, rfl⟩

end Main

def openRequestPool : DecisionPool :=
  ⟨{ DB.waiting with jobs := .empty _ }, []⟩

theorem openRequestPool_init : DecisionInit openRequestPool := by
  refine ⟨rfl, ?_⟩
  intro id req found approved
  have member := Table.get?_mem found
  rw [show openRequestPool.store.approvals.rows = [waitingRequest] from rfl,
    List.mem_singleton] at member
  subst member
  cases approved

/-- Two approvals and a rejection race: all three pass their checks, one decides. -/
def racingDecisions : List (Move DecisionCall Choice) :=
  [.start (.approve "ar-1" "bob" ""), .start (.reject "ar-1" "carol" "no"),
    .start (.approve "ar-1" "dave" ""), .step 0 .plain, .step 1 .plain, .step 2 .plain,
    .step 0 .plain, .step 1 .plain, .step 2 .plain, .step 0 .plain, .step 2 .plain,
    .step 1 .plain, .step 0 .plain, .step 2 .plain, .step 0 .plain]

def raceEnds (s : DecisionPool) : Bool :=
  decide (s.tasks.countP (passed "ar-1") = 1) &&
    decide ((s.store.approvals.get? "ar-1").map ApprovalRequest.state = some .rejected)

theorem decided_once_race : ∃ s, Reachable (decisionStep .plain) DecisionInit s ∧
    raceEnds s = true ∧ ∀ id, s.tasks.countP (passed id) ≤ 1 := by
  obtain ⟨s, reached, ends⟩ := exists_reached_of_replay (decisionStep .plain)
    openRequestPool_init racingDecisions (fun s => raceEnds s) (by decide +kernel)
  exact ⟨s, reached, ends, (decided_once rfl reached).1⟩

end Certctl.Guarantees.DecidedOnce

import Certctl.Guarantees.AcmeSamples
import Certctl.Source.Acme.Grounding

/-!
At most one certificate per order. `FinalizeOrder` reads the order once, accepts
`processing` as an entry status, and overwrites the row without looking at it
again, so two calls that read the same order both reach the issuer; and a call on a
finished order is turned away by the status guard before the branch written for it.

The property holds along the runs in which every overwrite of the order's row finds
the status its writer last saw, no finalize request of the owner meets a finished
order, and a request that meets `processing` arrives when no other call is on its
way to the issuer and none has come back from it.
-/
namespace Certctl.Guarantees.SingleIssuance

open Lib Source.Acme

/-- A call that goes on to the issuer without waiting for another status: behind
Step A, or before it with a copy that already says `processing`. -/
def claims (orderID : String) : Call → Bool
  | .finalizeStepA order _ => decide (order.orderID = orderID ∧ order.status = .processing)
  | .finalizeIssue order _ => decide (order.orderID = orderID)
  | _ => false

def issues (orderID : String) : Event → Bool
  | .issued order _ _ => decide (order.orderID = orderID)
  | _ => false

/-- Successful `IssueCertificate` calls for the order so far. -/
def issuances (orderID : String) (s : Sys) : Nat := s.log.countP (issues orderID)

/-- Issuances made or already under way. -/
def commitments (orderID : String) (s : Sys) : Nat :=
  s.calls.countP (claims orderID) + issuances orderID s

/-- The property: one issuance at most, and a finalize call that found the order
finished answered with its certificate id. -/
def IssuedOnce (orderID : String) (s : Sys) : Prop :=
  issuances orderID s ≤ 1 ∧
    ∀ order result, .finalizeAnswered order result ∈ s.log → order.orderID = orderID →
      order.status = .valid → result = .inr order.certificateID

/-- A finalize request of the owner does not meet a finished order, and meets
`processing` only while nothing is committed. -/
def orderlyEntry (orderID : String) (s : Sys) : Action → Bool
  | .finalize req id _ _ => decide (id = orderID → ∀ row, s.store.orders.get? orderID = some row →
      ownerRequest s req row = true → row.status ≠ .valid ∧
        (row.status = .processing → commitments orderID s = 0))
  | _ => true

def orderly (orderID : String) (s : Sys) (a : Action) : Bool :=
  freshWrite orderID s a && orderlyEntry orderID s a

variable {orderID : String} {s : Sys}

/-- Commitments refer to an order that has a row. -/
theorem commitments_pos_row (wf : WellFormed s) (committed : 0 < commitments orderID s) :
    ∃ row, s.store.orders.get? orderID = some row := by
  have present {order : Order} (has : s.store.HasOrder order) (same : order.orderID = orderID) :
      ∃ row, s.store.orders.get? orderID = some row := by
    obtain ⟨row, found, _⟩ := has
    exact ⟨row, same ▸ found⟩
  by_cases claimed : 0 < s.calls.countP (claims orderID)
  · obtain ⟨call, member, counted⟩ := List.countP_pos_iff.mp claimed
    have grounded := wf.calls call member
    cases call with
    | finalizeStepA order job =>
      simp only [claims, decide_eq_true_eq] at counted
      exact present grounded.1 counted.1
    | finalizeIssue order job =>
      simp only [claims, decide_eq_true_eq] at counted
      exact present grounded.1 counted
    | _ => cases counted
  · have logged : 0 < s.log.countP (issues orderID) := by
      unfold commitments issuances at committed
      omega
    obtain ⟨event, member, counted⟩ := List.countP_pos_iff.mp logged
    cases event with
    | issued order profile request =>
      simp only [issues, decide_eq_true_eq] at counted
      exact present (wf.issued _ _ _ member) counted
    | _ => cases counted

variable {s' : Sys} {a : Action} {env : Env} {e : Event} {c : Nat}

/-- A call that moves to a call with no new claim does not raise the count. -/
theorem commitments_moved {old new : Call} (current : s.calls[c]? = some old)
    (calls : s'.calls = s.calls.set c new) (log : issuances orderID s' = issuances orderID s)
    (unclaimed : claims orderID new = true → claims orderID old = true) :
    commitments orderID s' ≤ commitments orderID s := by
  have count := countP_set_add (claims orderID) new current
  unfold commitments
  rw [calls, log]
  cases isNew : claims orderID new with
  | false => simp [isNew] at count; omega
  | true => simp [isNew, unclaimed isNew] at count; omega

theorem issuances_record (other : issues orderID e = false) :
    issuances orderID (s.record e) = issuances orderID s := by
  simp [issuances, Sys.record, List.countP_append, other]

theorem commitments_record (other : issues orderID e = false) :
    commitments orderID (s.record e) = commitments orderID s := by
  unfold commitments
  rw [issuances_record other]
  rfl

theorem commitments_spawn {new : Call} (unclaimed : claims orderID new = false) :
    commitments orderID (s.spawn new) = commitments orderID s := by
  simp [commitments, issuances, Sys.spawn, List.countP_append, unclaimed]

/-- Once something is committed the row is past `ready`. -/
def Taken (orderID : String) (s : Sys) : Prop :=
  0 < commitments orderID s → ∀ row, s.store.orders.get? orderID = some row →
    row.status ≠ .pending ∧ row.status ≠ .ready

/-- Step A behind a copy that still said `ready`: the write is fresh, so nothing was
committed before it. -/
theorem commitments_stepA {order : Order} {job : FinalizeJob} {store : Store}
    (wf : WellFormed s) (taken : Taken orderID s)
    (fresh : freshWrite orderID s (.finalizeOverwrite c) = true)
    (current : s.calls[c]? = some (.finalizeStepA order job)) (same : order.orderID = orderID)
    (entered : order.status ≠ .processing)
    (written : s.store.updateOrder s.now (processingWrite order) = some store) :
    commitments orderID s = 0 ∧ commitments orderID
        ({ s with store }.setCall c (.finalizeIssue (processingWrite order) job)) = 1 ∧
      ∀ row, store.orders.get? orderID = some row → row.status = .processing := by
  obtain ⟨orders, row, rfl, found, stored⟩ := Store.updateOrder_spec written
  have foundRow : s.store.orders.get? orderID = some row := by
    rw [← same]
    exact found
  have ready : order.status = .ready := by
    have grounded := wf.calls _ (List.mem_of_getElem? current)
    exact grounded.2.resolve_right entered
  have pending : s.nextWrite (.finalizeOverwrite c) = some (order, processingWrite order) := by
    simp [Sys.nextWrite, Action.writes, current, Call.pendingWrite]
  have status := freshWrite_status fresh pending same foundRow
  have uncommitted : commitments orderID s = 0 := by
    by_contra some
    exact (taken (Nat.pos_of_ne_zero some) row foundRow).2 (status.trans ready)
  refine ⟨uncommitted, ?_, ?_⟩
  · have count :=
      countP_set_add (claims orderID) (.finalizeIssue (processingWrite order) job) current
    have before : claims orderID (.finalizeStepA order job) = false := by simp [claims, entered]
    have after : claims orderID (.finalizeIssue (processingWrite order) job) = true := by
      simp [claims, processingWrite, same]
    rw [before, after] at count
    simp only [commitments, issuances, Sys.setCall] at uncommitted ⊢
    simp only [Bool.false_eq_true, ↓reduceIte] at count
    omega
  · intro row' foundRow'
    rw [stored orderID, if_pos (by rw [← same]; rfl)] at foundRow'
    cases foundRow'
    rfl

/-- What an orderly step does to the commitments. -/
theorem commitments_step (wf : WellFormed s)
    (taken : Taken orderID s) (ok : orderly orderID s a = true) (effect : Effect env s a s') :
    commitments orderID s' ≤ commitments orderID s ∨
      commitments orderID s = 0 ∧ commitments orderID s' = 1 ∧
        ∀ row, s'.store.orders.get? orderID = some row → row.status = .processing := by
  obtain ⟨fresh, entry⟩ := Bool.and_eq_true_iff.mp ok
  cases effect with
  | newOrder | finalizeAnswered => exact .inl (Nat.le_of_eq (commitments_record rfl))
  | respondDispatch | finalizeMismatch => exact .inl (Nat.le_of_eq (commitments_spawn rfl))
  | @finalizeProceed req id csr csrPEM account order profile verified found owner status =>
    by_cases claimed : claims orderID (.finalizeStepA order ⟨profile, csr, csrPEM⟩) = true
    · simp only [claims, decide_eq_true_eq] at claimed
      obtain ⟨same, processing⟩ := claimed
      have keyed := Table.get?_key found
      have here : id = orderID := keyed.symm.trans same
      subst here
      have entry := of_decide_eq_true entry
      have uncommitted :=
        (entry rfl order found (ownerRequest_of_verified verified owner)).2 processing
      refine .inr ⟨uncommitted, ?_, ?_⟩
      · simp only [commitments, issuances] at uncommitted
        simp [commitments, issuances, Sys.spawn, List.countP_append, claims, same, processing]
        omega
      · intro row foundRow
        cases found.symm.trans foundRow
        exact processing
    · exact .inl (Nat.le_of_eq (commitments_spawn (by simpa using claimed)))
  | respondCommit current | validated current | outcomeList current | outcomeGetOrder current
  | finalizeRejected current | finalizeCreate current | finalizeStepC current | abort current =>
    exact .inl (commitments_moved current rfl rfl (by simp [claims]))
  | @outcomeCommit c o authzs order store current committed =>
    refine .inl (commitments_moved current (afterOutcome_calls ..) ?_ (by simp [claims]))
    unfold afterOutcome
    split
    · exact issuances_record rfl
    · rfl
  | @finalizeOverwrite c call next image store current writes written =>
    cases call with
    | finalizeMismatch | finalizeRejected =>
      cases writes
      exact .inl (commitments_moved current rfl rfl (by simp [claims]))
    | finalizeStepA order job =>
      cases writes
      by_cases claimed : order.orderID = orderID ∧ order.status ≠ .processing
      · exact .inr (commitments_stepA wf taken fresh current claimed.1 claimed.2 written)
      · refine .inl (commitments_moved current rfl rfl ?_)
        intro claimedAfter
        have same : order.orderID = orderID := of_decide_eq_true claimedAfter
        have processing : order.status = .processing := by
          by_contra other
          exact claimed ⟨same, other⟩
        simp [claims, same, processing]
    | _ => cases writes
  | @finalizeIssued c issuerID order job issuance current =>
    refine .inl ?_
    have count :=
      countP_set_add (claims orderID) (.finalizeCreate order job issuerID issuance) current
    simp only [commitments, issuances, Sys.setCall, Sys.record, List.countP_append,
      List.countP_singleton]
    by_cases same : order.orderID = orderID
    · simp only [claims, issues, same, decide_true, Bool.false_eq_true, ↓reduceIte] at count ⊢
      omega
    · simp only [claims, issues, same, decide_false, Bool.false_eq_true, ↓reduceIte] at count ⊢
      omega
  | _ => exact .inl (Nat.le_refl _)

theorem taken_step (wf : WellFormed s) (taken : Taken orderID s)
    (ok : orderly orderID s a = true) (effect : Effect env s a s') : Taken orderID s' := by
  intro committed row found
  rcases commitments_step wf taken ok effect with fewer | ⟨_, _, processing⟩
  · have before : 0 < commitments orderID s := by omega
    obtain ⟨old, foundOld⟩ := commitments_pos_row wf before
    have past := taken before old foundOld
    rcases (order_step effect _).between foundOld found with
      rfl | ⟨copy, image, pending, same, rfl⟩ | ⟨_, rfl⟩
    · exact past
    · obtain ⟨call, _, writes⟩ := nextWrite_call pending
      obtain ⟨_, notPending, readyOnly, _⟩ := pendingWrite_image writes
      have fresh := (Bool.and_eq_true_iff.mp ok).1
      have status := freshWrite_status fresh pending same foundOld
      exact ⟨notPending, fun ready => past.1 (status.trans (readyOnly ready))⟩
    · exact ⟨by simp [Store.invalidateOrder], by simp [Store.invalidateOrder]⟩
  · rw [processing row found]
    exact ⟨by decide, by decide⟩

/-- What orderly runs keep. -/
structure Single (orderID : String) (s : Sys) : Prop where
  wellFormed : WellFormed s
  bound : commitments orderID s ≤ 1
  taken : Taken orderID s
  unfinished : ∀ order result, .finalizeAnswered order result ∈ s.log → order.orderID = orderID →
    order.status ≠ .valid

theorem single_initial (initial : Initial s) : Single orderID s := by
  have wf := wellFormed_initial initial
  obtain ⟨⟨inventory, store⟩, calls, log⟩ := initial
  have none : commitments orderID s = 0 := by simp [commitments, issuances, calls, log]
  refine ⟨wf, by omega, ?_, ?_⟩
  · intro committed
    omega
  · simp [log]

theorem single_step (single : Single orderID s)
    (ok : orderly orderID s a = true) (effect : Effect env s a s') :
    Single orderID s' where
  wellFormed := wellFormed_step single.wellFormed effect
  bound := by
    have before := single.bound
    rcases commitments_step single.wellFormed single.taken ok effect with fewer | ⟨_, one, _⟩
    · omega
    · omega
  taken := taken_step single.wellFormed single.taken ok effect
  unfinished := by
    intro order result logged same
    rcases event_step effect logged with earlier | added
    · exact single.unfinished order result earlier same
    · cases added with
      | answered acts found owner =>
        subst acts
        subst same
        have entry := of_decide_eq_true (Bool.and_eq_true_iff.mp ok).2
        exact (entry rfl order found owner).1

/-- Along orderly runs the order is issued at most once. -/
theorem issuedOnce_of_orderly (env : Env) (orderID : String) {s : Sys}
    (reached : ReachableUnder (step env) Initial (fun s a => orderly orderID s a = true) s) :
    IssuedOnce orderID s := by
  have single : Single orderID s := reached.invariant (fun _ => single_initial)
    (fun _ _ _ single ok taken => single_step single ok (step_effect taken))
  refine ⟨?_, ?_⟩
  · have bound := single.bound
    unfold commitments at bound
    omega
  · intro order result logged same valid
    exact absurd valid (single.unfinished order result logged same)

/-- One account, one order of a trusting profile, one finalize call. -/
def singleRun : List Action :=
  sampleOrder "internal" "web.example" ++ [sampleFinalize "internal" "web.example",
    .finalizeOverwrite 0, .finalizeIssue 0 "iss-local" (some sampleIssuance)]

theorem issuedOnce_singleRun :
    ∃ s, ReachableUnder (step sampleEnv) Initial (fun s a => orderly "acme-ord-1" s a = true) s ∧
      issuances "acme-ord-1" s = 1 ∧ IssuedOnce "acme-ord-1" s := by
  obtain ⟨s, reached, once⟩ := exists_reachable_of_replay (step sampleEnv) (orderly "acme-ord-1")
    sampleStart_initial singleRun (fun s => issuances "acme-ord-1" s = 1) (by decide +kernel)
  exact ⟨s, reached, once, issuedOnce_of_orderly sampleEnv "acme-ord-1" reached⟩

/-- Two finalize calls of the owner that both read the order before either wrote. -/
def doubleRun : List Action :=
  sampleOrder "internal" "web.example" ++ [sampleFinalize "internal" "web.example",
    sampleFinalize "internal" "web.example", .finalizeOverwrite 0, .finalizeOverwrite 1,
    .finalizeIssue 0 "iss-local" (some sampleIssuance),
    .finalizeIssue 1 "iss-local" (some sampleIssuance)]

theorem issuedTwice_doubleRun :
    ∃ s, Reachable (step sampleEnv) Initial s ∧ issuances "acme-ord-1" s = 2 ∧
      ¬ IssuedOnce "acme-ord-1" s := by
  obtain ⟨s, reached, twice⟩ := exists_reached_of_replay (step sampleEnv) sampleStart_initial
    doubleRun (fun s => issuances "acme-ord-1" s = 2) (by decide +kernel)
  refine ⟨s, reached, twice, fun once => ?_⟩
  have bound := once.1
  omega

end Certctl.Guarantees.SingleIssuance

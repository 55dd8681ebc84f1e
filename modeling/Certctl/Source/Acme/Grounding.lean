import Certctl.Source.Acme.History

/-!
What every reachable state of the ACME server has in common. Orders and
authorizations keep their identity columns for ever, so the copies that calls hold
and the history refer to rows that are still there; and every order has an
authorization row for each of its identifiers.
-/
namespace Certctl.Source.Acme

open Lib

/-- A row with the identity columns of the copy. -/
def Store.HasOrder (st : Store) (copy : Order) : Prop :=
  ∃ row, st.orders.get? copy.orderID = some row ∧ row.accountID = copy.accountID ∧
    row.identifiers = copy.identifiers

def Store.HasAuthz (st : Store) (copy : Authorization) : Prop :=
  ∃ row, st.authzs.get? copy.authzID = some row ∧ row.orderID = copy.orderID ∧
    row.identifier = copy.identifier

/-- Rows stay, with their identity columns. -/
structure Store.Extends (st st' : Store) : Prop where
  orders : ∀ copy, st.HasOrder copy → st'.HasOrder copy
  authzs : ∀ copy, st.HasAuthz copy → st'.HasAuthz copy

variable {env : Env} {s s' : Sys} {a : Action} {id : String} {row : Authorization}

section

variable (effect : Effect env s a s')

include effect

/-- What a step does to an authorization row: nothing, its creation with its order, the
status a committing callback decided, or the expiry sweep. -/
theorem authz_step (id : String) :
    Table.RowStep (fun row => ∃ order profile mode draws,
        OrderBirth env s s' order profile mode draws ∧ row.orderID = order.orderID ∧
          row.status = mode.authzStatus)
      (fun row row' =>
        (∃ (c : Nat) (o : Outcome) (authzs : List Authorization) (order : Order),
          s.calls[c]? = some (.outcomeRead o authzs order) ∧
          a = .outcomeCommit c ∧ o.challenge.authzID = id ∧
          row' = { row with status := o.status, updatedAt := s.now }) ∨
        (Store.expiredAuthz s.now row = true ∧ row' = Store.expireAuthz s.now row))
      (s.store.authzs.get? id) (s'.store.authzs.get? id) := by
  cases effect with
  | newAccount handled =>
    obtain ⟨accounts, rfl⟩ := newAccount_ok handled
    exact .same
  | newOrder _ accepted handled =>
    have birth := newOrder_birth accepted handled
    refine .of_appended birth.rows (fun row new => ?_)
    obtain ⟨pair, _, rfl⟩ := List.mem_map.mp new
    exact ⟨_, _, _, _, birth, rfl, rfl⟩
  | respondCommit _ _ written =>
    obtain ⟨challenges, _, rfl, _⟩ := Store.updateChallenge_spec written
    exact .same
  | outcomeCommit current committed =>
    obtain ⟨_, _, _, _, rfl, found, after, _⟩ := commitOutcome_spec committed
    rw [afterOutcome_store]
    exact .of_updated found after
      (fun same => .inl ⟨_, _, _, _, current, rfl, same.symm, rfl⟩)
  | finalizeOverwrite _ _ written =>
    obtain ⟨orders, row, rfl, _, _⟩ := Store.updateOrder_spec written
    exact .same
  | finalizeStepC _ committed =>
    obtain ⟨orders, inventory, row, rfl, _⟩ := commitStepC_spec committed
    exact .same
  | gcExpireAuthorizations =>
    exact .of_updateWhere (Store.expireAuthz_authzID s.now)
      (fun _ _ expired => .inr ⟨expired, rfl⟩)
  | _ => exact .same

theorem order_survives {row : Order} (found : s.store.orders.get? id = some row) :
    ∃ row', s'.store.orders.get? id = some row' ∧ row'.accountID = row.accountID ∧
      row'.identifiers = row.identifiers := by
  obtain ⟨row', found', way⟩ := (order_step effect _).present found
  refine ⟨row', found', ?_⟩
  rcases way with rfl | ⟨copy, image, _, _, rfl⟩ | ⟨_, rfl⟩
  all_goals exact ⟨rfl, rfl⟩

theorem authz_survives (found : s.store.authzs.get? id = some row) :
    ∃ row', s'.store.authzs.get? id = some row' ∧ row'.orderID = row.orderID ∧
      row'.identifier = row.identifier := by
  obtain ⟨row', found', way⟩ := (authz_step effect _).present found
  refine ⟨row', found', ?_⟩
  rcases way with rfl | ⟨_, _, _, _, _, _, _, rfl⟩ | ⟨_, rfl⟩
  all_goals exact ⟨rfl, rfl⟩

theorem effect_extends :
    s.store.Extends s'.store where
  orders := by
    rintro copy ⟨row, found, account, identifiers⟩
    obtain ⟨row', found', account', identifiers'⟩ := order_survives effect found
    exact ⟨row', found', account'.trans account, identifiers'.trans identifiers⟩
  authzs := by
    rintro copy ⟨row, found, order, identifier⟩
    obtain ⟨row', found', order', identifier'⟩ := authz_survives effect found
    exact ⟨row', found', order'.trans order, identifier'.trans identifier⟩

end

/-- The decided challenge belongs to the authorization of the snapshot, which has a
row. -/
def Outcome.Grounded (st : Store) (o : Outcome) : Prop :=
  o.challenge.authzID = o.authz.authzID ∧ st.HasAuthz o.authz

/-- The rows a call's copies came from exist, and a finalize call's copy has the
status its position implies. -/
def Call.Grounded (st : Store) : Call → Prop
  | finalizeMismatch order _ =>
    st.HasOrder order ∧ (order.status = .ready ∨ order.status = .processing)
  | finalizeStepA order _ =>
    st.HasOrder order ∧ (order.status = .ready ∨ order.status = .processing)
  | finalizeIssue order _ => st.HasOrder order ∧ order.status = .processing
  | finalizeRejected order => st.HasOrder order ∧ order.status = .processing
  | finalizeCreate order _ _ _ => st.HasOrder order ∧ order.status = .processing
  | finalizeStepC order _ _ _ => st.HasOrder order ∧ order.status = .processing
  | respondCommit ch authz => ch.authzID = authz.authzID ∧ st.HasAuthz authz
  | validating ch authz => ch.authzID = authz.authzID ∧ st.HasAuthz authz
  | outcomeBegun o => o.Grounded st
  | outcomeListed o _ => o.Grounded st
  | outcomeRead o _ order =>
    o.Grounded st ∧ st.HasOrder order ∧ order.orderID = o.authz.orderID
  | returned => True

/-- Each identifier of the order has an authorization row. -/
def Store.Covers (st : Store) (order : Order) : Prop :=
  order.identifiers ≠ [] ∧ ∀ id ∈ order.identifiers,
    ∃ a, st.authzs.get? a.authzID = some a ∧ a.orderID = order.orderID ∧ a.identifier = id

structure WellFormed (s : Sys) : Prop where
  calls : ∀ call ∈ s.calls, call.Grounded s.store
  issued : ∀ order profile request, .issued order profile request ∈ s.log →
    s.store.HasOrder order
  covered : ∀ id order, s.store.orders.get? id = some order → s.store.Covers order
  parented : ∀ id authz, s.store.authzs.get? id = some authz →
    ∃ order, s.store.orders.get? authz.orderID = some order

variable {st : Store} {copy : Order}

theorem Store.hasOrder_of_get? {row : Order} (found : st.orders.get? id = some row) :
    st.HasOrder row :=
  ⟨row, by rw [Table.get?_key found]; exact found, rfl, rfl⟩

variable {call : Call}

theorem Call.Grounded.mono {st' : Store} (extends' : st.Extends st')
    (grounded : call.Grounded st) : call.Grounded st' := by
  have outcome {o : Outcome} (g : o.Grounded st) : o.Grounded st' :=
    ⟨g.1, extends'.authzs _ g.2⟩
  cases call with
  | finalizeMismatch | finalizeStepA | finalizeIssue | finalizeRejected | finalizeCreate
  | finalizeStepC => exact ⟨extends'.orders _ grounded.1, grounded.2⟩
  | respondCommit | validating => exact ⟨grounded.1, extends'.authzs _ grounded.2⟩
  | outcomeBegun | outcomeListed => exact outcome grounded
  | outcomeRead => exact ⟨outcome grounded.1, extends'.orders _ grounded.2.1, grounded.2.2⟩
  | returned => trivial

theorem Call.Grounded.hasOrder
    (grounded : call.Grounded st) (held : call.held = some copy) : st.HasOrder copy := by
  cases call with
  | finalizeMismatch | finalizeStepA | finalizeIssue | finalizeRejected | finalizeCreate
  | finalizeStepC =>
    cases held
    exact grounded.1
  | outcomeRead =>
    cases held
    exact grounded.2.1
  | _ => cases held

theorem Enters.grounded (wf : WellFormed s) (enters : Enters env s a s' call) :
    call.Grounded s.store := by
  cases enters with
  | responded foundAuthz =>
    have keyed := Table.get?_key foundAuthz
    exact ⟨keyed.symm, _, keyed.symm ▸ foundAuthz, rfl, rfl⟩
  | decided before =>
    obtain ⟨same, has⟩ := wf.calls _ before
    refine ⟨?_, has⟩
    unfold outcomeChallenge
    split <;> exact same
  | read before found =>
    have grounded := wf.calls _ before
    exact ⟨grounded, Store.hasOrder_of_get? found, Table.get?_key found⟩
  | mismatched found status | proceeded _ found status =>
    exact ⟨Store.hasOrder_of_get? found, status⟩
  | submitted before => exact ⟨(wf.calls _ before).1, rfl⟩
  | dispatched before | listed before | rejected before | issued before | certified before =>
    have grounded := wf.calls _ before
    exact grounded
  | returned => trivial

/-- A copy in memory is an older copy, a row just read, or the copy Step A has
changed. -/
theorem held_step (effect : Effect env s a s')
    (member : call ∈ s'.calls) (held : call.held = some copy) :
    (∃ before ∈ s.calls, before.held = some copy) ∨ s.store.orders.get? copy.orderID = some copy ∨
      ∃ order job, .finalizeStepA order job ∈ s.calls ∧ copy = processingWrite order := by
  rcases call_step effect member with stayed | enters
  · exact .inl ⟨call, stayed, held⟩
  · cases enters with
    | responded | dispatched | decided | listed | returned => cases held
    | read _ found | mismatched found =>
      cases held
      exact .inr (.inl (by rw [Table.get?_key found]; exact found))
    | proceeded _ found =>
      cases held
      exact .inr (.inl found)
    | submitted before =>
      cases held
      exact .inr (.inr ⟨_, _, before, rfl⟩)
    | rejected before | issued before | certified before => exact .inl ⟨_, before, held⟩

/-- A new order gets an authorization row for each identifier; for older orders
the rows survive. -/
theorem covered_step (wf : WellFormed s) (effect : Effect env s a s') {order : Order}
    (found : s'.store.orders.get? id = some order) : s'.store.Covers order := by
  have old {row : Order} (before : s.store.orders.get? id = some row) : s'.store.Covers order := by
    obtain ⟨row', after, _, identifiers⟩ := order_survives effect before
    cases found.symm.trans after
    obtain ⟨nonempty, each⟩ := wf.covered id row before
    refine ⟨by rw [identifiers]; exact nonempty, fun i member => ?_⟩
    obtain ⟨authz, present, owner, named⟩ := each i (identifiers ▸ member)
    obtain ⟨authz', present', owner', named'⟩ := authz_survives effect present
    have keyed := Table.get?_key present'
    refine ⟨authz', by rw [keyed]; exact present', ?_, named'.trans named⟩
    rw [owner', owner, Table.get?_key before, Table.get?_key after]
  cases before : s.store.orders.get? id with
  | some row => exact old before
  | none =>
    obtain ⟨profile, mode, draws, birth⟩ := (order_step effect _).absent before found
    refine ⟨((validateIdentifiers_nil_iff _ _).mp birth.accepted).1, fun i member => ?_⟩
    obtain ⟨authz, present, owner, named, _⟩ := birth.authz member
    exact ⟨authz, present, owner, named⟩

theorem parented_step (wf : WellFormed s) (effect : Effect env s a s') {authz : Authorization}
    (found : s'.store.authzs.get? id = some authz) :
    ∃ order, s'.store.orders.get? authz.orderID = some order := by
  cases before : s.store.authzs.get? id with
  | none =>
    obtain ⟨order, _, _, _, birth, same, _⟩ := (authz_step effect _).absent before found
    refine ⟨order, ?_⟩
    rw [Table.get?_insert birth.inserted, if_pos same]
  | some row =>
    obtain ⟨row', found', same, _⟩ := authz_survives effect before
    cases found.symm.trans found'
    obtain ⟨order, present⟩ := wf.parented id row before
    obtain ⟨order', present', _⟩ := order_survives effect present
    exact ⟨order', by rw [same]; exact present'⟩

theorem wellFormed_initial (initial : Initial s) : WellFormed s := by
  obtain ⟨⟨inventory, store⟩, calls, log⟩ := initial
  refine ⟨?_, ?_, ?_, ?_⟩
  · simp [calls]
  · simp [log]
  · simp [store, Store.initial]
  · simp [store, Store.initial]

theorem wellFormed_step (wf : WellFormed s) (effect : Effect env s a s') : WellFormed s' where
  calls := by
    intro call member
    have extends' := effect_extends effect
    rcases call_step effect member with stayed | enters
    · exact (wf.calls call stayed).mono extends'
    · exact (enters.grounded wf).mono extends'
  issued := by
    intro order profile request logged
    rcases event_step effect logged with earlier | added
    · exact (effect_extends effect).orders _ (wf.issued _ _ _ earlier)
    · cases added with
      | issued current =>
        have grounded := wf.calls _ (List.mem_of_getElem? current)
        exact (effect_extends effect).orders _ grounded.1
  covered := fun _ _ found => covered_step wf effect found
  parented := fun _ _ found => parented_step wf effect found

end Certctl.Source.Acme

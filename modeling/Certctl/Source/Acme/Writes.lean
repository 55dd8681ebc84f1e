import Certctl.Source.Acme.Effects

/-!
Writes to the order row. Every writer overwrites the row with an image computed
from the copy it holds; a write is fresh when the row still has the status of that
copy. `order_step` reduces a step to what it does to one order row.
-/
namespace Certctl.Source.Acme

open Lib

/-- The copy a call holds and the image its next transaction writes over the row. -/
def Call.pendingWrite : Call → Option (Order × Order)
  | finalizeMismatch order problem => some (order, mismatchWrite order problem)
  | finalizeStepA order _ => some (order, processingWrite order)
  | finalizeRejected order => some (order, rejectedWrite order)
  | finalizeStepC order job certID _ => some (order, validWrite order job.csrPEM certID)
  | outcomeRead o authzs order =>
    (cascadeWrite authzs o.challenge.authzID o.status order).map (fun image => (order, image))
  | _ => none

/-- The call whose transaction with an order write an action commits. -/
def Action.writes : Action → Option Nat
  | finalizeOverwrite c => some c
  | finalizeStepC c _ => some c
  | outcomeCommit c => some c
  | _ => none

/-- The copy and image of the order write an action is about to make. -/
def Sys.nextWrite (s : Sys) (a : Action) : Option (Order × Order) :=
  a.writes.bind (fun c => (s.calls[c]?).bind Call.pendingWrite)

/-- The row of `orderID`, if the action writes it, still has the status the writing
call read or last wrote. -/
def freshWrite (orderID : String) (s : Sys) (a : Action) : Bool :=
  (s.nextWrite a).all (fun (copy, _) =>
    decide (copy.orderID = orderID →
      (s.store.orders.get? orderID).all (fun row => decide (row.status = copy.status))))

/-- All that a successful new-order request changes. -/
structure OrderBirth (env : Env) (s s' : Sys) (order : Order) (profile : CertificateProfile)
    (mode : AuthMode) (draws : List IdentifierDraw) : Prop where
  inserted : s.store.orders.insert order = some s'.store.orders
  uncertified : order.certificateID = ""
  status : order.status = mode.orderStatus
  effective : effectiveAuthMode env.cfg profile = .ok mode
  accepted : validateIdentifiers env.unicode order.identifiers = []
  width : draws.length = order.identifiers.length
  rows : s'.store.authzs.rows = s.store.authzs.rows ++ (order.identifiers.zip draws).map
    (fun p => authzRow env.cfg s.now order.orderID mode p.1 p.2)
  calls : s'.calls = s.calls
  logged : s'.log = s.log ++ [.orderCreated order.orderID profile mode]

variable {image : Order} {s : Sys} {copy row order : Order} {s' : Sys} {call : Call}
  {st st' : Store}

theorem overwrite_pendingWrite {next : Call} (writes : call.overwrite = some (image, next)) :
    ∃ copy, call.held = some copy ∧ call.pendingWrite = some (copy, image) := by
  cases call with
  | finalizeMismatch order problem | finalizeStepA order job | finalizeRejected order =>
    cases writes
    exact ⟨order, rfl, rfl⟩
  | _ => cases writes

/-- No image puts an order back to `pending`, only a pending copy leads to `ready`,
and only Step C sets a certificate id. -/
theorem pendingWrite_image (pending : call.pendingWrite = some (copy, image)) :
    image.orderID = copy.orderID ∧ image.status ≠ .pending ∧
      (image.status = .ready → copy.status = .pending) ∧
      (image.certificateID = copy.certificateID ∨ image.status = .valid) := by
  cases call with
  | finalizeMismatch | finalizeStepA | finalizeRejected | finalizeStepC =>
    cases pending
    simp [mismatchWrite, processingWrite, rejectedWrite, validWrite]
  | outcomeRead o authzs order =>
    obtain ⟨written, cascade, same⟩ := Option.map_eq_some_iff.mp pending
    cases same
    obtain ⟨was, sameOrder, sameCert, _, way⟩ := cascadeWrite_eq_some cascade
    refine ⟨sameOrder, ?_, fun _ => was, .inl sameCert⟩
    rcases way with ⟨ready, _⟩ | invalid
    · simp [ready]
    · simp [invalid]
  | _ => cases pending

theorem pendingWrite_held
    (pending : call.pendingWrite = some (copy, image)) : call.held = some copy := by
  cases call with
  | finalizeMismatch | finalizeStepA | finalizeRejected | finalizeStepC =>
    cases pending
    rfl
  | outcomeRead =>
    obtain ⟨_, _, same⟩ := Option.map_eq_some_iff.mp pending
    cases same
    rfl
  | _ => cases pending

variable {a : Action}

theorem nextWrite_call (pending : s.nextWrite a = some (copy, image)) :
    ∃ call ∈ s.calls, call.pendingWrite = some (copy, image) := by
  obtain ⟨c, _, rest⟩ := Option.bind_eq_some_iff.mp pending
  obtain ⟨call, current, writes⟩ := Option.bind_eq_some_iff.mp rest
  exact ⟨call, List.mem_of_getElem? current, writes⟩

theorem freshWrite_status {orderID : String}
    (fresh : freshWrite orderID s a = true) (pending : s.nextWrite a = some (copy, image))
    (same : copy.orderID = orderID) (found : s.store.orders.get? orderID = some row) :
    row.status = copy.status := by
  simp only [freshWrite, pending, Option.all_some, decide_eq_true_eq] at fresh
  have current := fresh same
  rw [found] at current
  simpa using current

variable {id : String} {now : Time}

/-- A callback's transaction writes its challenge, its authorization's status and
possibly the order. -/
theorem commitOutcome_spec {o : Outcome} {image : Option Order}
    (committed : commitOutcome st now o image = some st') :
    ∃ orders authzs challenges authz, st' = { st with orders, authzs, challenges } ∧
      st.authzs.get? o.challenge.authzID = some authz ∧ (∀ id, authzs.get? id =
        if id = o.challenge.authzID then some { authz with status := o.status, updatedAt := now }
        else st.authzs.get? id) ∧ ((image = none ∧ orders = st.orders) ∨
        ∃ order row, image = some order ∧ st.orders.get? order.orderID = some row ∧
          ∀ id, orders.get? id =
            if id = order.orderID then some (Store.overwriteOrder now order row)
            else st.orders.get? id) := by
  simp only [commitOutcome, Option.bind_eq_bind, Option.bind_eq_some_iff] at committed
  obtain ⟨withChallenge, hChallenge, withAuthz, hAuthz, rest⟩ := committed
  obtain ⟨challenges, _, rfl, _, _⟩ := Store.updateChallenge_spec hChallenge
  obtain ⟨authzs, authz, rfl, found, after⟩ := Store.updateAuthzStatus_spec hAuthz
  cases image with
  | none =>
    cases rest
    exact ⟨st.orders, authzs, challenges, authz, rfl, found, after, .inl ⟨rfl, rfl⟩⟩
  | some order =>
    obtain ⟨orders, row, rfl, foundOrder, afterOrder⟩ := Store.updateOrder_spec rest
    exact ⟨orders, authzs, challenges, authz, rfl, found, after,
      .inr ⟨order, row, rfl, foundOrder, afterOrder⟩⟩

theorem commitStepC_spec {version : CertificateVersion}
    (committed : commitStepC st now version image = some st') :
    ∃ orders inventory row, st' = { st with orders, inventory } ∧
      st.inventory.createVersion version = some inventory ∧
      st.orders.get? image.orderID = some row ∧ ∀ id, orders.get? id =
        if id = image.orderID then some (Store.overwriteOrder now image row)
        else st.orders.get? id := by
  simp only [commitStepC, Option.bind_eq_bind, Option.bind_eq_some_iff] at committed
  obtain ⟨inventory, versioned, rest⟩ := committed
  obtain ⟨orders, row, rfl, found, after⟩ := Store.updateOrder_spec rest
  exact ⟨orders, inventory, row, rfl, versioned, found, after⟩

@[simp] theorem afterOutcome_store (s : Sys) (c : Nat) (o : Outcome) (store : Store) :
    (afterOutcome s c o store).store = store := by
  unfold afterOutcome
  split <;> rfl

@[simp] theorem afterOutcome_calls (s : Sys) (c : Nat) (o : Outcome) (store : Store) :
    (afterOutcome s c o store).calls = s.calls.set c .returned := by
  unfold afterOutcome
  split <;> rfl

variable {env : Env}

theorem newOrder_birth {account : Account} {profileID : String} {body : NewOrderRequest}
    {draw : NewOrderDraw} {created : CreatedOrder}
    (accepted : validateIdentifiers env.unicode body.identifiers = [])
    (handled : createOrder env s.store s.now account.accountID profileID body draw = .ok created) :
    OrderBirth env s ({ s with store := created.store }.record
      (.orderCreated created.order.orderID created.profile created.mode))
      created.order created.profile created.mode draw.identifiers := by
  obtain ⟨row, _, effective, width, orders, authzs, challenges, stored, inserted, rows, _⟩ :=
    createOrder_ok handled
  have identifiers : created.order.identifiers = body.identifiers := by
    rw [row]
    rfl
  rw [← identifiers] at accepted width rows
  exact {
    inserted := by simpa [Sys.record, stored] using inserted
    uncertified := by rw [row]; rfl
    status := by rw [row]; rfl
    effective := effective
    accepted := accepted
    width := width
    rows := by simpa [Sys.record, stored] using rows
    calls := rfl
    logged := rfl }

/-- What a step does to an order row: nothing, its creation by a new-order request, a
writer's image over its columns, or the expiry sweep. -/
theorem order_step (effect : Effect env s a s') (id : String) :
    Table.RowStep (fun order => ∃ profile mode draws, OrderBirth env s s' order profile mode draws)
      (fun row row' =>
        (∃ copy image, s.nextWrite a = some (copy, image) ∧ copy.orderID = id ∧
          row' = Store.overwriteOrder s.now image row) ∨
        (Store.expiredOrder s.now row = true ∧ row' = Store.invalidateOrder s.now row))
      (s.store.orders.get? id) (s'.store.orders.get? id) := by
  have named {copy image : Order} (pending : s.nextWrite a = some (copy, image))
      (same : id = image.orderID) : copy.orderID = id := by
    obtain ⟨call, _, writes⟩ := nextWrite_call pending
    rw [same, (pendingWrite_image writes).1]
  cases effect with
  | newAccount handled =>
    obtain ⟨accounts, rfl⟩ := newAccount_ok handled
    exact .same
  | newOrder _ accepted handled =>
    have birth := newOrder_birth accepted handled
    refine .of_appended (Table.insert_rows birth.inserted).1 (fun order new => ?_)
    cases List.mem_singleton.mp new
    exact ⟨_, _, _, birth⟩
  | respondCommit _ _ written =>
    obtain ⟨challenges, _, rfl, _⟩ := Store.updateChallenge_spec written
    exact .same
  | @outcomeCommit c o authzs order store current committed =>
    obtain ⟨orders, _, _, _, rfl, _, _, way⟩ := commitOutcome_spec committed
    rw [afterOutcome_store]
    rcases way with ⟨_, rfl⟩ | ⟨image, row, cascade, found, after⟩
    · exact .same
    · have pending : s.nextWrite (.outcomeCommit c) = some (order, image) := by
        simp [Sys.nextWrite, Action.writes, current, Call.pendingWrite, cascade]
      exact .of_updated found after (fun same => .inl ⟨_, _, pending, named pending same, rfl⟩)
  | @finalizeOverwrite c call next image store current writes written =>
    obtain ⟨copy, _, pending⟩ := overwrite_pendingWrite writes
    have pending : s.nextWrite (.finalizeOverwrite c) = some (copy, image) := by
      simp [Sys.nextWrite, Action.writes, current, pending]
    obtain ⟨orders, row, rfl, found, after⟩ := Store.updateOrder_spec written
    exact .of_updated found after (fun same => .inl ⟨_, _, pending, named pending same, rfl⟩)
  | @finalizeStepC c versionID order job certID issuance store current committed =>
    have pending : s.nextWrite (.finalizeStepC c versionID) =
        some (order, validWrite order job.csrPEM certID) := by
      simp [Sys.nextWrite, Action.writes, current, Call.pendingWrite]
    obtain ⟨orders, inventory, row, rfl, _, found, after⟩ := commitStepC_spec committed
    exact .of_updated found after (fun same => .inl ⟨_, _, pending, named pending same, rfl⟩)
  | gcInvalidateExpiredOrders =>
    exact .of_updateWhere (Store.invalidateOrder_orderID s.now)
      (fun _ _ expired => .inr ⟨expired, rfl⟩)
  | _ => exact .same

/-- Every identifier of a new order has its authorization row, with the status the
mode gives it. -/
theorem OrderBirth.authz {profile : CertificateProfile}
    {mode : AuthMode} {draws : List IdentifierDraw}
    (birth : OrderBirth env s s' order profile mode draws) {id : Identifier}
    (member : id ∈ order.identifiers) :
    ∃ a, s'.store.authzs.get? a.authzID = some a ∧ a.orderID = order.orderID ∧
      a.identifier = id ∧ a.status = mode.authzStatus := by
  have firsts : (order.identifiers.zip draws).map Prod.fst = order.identifiers :=
    List.map_fst_zip (Nat.le_of_eq birth.width.symm)
  rw [← firsts] at member
  obtain ⟨pair, zipped, rfl⟩ := List.mem_map.mp member
  refine ⟨authzRow env.cfg s.now order.orderID mode pair.1 pair.2, ?_, rfl, rfl, rfl⟩
  apply Table.get?_of_mem
  rw [birth.rows, List.mem_append]
  exact .inr (List.mem_map.mpr ⟨pair, zipped, rfl⟩)

end Certctl.Source.Acme

import Certctl.Guarantees.AcmeSamples
import Certctl.Source.Acme.Grounding

/-!
The authorization cascade. The validator callback decides whether its order becomes
`ready` from a list of authorizations read through the pool, outside its own
transaction. Two callbacks of one order that both list before either commits each
see the other's authorization as it was, and neither moves the order.

The cascade is not lost along the runs in which a callback lists its order's
authorizations only while no other callback of that order has a transaction open.
-/
namespace Certctl.Guarantees.AuthorizationCascade

open Lib Source.Acme

/-- A callback of the order with an open transaction. -/
def callbackOf (orderID : String) (call : Call) : Bool :=
  call.openOutcome.any (fun o => decide (o.authz.orderID = orderID))

/-- All stored authorizations of the order are valid. -/
def AllValid (st : Store) (orderID : String) : Prop :=
  ∀ a ∈ st.listAuthzsByOrder orderID, a.status = .valid

/-- The property: in a state with no callback of the order in flight, an order whose
authorizations are all valid has left `pending`. -/
def CascadeKept (orderID : String) (s : Sys) : Prop :=
  (∀ call ∈ s.calls, callbackOf orderID call = false) → AllValid s.store orderID →
    ∀ row, s.store.orders.get? orderID = some row → row.status ≠ .pending

/-- The listing callback is the only one of its order with an open transaction. -/
def exclusiveListing (orderID : String) (s : Sys) : Action → Bool
  | .outcomeList c => (s.calls[c]?).all (fun call =>
      !callbackOf orderID call || decide (s.calls.countP (callbackOf orderID) = 1))
  | _ => true

/-- A callback of the order that has made its list. -/
def holdsList (orderID : String) : Call → Bool
  | .outcomeListed o _ => decide (o.authz.orderID = orderID)
  | .outcomeRead o _ _ => decide (o.authz.orderID = orderID)
  | _ => false

variable {env : Env} {s s' : Sys} {a : Action} {orderID id : String} {o : Outcome}
  {authzs : List Authorization} {row' order : Order} {call : Call} {c : Nat} {row : Authorization}
  {st : Store}

theorem callbackOf_of_holdsList (holds : holdsList orderID call = true) :
    callbackOf orderID call = true := by
  cases call with
  | outcomeListed | outcomeRead => simpa [callbackOf, Call.openOutcome, holdsList] using holds
  | _ => cases holds

/-- The list misses no sibling that is valid by now. -/
def Faithful (st : Store) (o : Outcome) (authzs : List Authorization) : Prop :=
  authzs ≠ [] ∧ ∀ a ∈ authzs, ∃ row, st.authzs.get? a.authzID = some row ∧
    row.orderID = o.authz.orderID ∧
    (a.authzID ≠ o.challenge.authzID → row.status = .valid → a.status = .valid)

/-- What a callback of the order has read still supports its decision. -/
def Informed (orderID : String) (st : Store) : Call → Prop
  | .outcomeListed o authzs => o.authz.orderID = orderID → Faithful st o authzs
  | .outcomeRead o authzs order => o.authz.orderID = orderID → Faithful st o authzs ∧
      (order.status ≠ .pending → ∀ row, st.orders.get? orderID = some row → row.status ≠ .pending)
  | _ => True

structure Cascading (orderID : String) (s : Sys) : Prop where
  wellFormed : WellFormed s
  exclusive : s.calls.countP (holdsList orderID) ≤ 1
  informed : ∀ call ∈ s.calls, Informed orderID s.store call
  cascaded : AllValid s.store orderID →
    ∀ row, s.store.orders.get? orderID = some row → row.status ≠ .pending

/-- An order that has left `pending` never comes back to it. -/
theorem left_pending (effect : Effect env s a s') {row : Order}
    (found : s.store.orders.get? id = some row) (left : row.status ≠ .pending)
    (found' : s'.store.orders.get? id = some row') : row'.status ≠ .pending := by
  rcases (order_step effect _).between found found' with
    rfl | ⟨copy, image, pending, _, rfl⟩ | ⟨_, rfl⟩
  · exact left
  · obtain ⟨call, _, writes⟩ := nextWrite_call pending
    exact (pendingWrite_image writes).2.1
  · simp [Store.invalidateOrder]

/-- The decided authorization belongs to the order of the snapshot. -/
theorem decided_order (wf : WellFormed s)
    (current : s.calls[c]? = some (.outcomeRead o authzs order))
    (found : s.store.authzs.get? o.challenge.authzID = some row) :
    row.orderID = o.authz.orderID := by
  obtain ⟨⟨same, own, foundOwn, ownOrder, _⟩, _⟩ := wf.calls _ (List.mem_of_getElem? current)
  rw [same] at found
  cases found.symm.trans foundOwn
  exact ownOrder

theorem faithful_step (wf : WellFormed s) (effect : Effect env s a s')
    (faithful : Faithful s.store o authzs)
    (others : ∀ c o' listed order, a = .outcomeCommit c →
      s.calls[c]? = some (.outcomeRead o' listed order) → o'.authz.orderID ≠ o.authz.orderID) :
    Faithful s'.store o authzs := by
  refine ⟨faithful.1, fun a member => ?_⟩
  obtain ⟨row, found, owner, agrees⟩ := faithful.2 a member
  obtain ⟨row', found', way⟩ := (authz_step effect _).present found
  refine ⟨row', found', ?_⟩
  rcases way with rfl | ⟨c, o', listed, order, current, acts, same, rfl⟩ | ⟨_, rfl⟩
  · exact ⟨owner, agrees⟩
  · have theirs := decided_order wf current (same ▸ found)
    exact absurd (theirs.symm.trans owner) (others c o' listed order acts current)
  · exact ⟨owner, fun _ valid => by simp [Store.expireAuthz] at valid⟩

theorem faithful_list (grounded : o.Grounded st) :
    Faithful st o (st.listAuthzsByOrder o.authz.orderID) := by
  obtain ⟨_, row, found, owner, _⟩ := grounded
  refine ⟨?_, fun a member => ?_⟩
  · have keyed := Table.get?_key found
    have listed : row ∈ st.listAuthzsByOrder o.authz.orderID :=
      Store.mem_listAuthzsByOrder.mpr ⟨by rw [keyed]; exact found, owner⟩
    exact List.ne_nil_of_mem listed
  · obtain ⟨stored, sameOrder⟩ := Store.mem_listAuthzsByOrder.mp member
    exact ⟨a, stored, sameOrder, fun _ valid => valid⟩

/-- Under the discipline no list of the order exists when one is made. -/
theorem no_list_when_listing (alone : exclusiveListing orderID s (.outcomeList c) = true)
    (current : s.calls[c]? = some (.outcomeBegun o)) (same : o.authz.orderID = orderID) :
    s.calls.countP (holdsList orderID) = 0 := by
  have own : callbackOf orderID (.outcomeBegun o) = true := by
    simp [callbackOf, Call.openOutcome, same]
  have one : s.calls.countP (callbackOf orderID) = 1 := by
    simpa [exclusiveListing, current, own] using alone
  have callbacks := countP_set_add (callbackOf orderID) .returned current
  have lists := countP_set_add (holdsList orderID) .returned current
  have fewer : (s.calls.set c .returned).countP (holdsList orderID) ≤
      (s.calls.set c .returned).countP (callbackOf orderID) :=
    List.countP_mono_left (fun call _ => callbackOf_of_holdsList)
  have gone : callbackOf orderID .returned = false := rfl
  have unlisted : holdsList orderID (.outcomeBegun o) = false := rfl
  have unlisted' : holdsList orderID .returned = false := rfl
  simp only [own, gone, unlisted, unlisted', Bool.false_eq_true, ↓reduceIte] at callbacks lists
  omega

theorem AllValid.status (all : AllValid st orderID) (found : st.authzs.get? id = some row)
    (owner : row.orderID = orderID) : row.status = .valid := by
  have keyed := Table.get?_key found
  exact all row (Store.mem_listAuthzsByOrder.mpr ⟨by rw [keyed]; exact found, owner⟩)

/-- If all authorizations are valid after a step, they were before, or the step is
the commit of a callback of the order. -/
theorem allValid_before (wf : WellFormed s) (effect : Effect env s a s')
    (all : AllValid s'.store orderID) :
    AllValid s.store orderID ∨
      ∃ (c : Nat) (o : Outcome) (authzs : List Authorization) (order : Order),
        a = .outcomeCommit c ∧ s.calls[c]? = some (.outcomeRead o authzs order) ∧
        o.authz.orderID = orderID := by
  refine or_iff_not_imp_right.mpr fun notCommitting row member => ?_
  obtain ⟨found, owner⟩ := Store.mem_listAuthzsByOrder.mp member
  obtain ⟨row', found', way⟩ := (authz_step effect _).present found
  rcases way with rfl | ⟨c, o, authzs, order, current, acts, same, rfl⟩ | ⟨_, rfl⟩
  · exact all.status found' owner
  · have theirs := decided_order wf current (same ▸ found)
    exact absurd ⟨c, o, authzs, order, acts, current, theirs.symm.trans owner⟩ notCommitting
  · have impossible := all.status found' owner
    simp [Store.expireAuthz] at impossible

/-- A callback whose list is faithful and whose commit makes all authorizations
valid sees them all valid. -/
theorem sees_all_valid (wf : WellFormed s) (effect : Effect env s (.outcomeCommit c) s')
    (current : s.calls[c]? = some (.outcomeRead o authzs order))
    (faithful : Faithful s.store o authzs) (all : AllValid s'.store o.authz.orderID) :
    cascadeAllValid authzs o.challenge.authzID o.status = true := by
  cases effect with
  | outcomeCommit current' committed =>
    cases current.symm.trans current'
    obtain ⟨orders, table, challenges, own, rfl, foundOwn, after, _⟩ := commitOutcome_spec committed
    rw [afterOutcome_store] at all
    refine cascadeAllValid_iff.mpr ⟨faithful.1, fun a member => ?_⟩
    unfold assumedStatus
    split
    · have stored := after o.challenge.authzID
      rw [if_pos rfl] at stored
      have theirs := decided_order wf current foundOwn
      exact all.status stored theirs
    next sibling =>
      obtain ⟨row, found, owner, agrees⟩ := faithful.2 a member
      have stored := after a.authzID
      rw [if_neg sibling, found] at stored
      exact agrees sibling (all.status stored owner)

section Step

variable (inv : Cascading orderID s) (effect : Effect env s a s')

include inv effect

theorem exclusive_step (alone : exclusiveListing orderID s a = true) :
    s'.calls.countP (holdsList orderID) ≤ 1 := by
  have bound := inv.exclusive
  have spawned {new : Call} (none : holdsList orderID new = false) :
      (s.calls ++ [new]).countP (holdsList orderID) ≤ 1 := by
    simpa [List.countP_append, none] using bound
  have moved {c : Nat} {old new : Call} (current : s.calls[c]? = some old)
      (kept : holdsList orderID new = true → holdsList orderID old = true) :
      (s.calls.set c new).countP (holdsList orderID) ≤ 1 := by
    have count := countP_set_add (holdsList orderID) new current
    cases isNew : holdsList orderID new with
    | false => simp [isNew] at count; omega
    | true => simp [isNew, kept isNew] at count; omega
  cases effect with
  | newOrder | finalizeAnswered => exact bound
  | respondDispatch | finalizeMismatch | finalizeProceed => exact spawned rfl
  | @outcomeList c o current =>
    by_cases same : o.authz.orderID = orderID
    · have none := no_list_when_listing alone current same
      have count := countP_set_add (holdsList orderID)
        (.outcomeListed o (s.store.listAuthzsByOrder o.authz.orderID)) current
      simp only [Sys.setCall]
      split at count <;> split at count <;> omega
    · exact moved current (by simp [holdsList, same])
  | outcomeGetOrder current => exact moved current id
  | outcomeCommit current =>
    rw [afterOutcome_calls]
    exact moved current (by simp [holdsList])
  | @finalizeOverwrite c call next image store current writes =>
    refine moved current ?_
    cases call with
    | finalizeMismatch | finalizeStepA | finalizeRejected =>
      cases writes
      simp [holdsList]
    | _ => cases writes
  | respondCommit current | validated current | finalizeRejected current | finalizeIssued current
  | finalizeCreate current | finalizeStepC current | abort current =>
    exact moved current (by simp [holdsList])
  | _ => exact bound

/-- While a call holds a list of the order, no other callback of the order commits. -/
theorem no_other_commit (member : call ∈ s'.calls) (holds : holdsList orderID call = true) (c : Nat)
    (o : Outcome) (listed : List Authorization) (order : Order) (acts : a = .outcomeCommit c)
    (current : s.calls[c]? = some (.outcomeRead o listed order)) : o.authz.orderID ≠ orderID := by
  intro same
  subst acts
  cases effect with
  | outcomeCommit current' =>
    rw [afterOutcome_calls] at member
    have count := countP_set_add (holdsList orderID) .returned current
    have present : 0 < (s.calls.set c .returned).countP (holdsList orderID) :=
      List.countP_pos_iff.mpr ⟨call, member, holds⟩
    have bound := inv.exclusive
    simp [holdsList, same] at count
    omega

theorem informed_stays (stayed : call ∈ s.calls) (member : call ∈ s'.calls) :
    Informed orderID s'.store call := by
  have before := inv.informed call stayed
  cases call with
  | outcomeListed o authzs =>
    intro same
    subst same
    exact faithful_step inv.wellFormed effect (before rfl)
      (no_other_commit inv effect member (by simp [holdsList]))
  | outcomeRead o authzs order =>
    intro same
    subst same
    obtain ⟨faithful, left⟩ := before rfl
    refine ⟨faithful_step inv.wellFormed effect faithful
      (no_other_commit inv effect member (by simp [holdsList])), fun notPending row' found' => ?_⟩
    obtain ⟨_, has, named⟩ := inv.wellFormed.calls _ stayed
    obtain ⟨row, found, _⟩ := has
    rw [named] at found
    exact left_pending effect found (left notPending row found) found'
  | _ => trivial

theorem informed_step : ∀ call ∈ s'.calls, Informed orderID s'.store call := by
  intro call member
  rcases call_step effect member with stayed | enters
  · exact informed_stays inv effect stayed member
  · cases enters with
    | @listed o before =>
      have grounded := inv.wellFormed.calls _ before
      intro same
      subst same
      exact faithful_step inv.wellFormed effect (faithful_list grounded)
        (no_other_commit inv effect member (by simp [holdsList]))
    | @read o authzs order before found =>
      intro same
      subst same
      refine ⟨faithful_step inv.wellFormed effect (inv.informed _ before rfl)
        (no_other_commit inv effect member (by simp [holdsList])), fun left row' found' => ?_⟩
      exact left_pending effect found left found'
    | _ => trivial

theorem cascaded_step (all : AllValid s'.store orderID)
    (found' : s'.store.orders.get? orderID = some row') : row'.status ≠ .pending := by
  cases found : s.store.orders.get? orderID with
  | none =>
    -- a new order: trusting profiles start it at `ready`, the others with pending rows
    obtain ⟨profile, mode, draws, birth⟩ := (order_step effect _).absent found found'
    obtain ⟨nonempty, _⟩ := (validateIdentifiers_nil_iff _ _).mp birth.accepted
    obtain ⟨id, member⟩ := List.exists_mem_of_ne_nil _ nonempty
    obtain ⟨authz, stored, owner, _, status⟩ := birth.authz member
    rw [Table.get?_key found'] at owner
    have valid := all authz (Store.mem_listAuthzsByOrder.mpr ⟨stored, owner⟩)
    rw [birth.status]
    cases mode with
    | trustAuthenticated => decide
    | challenge =>
      rw [status] at valid
      cases valid
  | some row =>
    rcases allValid_before inv.wellFormed effect all with before | ⟨c, o, authzs, order, rfl, rest⟩
    · exact left_pending effect found (inv.cascaded before row found) found'
    · obtain ⟨current, rfl⟩ := rest
      obtain ⟨faithful, left⟩ := inv.informed _ (List.mem_of_getElem? current) rfl
      have seen := sees_all_valid inv.wellFormed effect current faithful all
      by_cases pending : order.status = .pending
      · cases effect with
        | outcomeCommit current' committed =>
          cases current.symm.trans current'
          obtain ⟨orders, _, _, _, rfl, _, _, way⟩ := commitOutcome_spec committed
          rw [afterOutcome_store] at found'
          have named := (inv.wellFormed.calls _ (List.mem_of_getElem? current)).2.2
          have image : cascadeWrite authzs o.challenge.authzID o.status order =
              some { order with status := .ready } := by
            simp [cascadeWrite, seen, pending]
          rcases way with ⟨nothing, _⟩ | ⟨written, old, isImage, _, after⟩
          · rw [image] at nothing
            cases nothing
          · rw [image] at isImage
            cases isImage
            rw [after, if_pos named.symm] at found'
            cases found'
            simp [Store.overwriteOrder]
      · exact left_pending effect found (left pending row found) found'

end Step

theorem cascading_initial (initial : Initial s) : Cascading orderID s := by
  have wf := wellFormed_initial initial
  obtain ⟨⟨inventory, store⟩, calls, _⟩ := initial
  exact ⟨wf, by simp [calls], by simp [calls], by simp [store, Store.initial]⟩

/-- In runs with exclusive listings no cascade is lost. -/
theorem cascadeKept_of_exclusive (env : Env) (orderID : String) {s : Sys}
    (reached : ReachableUnder (step env) Initial
      (fun s a => exclusiveListing orderID s a = true) s) :
    CascadeKept orderID s := by
  have inv : Cascading orderID s := reached.invariant (fun _ => cascading_initial)
    (fun _ _ _ inv alone taken =>
      { wellFormed := wellFormed_step inv.wellFormed (step_effect taken)
        exclusive := exclusive_step inv (step_effect taken) alone
        informed := informed_step inv (step_effect taken)
        cascaded := fun all _ found => cascaded_step inv (step_effect taken) all found })
  exact fun _ all row found => inv.cascaded all row found

/-- An order with two names of a challenge profile, both challenges answered. -/
def answeredRun : List Action :=
  [.newAccount (sampleAccount "public" "a"),
    .newOrder (sampleRequest "public" "a") (sampleNames ["a.example", "b.example"])
      (sampleDraw "1" 2),
    .respond (sampleRequest "public" "a") "acme-chall-11" true,
    .respondCommit 0,
    .respond (sampleRequest "public" "a") "acme-chall-12" true,
    .respondCommit 1]

def allValidIs (orderID : String) (status : OrderStatus) (s : Sys) : Bool :=
  s.calls.all (fun call => !callbackOf orderID call) &&
    (s.store.listAuthzsByOrder orderID).all (fun a => decide (a.status = .valid)) &&
    (s.store.orders.get? orderID).any (fun row => decide (row.status = status))

/-- The two callbacks one after the other. -/
theorem cascadeKept_in_turn :
    ∃ s, ReachableUnder (step sampleEnv) Initial
        (fun s a => exclusiveListing "acme-ord-1" s a = true) s ∧
      allValidIs "acme-ord-1" .ready s = true ∧ CascadeKept "acme-ord-1" s := by
  obtain ⟨s, reached, ready⟩ := exists_reachable_of_replay (step sampleEnv)
    (exclusiveListing "acme-ord-1") sampleStart_initial
    (answeredRun ++ [.validated 0 .passed, .outcomeList 0, .outcomeGetOrder 0, .outcomeCommit 0,
      .validated 1 .passed, .outcomeList 1, .outcomeGetOrder 1, .outcomeCommit 1])
    (fun s => allValidIs "acme-ord-1" .ready s) (by decide +kernel)
  exact ⟨s, reached, ready, cascadeKept_of_exclusive sampleEnv "acme-ord-1" reached⟩

/-- The two callbacks side by side: both list before either commits. -/
theorem cascade_lost :
    ∃ s, Reachable (step sampleEnv) Initial s ∧ ¬ CascadeKept "acme-ord-1" s := by
  obtain ⟨s, reached, stuck⟩ := exists_reached_of_replay (step sampleEnv) sampleStart_initial
    (answeredRun ++ [.validated 0 .passed, .validated 1 .passed, .outcomeList 0, .outcomeList 1,
      .outcomeGetOrder 0, .outcomeGetOrder 1, .outcomeCommit 0, .outcomeCommit 1])
    (fun s => allValidIs "acme-ord-1" .pending s) (by decide +kernel)
  refine ⟨s, reached, fun kept => ?_⟩
  simp only [allValidIs, Bool.and_eq_true, List.all_eq_true, Bool.not_eq_true',
    decide_eq_true_eq, Option.any_eq_true] at stuck
  obtain ⟨⟨quiet, valid⟩, row, found, pending⟩ := stuck
  exact kept quiet valid row found pending

end Certctl.Guarantees.AuthorizationCascade

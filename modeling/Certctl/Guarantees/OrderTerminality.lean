import Certctl.Guarantees.AcmeSamples
import Certctl.Source.Acme.Grounding

/-!
Orders stay finished. A writer overwrites the row with an image of the copy it read
earlier, in its own transaction and whatever the row says by then, so a late Step A
takes an invalid order back to `processing`.

When every overwrite of the row finds the status its writer last saw, the row moves
only along the lifecycle below, which has no way out of `valid` and `invalid`, and
the certificate id stays.

The insert of `FinalizeOrder` names no owner, team or renewal policy. Under the foreign
keys of the schema, which the inventory leaves out, it fails unless those tables have a row
with the empty id; the runs that store a certificate for an order are about tables that do.
-/
namespace Certctl.Guarantees.OrderTerminality

open Lib Source.Acme

/-- The lifecycle of an order, as a protocol object. -/
inductive Move : OrderStatus → OrderStatus → Prop where
  | authorize : Move .pending .ready
  | fail {from' : OrderStatus} (unfinished : from'.terminal = false) : Move from' .invalid
  | submit {from' : OrderStatus} (open' : from' = .ready ∨ from' = .processing) :
      Move from' .processing
  | finish : Move .processing .valid

theorem Move.not_terminal {a b : OrderStatus} (move : Move a b) : a.terminal = false := by
  cases move with
  | authorize => rfl
  | fail unfinished => exact unfinished
  | submit open' => rcases open' with rfl | rfl <;> rfl
  | finish => rfl

/-- The property, for a pair of states of one run: a finished order keeps its status
and a certificate id stays. -/
def OrderFinal (orderID : String) (s s' : Sys) : Prop :=
  ∀ row, s.store.orders.get? orderID = some row →
    ∃ row', s'.store.orders.get? orderID = some row' ∧
      (row.status.terminal = true → row'.status = row.status) ∧
      (row.certificateID ≠ "" → row'.certificateID = row.certificateID)

/-- A certificate id stands only on a valid order, in the row and in every copy. -/
structure Certified (orderID : String) (s : Sys) : Prop where
  wellFormed : WellFormed s
  row : ∀ row, s.store.orders.get? orderID = some row → row.certificateID ≠ "" →
    row.status = .valid
  copies : ∀ call ∈ s.calls, ∀ copy, call.held = some copy → copy.orderID = orderID →
    copy.certificateID ≠ "" → copy.status = .valid

/-- Seen from the copy, every write is a move of the lifecycle. -/
theorem pendingWrite_move {st : Store} {call : Call} {copy image : Order}
    (grounded : call.Grounded st) (pending : call.pendingWrite = some (copy, image)) :
    Move copy.status image.status := by
  have unfinished {status : OrderStatus} (open' : status = .ready ∨ status = .processing) :
      status.terminal = false := by
    rcases open' with rfl | rfl <;> rfl
  cases call with
  | finalizeMismatch =>
    cases pending
    exact .fail (unfinished grounded.2)
  | finalizeStepA =>
    cases pending
    exact .submit grounded.2
  | finalizeRejected =>
    cases pending
    exact .fail (unfinished (.inr grounded.2))
  | finalizeStepC =>
    cases pending
    rw [grounded.2]
    exact .finish
  | outcomeRead =>
    obtain ⟨_, cascade, same⟩ := Option.map_eq_some_iff.mp pending
    cases same
    obtain ⟨was, _, _, _, way⟩ := cascadeWrite_eq_some cascade
    rw [was]
    rcases way with ⟨ready, _⟩ | invalid
    · rw [ready]
      exact .authorize
    · rw [invalid]
      exact .fail rfl
  | _ => cases pending

variable {orderID : String} {s : Sys} {a : Action} {env : Env} {s' : Sys}

/-- Under fresh writes the row refines the lifecycle: a step leaves it alone or
makes one move. -/
theorem fresh_row_moves {row : Order} (wf : WellFormed s)
    (fresh : freshWrite orderID s a = true) (effect : Effect env s a s')
    (found : s.store.orders.get? orderID = some row) :
    ∃ row', s'.store.orders.get? orderID = some row' ∧
      (row' = row ∨ Move row.status row'.status) := by
  obtain ⟨row', found', way⟩ := (order_step effect _).present found
  refine ⟨row', found', ?_⟩
  rcases way with same | ⟨copy, image, pending, named, rfl⟩ | ⟨expired, rfl⟩
  · exact .inl same
  · obtain ⟨call, member, writes⟩ := nextWrite_call pending
    have move := pendingWrite_move (wf.calls call member) writes
    rw [← freshWrite_status fresh pending named found] at move
    exact .inr move
  · refine .inr (.fail ?_)
    simpa using (Bool.and_eq_true_iff.mp expired).1

theorem certified_row_step {row' : Order} (inv : Certified orderID s) (effect : Effect env s a s')
    (found' : s'.store.orders.get? orderID = some row') (set : row'.certificateID ≠ "") :
    row'.status = .valid := by
  cases found : s.store.orders.get? orderID with
  | none =>
    obtain ⟨_, _, _, birth⟩ := (order_step effect _).absent found found'
    exact absurd birth.uncertified set
  | some row =>
    rcases (order_step effect _).between found found' with
      rfl | ⟨copy, image, pending, named, rfl⟩ | ⟨expired, rfl⟩
    · exact inv.row row' found set
    · obtain ⟨call, member, writes⟩ := nextWrite_call pending
      have move := pendingWrite_move (inv.wellFormed.calls call member) writes
      rcases (pendingWrite_image writes).2.2.2 with kept | valid
      · have unset : copy.certificateID ≠ "" := kept ▸ set
        have status := inv.copies call member copy (pendingWrite_held writes) named unset
        have unfinished := move.not_terminal
        rw [status] at unfinished
        cases unfinished
      · exact valid
    · have status := inv.row row found set
      simp [Store.expiredOrder, status, OrderStatus.terminal] at expired

theorem certified_step (inv : Certified orderID s)
    (effect : Effect env s a s') : Certified orderID s' where
  wellFormed := wellFormed_step inv.wellFormed effect
  row := fun _ found' set => certified_row_step inv effect found' set
  copies := by
    intro call member copy held named set
    rcases held_step effect member held with ⟨before, older, heldBefore⟩ | read | stepA
    · exact inv.copies before older copy heldBefore named set
    · exact inv.row copy (named ▸ read) set
    · obtain ⟨order, job, current, rfl⟩ := stepA
      have status := inv.copies _ current order rfl named set
      have grounded := (inv.wellFormed.calls _ current).2
      rw [status] at grounded
      rcases grounded with h | h <;> cases h

theorem certified_initial (initial : Initial s) : Certified orderID s := by
  have wf := wellFormed_initial initial
  obtain ⟨⟨inventory, store⟩, calls, _⟩ := initial
  exact ⟨wf, by simp [store, Store.initial], by simp [calls]⟩

/-- One fresh step keeps a finished order and a certificate id. -/
theorem orderFinal_step (inv : Certified orderID s)
    (fresh : freshWrite orderID s a = true) (effect : Effect env s a s') :
    OrderFinal orderID s s' := by
  intro row found
  obtain ⟨row', found', way⟩ := fresh_row_moves inv.wellFormed fresh effect found
  refine ⟨row', found', ?_⟩
  rcases way with rfl | move
  · exact ⟨fun _ => rfl, fun _ => rfl⟩
  · have unfinished := move.not_terminal
    refine ⟨fun terminal => ?_, fun set => ?_⟩
    · rw [unfinished] at terminal
      cases terminal
    · rw [inv.row row found set] at unfinished
      cases unfinished

theorem OrderFinal.trans {m : Sys} (first : OrderFinal orderID s m)
    (second : OrderFinal orderID m s') : OrderFinal orderID s s' := by
  intro row found
  obtain ⟨mid, foundMid, status, certificate⟩ := first row found
  obtain ⟨row', found', status', certificate'⟩ := second mid foundMid
  refine ⟨row', found', fun terminal => ?_, fun set => ?_⟩
  · have same := status terminal
    exact (status' (same ▸ terminal)).trans same
  · have same := certificate set
    exact (certificate' (same ▸ set)).trans same

/-- In runs whose writes to the order are fresh, what is finished stays. -/
theorem orderFinal_of_fresh (env : Env) (orderID : String) {s s' : Sys}
    (reached : ReachableUnder (step env) Initial (fun s a => freshWrite orderID s a = true) s)
    (later : Later (step env) (fun s a => freshWrite orderID s a = true) s s') :
    OrderFinal orderID s s' := by
  have certified {t : Sys}
      (reached : ReachableUnder (step env) Initial (fun s a => freshWrite orderID s a = true) t) :
      Certified orderID t :=
    reached.invariant (fun _ => certified_initial)
      (fun _ _ _ inv _ taken => certified_step inv (step_effect taken))
  induction later with
  | refl => exact fun row found => ⟨row, found, fun _ => rfl, fun _ => rfl⟩
  | next before fresh taken ih =>
    have inv := certified (reached.later before)
    exact ih.trans (orderFinal_step inv fresh (step_effect taken))

/-- An order taken through to its certificate. -/
def finishedRun : List Action :=
  sampleOrder "internal" "web.example" ++ [sampleFinalize "internal" "web.example",
    .finalizeOverwrite 0, .finalizeIssue 0 "iss-local" (some sampleIssuance),
    .finalizeCreate 0 "x", .finalizeStepC 0 "v1"]

def statusIs (orderID : String) (status : OrderStatus) (s : Sys) : Bool :=
  (s.store.orders.get? orderID).any (fun row => decide (row.status = status))

theorem statusIs_iff {status : OrderStatus} :
    statusIs orderID status s = true ↔
      ∃ row, s.store.orders.get? orderID = some row ∧ row.status = status := by
  simp [statusIs, Option.any_eq_true]

theorem orderFinal_finishedRun :
    ∃ s s', ReachableUnder (step sampleEnv) Initial
        (fun s a => freshWrite "acme-ord-1" s a = true) s ∧
      statusIs "acme-ord-1" .valid s = true ∧
      Later (step sampleEnv) (fun s a => freshWrite "acme-ord-1" s a = true) s s' ∧
      OrderFinal "acme-ord-1" s s' := by
  obtain ⟨s, s', reached, later, valid⟩ := exists_later_of_replay (step sampleEnv)
    (freshWrite "acme-ord-1") sampleStart_initial finishedRun
    [.tick 100000000000000, .gcInvalidateExpiredOrders]
    (fun s _ => statusIs "acme-ord-1" .valid s) (by decide +kernel)
  exact ⟨s, s', reached, valid, later, orderFinal_of_fresh sampleEnv "acme-ord-1" reached later⟩

/-- Two finalize calls read the order as `ready`; the first, with another name in its
request, marks it invalid; the second goes on with its Step A. -/
theorem invalid_reopened :
    ∃ s s', Reachable (step sampleEnv) Initial s ∧
      Later (step sampleEnv) (fun _ _ => True) s s' ∧
      statusIs "acme-ord-1" .invalid s = true ∧ statusIs "acme-ord-1" .processing s' = true ∧
      ¬ OrderFinal "acme-ord-1" s s' := by
  obtain ⟨s, s', reached, later, invalid, processing⟩ := exists_reached_later_of_replay
    (step sampleEnv) sampleStart_initial
    (sampleOrder "internal" "web.example" ++ [sampleFinalize "internal" "other.example",
      sampleFinalize "internal" "web.example", .finalizeOverwrite 0])
    [.finalizeOverwrite 1]
    (fun s s' => statusIs "acme-ord-1" .invalid s ∧ statusIs "acme-ord-1" .processing s')
    (by decide +kernel)
  refine ⟨s, s', reached, later, invalid, processing, fun final => ?_⟩
  obtain ⟨row, found, wasInvalid⟩ := statusIs_iff.mp invalid
  obtain ⟨row', found', isProcessing⟩ := statusIs_iff.mp processing
  obtain ⟨after, foundAfter, same, _⟩ := final row found
  cases found'.symm.trans foundAfter
  have kept := same (by rw [wasInvalid]; rfl)
  rw [isProcessing, wasInvalid] at kept
  cases kept

end Certctl.Guarantees.OrderTerminality

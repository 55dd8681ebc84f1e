import Certctl.Source.Acme.Grounding

/-!
The certificate an order points to. `FinalizeOrder` creates the managed certificate
before Step C stores its version together with the order's `certificate_id`, and
nothing removes either row, so a stored certificate id always leads to a certificate
of the ACME source with at least one version.
-/
namespace Certctl.Source.Acme

open Lib

def Store.HasCertificate (st : Store) (certID : String) : Prop :=
  ∃ cert, st.inventory.get certID = some cert ∧ cert.source = .acme

/-- The certificate exists and has a version. -/
structure Store.Downloadable (st : Store) (certID : String) : Prop where
  certificate : st.HasCertificate certID
  version : ∃ v ∈ st.inventory.versions.rows, v.certificateID = certID

variable {env : Env} {s s' : Sys} {a : Action} {certID : String} {st st' : Store}

theorem inventory_extends (effect : Effect env s a s') :
    s.store.inventory.Extends s'.store.inventory := by
  cases effect with
  | newAccount handled =>
    obtain ⟨accounts, rfl⟩ := newAccount_ok handled
    exact .refl _
  | newOrder _ _ handled =>
    obtain ⟨_, _, _, _, _, _, _, stored, _⟩ := createOrder_ok handled
    simp only [Sys.record, stored]
    exact .refl _
  | respondCommit _ _ written =>
    obtain ⟨_, _, rfl, _⟩ := Store.updateChallenge_spec written
    exact .refl _
  | outcomeCommit _ committed =>
    obtain ⟨_, _, _, _, rfl, _⟩ := commitOutcome_spec committed
    rw [afterOutcome_store]
    exact .refl _
  | finalizeOverwrite _ _ written =>
    obtain ⟨_, _, rfl, _⟩ := Store.updateOrder_spec written
    exact .refl _
  | finalizeCreate _ created => exact (createCertificate_spec created).1
  | finalizeStepC _ committed =>
    obtain ⟨_, _, _, rfl, versioned, _⟩ := commitStepC_spec committed
    exact (Inventory.createVersion_spec versioned).1
  | _ => exact .refl _

theorem Store.HasCertificate.mono
    (grown : st.inventory.Extends st'.inventory) (has : st.HasCertificate certID) :
    st'.HasCertificate certID := by
  obtain ⟨cert, stored, acme⟩ := has
  exact ⟨cert, grown.certs certID cert stored, acme⟩

theorem Store.Downloadable.mono
    (grown : st.inventory.Extends st'.inventory) (has : st.Downloadable certID) :
    st'.Downloadable certID := by
  obtain ⟨v, row, named⟩ := has.version
  exact ⟨has.certificate.mono grown, v, grown.versions v row, named⟩

/-- Every certificate id in the order table or in a copy is downloadable, and Step C
has its certificate already. -/
structure Linked (s : Sys) : Prop where
  rows : ∀ id order, s.store.orders.get? id = some order → order.certificateID ≠ "" →
    s.store.Downloadable order.certificateID
  copies : ∀ call ∈ s.calls, ∀ copy, call.held = some copy → copy.certificateID ≠ "" →
    s.store.Downloadable copy.certificateID
  created : ∀ order job certID issuance, .finalizeStepC order job certID issuance ∈ s.calls →
    s.store.HasCertificate certID

/-- The image a step writes carries the certificate id of its copy, or the one whose
version the step stores with it. -/
theorem linked_image (inv : Linked s) (effect : Effect env s a s') {copy image : Order}
    (pending : s.nextWrite a = some (copy, image)) (set : image.certificateID ≠ "") :
    s'.store.Downloadable image.certificateID := by
  have grown := inventory_extends effect
  obtain ⟨c, writes, rest⟩ := Option.bind_eq_some_iff.mp pending
  obtain ⟨call, current, image'⟩ := Option.bind_eq_some_iff.mp rest
  have member := List.mem_of_getElem? current
  have kept (same : image.certificateID = copy.certificateID) :
      s'.store.Downloadable image.certificateID := by
    have held := inv.copies call member copy (pendingWrite_held image') (same ▸ set)
    rw [same]
    exact held.mono grown
  cases call with
  | finalizeMismatch | finalizeStepA | finalizeRejected =>
    cases image'
    exact kept rfl
  | outcomeRead =>
    obtain ⟨_, cascade, same⟩ := Option.map_eq_some_iff.mp image'
    cases same
    obtain ⟨_, _, sameCert, _⟩ := cascadeWrite_eq_some cascade
    exact kept sameCert
  | finalizeStepC order job certID issuance =>
    cases image'
    have certificate := (inv.created _ job certID issuance member).mono grown
    refine ⟨certificate, ?_⟩
    -- only Step C itself gets this call past its boundary with a write
    cases effect with
    | finalizeStepC current' committed =>
      cases writes
      cases current.symm.trans current'
      obtain ⟨_, _, _, rfl, versioned, _⟩ := commitStepC_spec committed
      exact ⟨_, (Inventory.createVersion_spec versioned).2, rfl⟩
    | finalizeOverwrite current' overwrites =>
      cases writes
      cases current.symm.trans current'
      cases overwrites
    | outcomeCommit current' =>
      cases writes
      cases current.symm.trans current'
    | _ => cases writes
  | _ => cases image'

theorem linked_step (inv : Linked s) (effect : Effect env s a s') : Linked s' where
  rows := by
    intro id row' found' set
    have grown := inventory_extends effect
    cases found : s.store.orders.get? id with
    | none =>
      obtain ⟨_, _, _, birth⟩ := (order_step effect _).absent found found'
      exact absurd birth.uncertified set
    | some row =>
      rcases (order_step effect _).between found found' with
        rfl | ⟨copy, image, pending, _, rfl⟩ | ⟨_, rfl⟩
      · exact (inv.rows id row' found set).mono grown
      · have linked := linked_image inv effect pending set
        exact linked
      · exact (inv.rows id row found set).mono grown
  copies := by
    intro call member copy held set
    have grown := inventory_extends effect
    rcases held_step effect member held with ⟨before, older, heldBefore⟩ | read | stepA
    · exact (inv.copies before older copy heldBefore set).mono grown
    · exact (inv.rows copy.orderID copy read set).mono grown
    · obtain ⟨order, job, current, rfl⟩ := stepA
      exact (inv.copies _ current order rfl set).mono grown
  created := by
    intro order job certID issuance member
    rcases call_step effect member with stayed | enters
    · exact (inv.created order job certID issuance stayed).mono (inventory_extends effect)
    · cases enters with
      | certified _ stored acme => exact ⟨_, stored, acme⟩

theorem linked_initial (initial : Initial s) : Linked s := by
  obtain ⟨⟨inventory, store⟩, calls, _⟩ := initial
  exact ⟨by simp [store, Store.initial], by simp [calls], by simp [calls]⟩

theorem reachable_linked (reached : Reachable (step env) Initial s) :
    Linked s :=
  reached.invariant (fun _ => linked_initial)
    (fun _ _ _ inv _ taken => linked_step inv (step_effect taken))

end Certctl.Source.Acme

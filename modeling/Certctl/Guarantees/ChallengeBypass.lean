import Certctl.Guarantees.AcmeSamples
import Certctl.Source.Acme.Grounding

/-!
No certificate without proof of control. The profile of a request comes from its
URL, at new-order and again at finalize, and nothing ties the two together: the
order row has no profile, and the `kid` check accepts the account under the URL of
any profile. An order approved on trust through one profile can be finalized
through a profile that demands challenges.

The property holds along the runs in which a finalize request through a challenge
profile names no order that was created through a trusting one.
-/
namespace Certctl.Guarantees.ChallengeBypass

open Lib Source Source.Acme

/-- A validation that returned nil has moved the authorization to `valid`. -/
def Passed (s : Sys) (authzID : String) : Prop := .authzValidated authzID ∈ s.log

/-- Each identifier of the order has an authorization that passed. -/
def Proven (s : Sys) (order : Order) : Prop :=
  ∀ id ∈ order.identifiers, ∃ a, s.store.authzs.get? a.authzID = some a ∧
    a.orderID = order.orderID ∧ a.identifier = id ∧ Passed s a.authzID

/-- The property: a state from which a finalize call obtains a certificate under a
challenge profile has the proof for every identifier. -/
def NoBypass (env : Env) (s : Sys) : Prop :=
  ∀ (c : Nat) (order : Order) (job : FinalizeJob) (issuerID : String) (issuance : Issuance)
    (s' : Sys), s.calls[c]? = some (.finalizeIssue order job) →
    step env s (.finalizeIssue c issuerID (some issuance)) = some s' →
    effectiveAuthMode env.cfg job.profile = .ok .challenge → Proven s order

/-- The order was approved on trust when it was created. -/
def trusted (s : Sys) (orderID : String) : Bool :=
  s.log.any (fun e => match e with
    | .orderCreated id _ .trustAuthenticated => decide (id = orderID)
    | _ => false)

/-- A finalize request through a challenge profile names no order approved on trust. -/
def sameMode (env : Env) (s : Sys) : Action → Bool
  | .finalize req orderID _ _ => decide (∀ profile, (boundProfile env req.profileID).toOption =
      some profile → (effectiveAuthMode env.cfg profile).toOption = some .challenge →
      trusted s orderID = false)
  | _ => true

variable {env : Env} {s s' : Sys} {a : Action} {authzs : List Authorization}
  {row order copy : Order} {orderID id : String} {o : Outcome} {c : Nat} {call : Call}
  {authz' : Authorization}

theorem trusted_iff :
    trusted s orderID = true ↔
      ∃ profile, .orderCreated orderID profile .trustAuthenticated ∈ s.log := by
  simp only [trusted, List.any_eq_true]
  constructor
  · rintro ⟨e, logged, isTrust⟩
    split at isTrust
    next id profile =>
      cases of_decide_eq_true isTrust
      exact ⟨profile, logged⟩
    next => cases isTrust
  · rintro ⟨profile, logged⟩
    exact ⟨_, logged, by simp⟩

/-- The statuses from which a finalize call goes on, or has gone on. -/
def usable : OrderStatus → Bool
  | .ready => true
  | .processing => true
  | .valid => true
  | _ => false

/-- Every stored authorization of the order has passed. -/
def AllPassed (s : Sys) (orderID : String) : Prop :=
  ∀ id a, s.store.authzs.get? id = some a → a.orderID = orderID → Passed s id

/-- A callback's list accounts for every authorization of its order. -/
def Accounted (s : Sys) (o : Outcome) (authzs : List Authorization) : Prop :=
  trusted s o.authz.orderID = false → ∀ id a, s.store.authzs.get? id = some a →
    a.orderID = o.authz.orderID → ∃ b ∈ authzs, b.authzID = id ∧ (b.status = .valid → Passed s id)

/-- What a call relies on has been proved, for orders not approved on trust. -/
def Backed (env : Env) (s : Sys) : Call → Prop
  | .finalizeStepA order job => effectiveAuthMode env.cfg job.profile = .ok .challenge →
      trusted s order.orderID = false
  | .finalizeIssue order job => effectiveAuthMode env.cfg job.profile = .ok .challenge →
      trusted s order.orderID = false
  | .outcomeListed o authzs => Accounted s o authzs
  | .outcomeRead o authzs _ => Accounted s o authzs
  | _ => True

structure Sound (env : Env) (s : Sys) : Prop where
  wellFormed : WellFormed s
  authzs : ∀ id a, s.store.authzs.get? id = some a → trusted s a.orderID = false →
    a.status = .valid → Passed s id
  rows : ∀ id row, s.store.orders.get? id = some row → trusted s id = false →
    usable row.status = true → AllPassed s id
  copies : ∀ call ∈ s.calls, ∀ copy, call.held = some copy → trusted s copy.orderID = false →
    usable copy.status = true → AllPassed s copy.orderID
  calls : ∀ call ∈ s.calls, Backed env s call

/-- Whether an existing order was approved on trust is settled. -/
theorem trusted_step (effect : Effect env s a s')
    (present : s.store.orders.get? orderID = some row) :
    trusted s' orderID = trusted s orderID := by
  rw [Bool.eq_iff_iff, trusted_iff, trusted_iff]
  constructor
  · rintro ⟨profile, logged⟩
    rcases event_step effect logged with older | added
    · exact ⟨profile, older⟩
    · cases added with
      | created birth =>
        rw [(Table.insert_rows birth.inserted).2] at present
        cases present
  · rintro ⟨profile, logged⟩
    exact ⟨profile, log_grows effect logged⟩

/-- An authorization of an existing order is not new. -/
theorem authz_not_new (effect : Effect env s a s') (found' : s'.store.authzs.get? id = some authz')
    (present : s.store.orders.get? authz'.orderID = some row) :
    ∃ authz, s.store.authzs.get? id = some authz ∧ authz.orderID = authz'.orderID := by
  cases found : s.store.authzs.get? id with
  | none =>
    obtain ⟨order, _, _, _, birth, same, _⟩ := (authz_step effect _).absent found found'
    rw [same, (Table.insert_rows birth.inserted).2] at present
    cases present
  | some authz =>
    obtain ⟨after, foundAfter, same, _⟩ := authz_survives effect found
    cases found'.symm.trans foundAfter
    exact ⟨authz, rfl, same.symm⟩

theorem allPassed_step (effect : Effect env s a s')
    (present : s.store.orders.get? orderID = some row) (passed : AllPassed s orderID) :
    AllPassed s' orderID := by
  intro id authz' found' owner
  subst owner
  obtain ⟨authz, found, same⟩ := authz_not_new effect found' present
  exact log_grows effect (passed id authz found same)

theorem commit_passed (effect : Effect env s (.outcomeCommit c) s')
    (current : s.calls[c]? = some (.outcomeRead o authzs order)) (valid : o.status = .valid) :
    Passed s' o.challenge.authzID := by
  cases effect with
  | outcomeCommit current' =>
    cases current.symm.trans current'
    simp [Passed, afterOutcome, valid, Sys.record]

/-- A usable image comes from a usable copy, or from a cascade. -/
theorem usable_image {st : Store} {image : Order}
    (grounded : call.Grounded st) (pending : call.pendingWrite = some (copy, image))
    (good : usable image.status = true) :
    usable copy.status = true ∨ ∃ o authzs, call = .outcomeRead o authzs copy ∧
      cascadeAllValid authzs o.challenge.authzID o.status = true := by
  cases call with
  | finalizeMismatch | finalizeRejected =>
    cases pending
    cases good
  | finalizeStepA =>
    cases pending
    rcases grounded.2 with h | h <;> exact .inl (by rw [h]; rfl)
  | finalizeStepC =>
    cases pending
    exact .inl (by rw [grounded.2]; rfl)
  | outcomeRead o authzs order =>
    obtain ⟨_, cascade, same⟩ := Option.map_eq_some_iff.mp pending
    cases same
    obtain ⟨_, _, _, _, way⟩ := cascadeWrite_eq_some cascade
    rcases way with ⟨_, all⟩ | invalid
    · exact .inr ⟨o, authzs, rfl, all⟩
    · rw [invalid] at good
      cases good
  | _ => cases pending

/-- Only the callback's commit writes the image of a cascade. -/
theorem cascade_commits (effect : Effect env s a s')
    (writes : a.writes = some c) (current : s.calls[c]? = some (.outcomeRead o authzs order)) :
    a = .outcomeCommit c := by
  cases effect with
  | outcomeCommit =>
    cases writes
    rfl
  | finalizeOverwrite current' overwrites =>
    cases writes
    cases current.symm.trans current'
    cases overwrites
  | finalizeStepC current' =>
    cases writes
    cases current.symm.trans current'
  | _ => cases writes

section

variable (inv : Sound env s)

include inv

theorem cascade_passed (effect : Effect env s (.outcomeCommit c) s')
    (current : s.calls[c]? = some (.outcomeRead o authzs order))
    (present : s.store.orders.get? o.authz.orderID = some row)
    (untrusted : trusted s o.authz.orderID = false)
    (all : cascadeAllValid authzs o.challenge.authzID o.status = true) :
    AllPassed s' o.authz.orderID := by
  intro id authz' found' owner
  obtain ⟨authz, found, same⟩ := authz_not_new effect found' (owner.symm ▸ present)
  have accounted := inv.calls _ (List.mem_of_getElem? current)
  obtain ⟨b, listed, rfl, passed⟩ := accounted untrusted id authz found (same.trans owner)
  have assumed := (cascadeAllValid_iff.mp all).2 b listed
  unfold assumedStatus at assumed
  split at assumed
  next own =>
    rw [own]
    exact commit_passed effect current assumed
  next => exact log_grows effect (passed assumed)

/-- A fresh list accounts for all rows of the order. -/
theorem accounted_list (o : Outcome) :
    Accounted s o (s.store.listAuthzsByOrder o.authz.orderID) := by
  intro untrusted id authz found owner
  have keyed := Table.get?_key found
  refine ⟨authz, Store.mem_listAuthzsByOrder.mpr ⟨by rw [keyed]; exact found, owner⟩, keyed, ?_⟩
  exact fun valid => inv.authzs id authz found (owner ▸ untrusted) valid

variable (effect : Effect env s a s')

include effect

theorem authzs_step (found' : s'.store.authzs.get? id = some authz')
    (untrusted : trusted s' authz'.orderID = false) (valid : authz'.status = .valid) :
    Passed s' id := by
  cases found : s.store.authzs.get? id with
  | none =>
    obtain ⟨order, profile, mode, draws, birth, same, status⟩ :=
      (authz_step effect _).absent found found'
    rw [status] at valid
    cases mode with
    | challenge => cases valid
    | trustAuthenticated =>
      have onTrust : trusted s' authz'.orderID = true := by
        rw [same]
        exact trusted_iff.mpr ⟨profile, by rw [birth.logged]; simp⟩
      rw [untrusted] at onTrust
      cases onTrust
  | some authz =>
    have way := (authz_step effect _).between found found'
    obtain ⟨order, present⟩ := inv.wellFormed.parented id authz found
    have settled := trusted_step effect present
    rcases way with rfl | ⟨c, o, authzs, order, current, rfl, same, rfl⟩ | ⟨_, rfl⟩
    · exact log_grows effect (inv.authzs id authz' found (settled ▸ untrusted) valid)
    · rw [← same]
      exact commit_passed effect current valid
    · simp [Store.expireAuthz] at valid

theorem rows_step {row' : Order}
    (found' : s'.store.orders.get? id = some row') (untrusted : trusted s' id = false)
    (good : usable row'.status = true) : AllPassed s' id := by
  cases found : s.store.orders.get? id with
  | none =>
    obtain ⟨profile, mode, draws, birth⟩ := (order_step effect _).absent found found'
    rw [birth.status] at good
    cases mode with
    | challenge => cases good
    | trustAuthenticated =>
      have onTrust : trusted s' id = true := by
        rw [← Table.get?_key found']
        exact trusted_iff.mpr ⟨profile, by rw [birth.logged]; simp⟩
      rw [untrusted] at onTrust
      cases onTrust
  | some row =>
    rw [trusted_step effect found] at untrusted
    rcases (order_step effect _).between found found' with
      rfl | ⟨copy, image, pending, named, rfl⟩ | ⟨_, rfl⟩
    · exact allPassed_step effect found (inv.rows id row' found untrusted good)
    · obtain ⟨c, writes, rest⟩ := Option.bind_eq_some_iff.mp pending
      obtain ⟨call, current, image'⟩ := Option.bind_eq_some_iff.mp rest
      have member := List.mem_of_getElem? current
      have grounded := inv.wellFormed.calls call member
      subst named
      rcases usable_image grounded image' good with usableCopy | ⟨o, authzs, rfl, all⟩
      · have held := pendingWrite_held image'
        exact allPassed_step effect found (inv.copies call member copy held untrusted usableCopy)
      · have same := grounded.2.2
        cases cascade_commits effect writes current
        rw [same] at found untrusted ⊢
        exact cascade_passed inv effect current found untrusted all
    · cases good

theorem copies_step (member : call ∈ s'.calls) (held : call.held = some copy)
    (untrusted : trusted s' copy.orderID = false) (good : usable copy.status = true) :
    AllPassed s' copy.orderID := by
  rcases held_step effect member held with ⟨before, older, heldBefore⟩ | read | stepA
  · obtain ⟨row, present, _⟩ := (inv.wellFormed.calls before older).hasOrder heldBefore
    rw [trusted_step effect present] at untrusted
    exact allPassed_step effect present (inv.copies before older copy heldBefore untrusted good)
  · rw [trusted_step effect read] at untrusted
    exact allPassed_step effect read (inv.rows _ copy read untrusted good)
  · obtain ⟨order, job, current, rfl⟩ := stepA
    obtain ⟨⟨row, present, _⟩, open'⟩ := inv.wellFormed.calls _ current
    change trusted s' order.orderID = false at untrusted
    rw [trusted_step effect present] at untrusted
    have goodOrder : usable order.status = true := by
      rcases open' with h | h <;> rw [h] <;> rfl
    exact allPassed_step effect present (inv.copies _ current order rfl untrusted goodOrder)

theorem accounted_step (grounded : o.Grounded s.store) (before : Accounted s o authzs) :
    Accounted s' o authzs := by
  obtain ⟨_, own, foundOwn, owner, _⟩ := grounded
  obtain ⟨order, present⟩ := inv.wellFormed.parented _ own foundOwn
  rw [owner] at present
  intro untrusted id authz' found' same
  rw [trusted_step effect present] at untrusted
  obtain ⟨authz, found, sameOrder⟩ := authz_not_new effect found' (same.symm ▸ present)
  obtain ⟨b, listed, named, passed⟩ := before untrusted id authz found (sameOrder.trans same)
  exact ⟨b, listed, named, fun valid => log_grows effect (passed valid)⟩

theorem backed_stays (stayed : call ∈ s.calls) : Backed env s' call := by
  have backed := inv.calls call stayed
  have grounded := inv.wellFormed.calls call stayed
  cases call with
  | finalizeStepA order job | finalizeIssue order job =>
    intro challenge
    obtain ⟨⟨row, present, _⟩, _⟩ := grounded
    rw [trusted_step effect present]
    exact backed challenge
  | outcomeListed o authzs => exact accounted_step inv effect grounded backed
  | outcomeRead o authzs order => exact accounted_step inv effect grounded.1 backed
  | _ => trivial

theorem backed_step (same : sameMode env s a = true) :
    ∀ call ∈ s'.calls, Backed env s' call := by
  intro call member
  rcases call_step effect member with stayed | enters
  · exact backed_stays inv effect stayed
  · cases enters with
    | proceeded acts found _ bound =>
      intro challenge
      subst acts
      rw [trusted_step effect found]
      exact of_decide_eq_true same _ (toOption_eq_some.mpr bound) (toOption_eq_some.mpr challenge)
    | submitted before | read before =>
      have was := backed_stays inv effect before
      exact was
    | listed before =>
      exact accounted_step inv effect (inv.wellFormed.calls _ before) (accounted_list inv _)
    | _ => trivial

end

theorem sound_initial (initial : Initial s) : Sound env s := by
  have wf := wellFormed_initial initial
  obtain ⟨⟨inventory, store⟩, calls, _⟩ := initial
  exact ⟨wf, by simp [store, Store.initial], by simp [store, Store.initial], by simp [calls],
    by simp [calls]⟩

theorem sound_step (inv : Sound env s) (same : sameMode env s a = true)
    (effect : Effect env s a s') : Sound env s' where
  wellFormed := wellFormed_step inv.wellFormed effect
  authzs := fun _ _ found untrusted valid => authzs_step inv effect found untrusted valid
  rows := fun _ _ found untrusted good => rows_step inv effect found untrusted good
  copies := fun _ member _ held untrusted good => copies_step inv effect member held untrusted good
  calls := backed_step inv effect same

/-- In runs that keep the mode, no certificate is issued without the proofs. -/
theorem noBypass_of_sameMode (env : Env) {s : Sys}
    (reached : ReachableUnder (step env) Initial (fun s a => sameMode env s a = true) s) :
    NoBypass env s := by
  have inv : Sound env s := reached.invariant (fun _ => sound_initial)
    (fun _ _ _ inv same taken => sound_step inv same (step_effect taken))
  intro c order job _ _ _ current _ challenge id named
  have member := List.mem_of_getElem? current
  obtain ⟨⟨row, present, _, identifiers⟩, processing⟩ := inv.wellFormed.calls _ member
  have untrusted := inv.calls _ member challenge
  have passed := inv.copies _ member order rfl untrusted (by rw [processing]; rfl)
  obtain ⟨_, covered⟩ := inv.wellFormed.covered _ row present
  obtain ⟨authz, found, owner, isNamed⟩ := covered id (identifiers ▸ named)
  rw [Table.get?_key present] at owner
  exact ⟨authz, found, owner, isNamed, passed authz.authzID authz found owner⟩

/-- An order of a challenge profile, its challenge answered and passed, on its way to
the issuer through the same profile. -/
def provenRun : List Action :=
  sampleOrder "public" "a.example" ++
    [.respond (sampleRequest "public" "a") "acme-chall-11" true, .respondCommit 0,
      .validated 0 .passed, .outcomeList 0, .outcomeGetOrder 0, .outcomeCommit 0,
      sampleFinalize "public" "a.example", .finalizeOverwrite 1]

/-- The account registers with the trusting profile, orders there, and finalizes
through the challenge profile with a `kid` of that profile. -/
def bypassRun : List Action :=
  sampleOrder "internal" "victim.example" ++
    [sampleFinalize "public" "victim.example", .finalizeOverwrite 0]

/-- Some call stands before the issuer with a challenge profile, and the next step
issues. -/
def issuesNext (env : Env) (c : Nat) (s : Sys) : Bool :=
  (s.calls[c]?).any (fun call => match call with
    | .finalizeIssue _ job =>
      decide ((effectiveAuthMode env.cfg job.profile).toOption = some .challenge) &&
        (step env s (.finalizeIssue c "iss-local" (some sampleIssuance))).isSome
    | _ => false)

theorem issuesNext_elim (next : issuesNext env c s = true) :
    ∃ order job s', s.calls[c]? = some (.finalizeIssue order job) ∧
      effectiveAuthMode env.cfg job.profile = .ok .challenge ∧
      step env s (.finalizeIssue c "iss-local" (some sampleIssuance)) = some s' := by
  obtain ⟨call, current, stands⟩ := (Option.any_eq_true ..).mp next
  split at stands
  next order job =>
    obtain ⟨challenge, enabled⟩ := Bool.and_eq_true_iff.mp stands
    obtain ⟨s', taken⟩ := Option.isSome_iff_exists.mp enabled
    exact ⟨order, job, s', current, toOption_eq_some.mp (of_decide_eq_true challenge), taken⟩
  next => cases stands

theorem noBypass_provenRun :
    ∃ s, ReachableUnder (step sampleEnv) Initial (fun s a => sameMode sampleEnv s a = true) s ∧
      issuesNext sampleEnv 1 s = true ∧ NoBypass sampleEnv s := by
  obtain ⟨s, reached, issues⟩ := exists_reachable_of_replay (step sampleEnv) (sameMode sampleEnv)
    sampleStart_initial provenRun (fun s => issuesNext sampleEnv 1 s) (by decide +kernel)
  exact ⟨s, reached, issues, noBypass_of_sameMode sampleEnv reached⟩

/-- An order with names, while no validation has ever passed. -/
def unproven (c : Nat) (s : Sys) : Bool :=
  (s.calls[c]?).any (fun call => call.held.any (fun order => !order.identifiers.isEmpty)) &&
    s.log.all (fun e => match e with
      | .authzValidated _ => false
      | _ => true)

theorem bypassed :
    ∃ s, Reachable (step sampleEnv) Initial s ∧ ¬ NoBypass sampleEnv s := by
  obtain ⟨s, reached, next, none⟩ := exists_reached_of_replay (step sampleEnv)
    sampleStart_initial bypassRun (fun s => issuesNext sampleEnv 0 s ∧ unproven 0 s)
    (by decide +kernel)
  obtain ⟨order, job, s', current, challenge, taken⟩ := issuesNext_elim next
  refine ⟨s, reached, fun safe => ?_⟩
  have proven := safe 0 order job _ _ s' current taken challenge
  simp only [unproven, current, Option.any_some, Call.held, Bool.and_eq_true, Bool.not_eq_true',
    List.isEmpty_eq_false_iff, List.all_eq_true] at none
  obtain ⟨id, named⟩ := List.exists_mem_of_ne_nil _ none.1
  obtain ⟨authz, _, _, _, passed⟩ := proven id named
  have absent := none.2 _ passed
  cases absent

end Certctl.Guarantees.ChallengeBypass

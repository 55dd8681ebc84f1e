import Certctl.Source.Acme.Writes

/-!
What a step adds to the two lists of the state. The history gets at most one event
(`event_step`); the pool of calls gets at most one new entry, a request or a call at
its next boundary (`call_step`). Each addition is named with its cause.
-/
namespace Certctl.Source.Acme

open Lib

/-- The request is authenticated as the account the order belongs to. -/
def ownerRequest (s : Sys) (req : SignedRequest) (row : Order) : Bool :=
  (verifyJWS s.store.accounts req).toOption.any (fun account =>
    decide (row.accountID = account.accountID))

theorem ownerRequest_of_verified {s : Sys} {req : SignedRequest} {account : Account} {row : Order}
    (verified : verifyJWS s.store.accounts req = .ok account)
    (owner : row.accountID = account.accountID) : ownerRequest s req row = true := by
  simp [ownerRequest, verified, Except.toOption, owner]

/-- The event a step adds to the history, with its cause. -/
inductive Added (env : Env) (s : Sys) (a : Action) (s' : Sys) : Event → Prop where
  | created {order : Order} {profile : CertificateProfile} {mode : AuthMode}
      {draws : List IdentifierDraw} (birth : OrderBirth env s s' order profile mode draws) :
      Added env s a s' (.orderCreated order.orderID profile mode)
  | validated {c : Nat} {o : Outcome} {authzs : List Authorization} {order : Order}
      (current : s.calls[c]? = some (.outcomeRead o authzs order)) (valid : o.status = .valid) :
      Added env s a s' (.authzValidated o.challenge.authzID)
  | issued {c : Nat} {order : Order} {job : FinalizeJob}
      (current : s.calls[c]? = some (.finalizeIssue order job)) :
      Added env s a s'
        (.issued order job.profile (issueRequest order job.profile job.csr job.csrPEM))
  | answered {req : SignedRequest} {order : Order} {csr : CertificateRequest} {csrPEM : String}
      {e : AcmeError} (acts : a = .finalize req order.orderID csr csrPEM)
      (found : s.store.orders.get? order.orderID = some order)
      (owner : ownerRequest s req order = true) :
      Added env s a s' (.finalizeAnswered order (.inl e))

variable {s s' : Sys} {a : Action} {env : Env} {e : Event}

section

variable (effect : Effect env s a s')

include effect

theorem log_effect : s'.log = s.log ∨ ∃ e, s'.log = s.log ++ [e] ∧ Added env s a s' e := by
  cases effect with
  | newOrder _ accepted handled =>
    exact .inr ⟨_, rfl, .created (newOrder_birth accepted handled)⟩
  | @outcomeCommit c o authzs order store current committed =>
    by_cases valid : o.status = .valid
    · refine .inr ⟨_, ?_, .validated current valid⟩
      simp [afterOutcome, valid, Sys.record, Sys.setCall]
    · exact .inl (by simp [afterOutcome, valid, Sys.setCall])
  | finalizeIssued current => exact .inr ⟨_, rfl, .issued current⟩
  | finalizeAnswered verified found owner =>
    have keyed := Table.get?_key found
    subst keyed
    exact .inr ⟨_, rfl, .answered rfl found (ownerRequest_of_verified verified owner)⟩
  | _ => exact .inl rfl

theorem log_grows (logged : e ∈ s.log) : e ∈ s'.log := by
  rcases log_effect effect with same | ⟨added, log, _⟩
  · rw [same]
    exact logged
  · rw [log]
    exact List.mem_append_left _ logged

theorem event_step (logged : e ∈ s'.log) : e ∈ s.log ∨ Added env s a s' e := by
  rcases log_effect effect with same | ⟨added, log, cause⟩
  · exact .inl (same ▸ logged)
  · rw [log] at logged
    rcases mem_snoc logged with older | rfl
    · exact .inl older
    · exact .inr cause

/-- The boundary a step brings into the pool, with its cause. -/
inductive Enters (env : Env) (s : Sys) (a : Action) (s' : Sys) : Call → Prop where
  | responded {ch : Challenge} {authz : Authorization}
      (foundAuthz : s.store.authzs.get? ch.authzID = some authz) :
      Enters env s a s' (.respondCommit ch authz)
  | dispatched {ch : Challenge} {authz : Authorization}
      (before : .respondCommit ch authz ∈ s.calls) :
      Enters env s a s' (.validating (dispatchWrite ch) authz)
  | decided {ch : Challenge} {authz : Authorization} {verdict : Verdict}
      (before : .validating ch authz ∈ s.calls) :
      Enters env s a s'
        (.outcomeBegun ⟨outcomeChallenge s.now ch verdict, authz, verdict.authzStatus⟩)
  | listed {o : Outcome} (before : .outcomeBegun o ∈ s.calls) :
      Enters env s a s' (.outcomeListed o (s.store.listAuthzsByOrder o.authz.orderID))
  | read {o : Outcome} {authzs : List Authorization} {order : Order}
      (before : .outcomeListed o authzs ∈ s.calls)
      (found : s.store.orders.get? o.authz.orderID = some order) :
      Enters env s a s' (.outcomeRead o authzs order)
  | mismatched {id : String} {order : Order} {problem : Problem}
      (found : s.store.orders.get? id = some order)
      (status : order.status = .ready ∨ order.status = .processing) :
      Enters env s a s' (.finalizeMismatch order problem)
  | proceeded {req : SignedRequest} {order : Order} {csr : CertificateRequest} {csrPEM : String}
      {profile : CertificateProfile} (acts : a = .finalize req order.orderID csr csrPEM)
      (found : s.store.orders.get? order.orderID = some order)
      (status : order.status = .ready ∨ order.status = .processing)
      (bound : boundProfile env req.profileID = .ok profile) :
      Enters env s a s' (.finalizeStepA order ⟨profile, csr, csrPEM⟩)
  | submitted {order : Order} {job : FinalizeJob} (before : .finalizeStepA order job ∈ s.calls) :
      Enters env s a s' (.finalizeIssue (processingWrite order) job)
  | rejected {order : Order} {job : FinalizeJob} (before : .finalizeIssue order job ∈ s.calls) :
      Enters env s a s' (.finalizeRejected order)
  | issued {order : Order} {job : FinalizeJob} {issuerID : String} {issuance : Issuance}
      (before : .finalizeIssue order job ∈ s.calls) :
      Enters env s a s' (.finalizeCreate order job issuerID issuance)
  | certified {order : Order} {job : FinalizeJob} {issuerID certID : String} {issuance : Issuance}
      {cert : ManagedCertificate} (before : .finalizeCreate order job issuerID issuance ∈ s.calls)
      (stored : s'.store.inventory.get certID = some cert) (acme : cert.source = .acme) :
      Enters env s a s' (.finalizeStepC order job certID issuance)
  | returned : Enters env s a s' .returned

theorem call_step {call : Call} (member : call ∈ s'.calls) :
    call ∈ s.calls ∨ Enters env s a s' call := by
  have spawned {new : Call} (among : call ∈ s.calls ++ [new]) (cause : Enters env s a s' new) :
      call ∈ s.calls ∨ Enters env s a s' call := by
    rcases mem_snoc among with stayed | rfl
    · exact .inl stayed
    · exact .inr cause
  have moved {c : Nat} {new : Call} (among : call ∈ s.calls.set c new)
      (cause : Enters env s a s' new) : call ∈ s.calls ∨ Enters env s a s' call := by
    rcases List.mem_or_eq_of_mem_set among with stayed | rfl
    · exact .inl stayed
    · exact .inr cause
  cases effect with
  | respondDispatch _ _ foundAuthz => exact spawned member (.responded foundAuthz)
  | respondCommit current => exact moved member (.dispatched (List.mem_of_getElem? current))
  | validated current => exact moved member (.decided (List.mem_of_getElem? current))
  | outcomeList current => exact moved member (.listed (List.mem_of_getElem? current))
  | outcomeGetOrder current found =>
    exact moved member (.read (List.mem_of_getElem? current) found)
  | outcomeCommit =>
    rw [afterOutcome_calls] at member
    exact moved member .returned
  | finalizeMismatch _ found _ status => exact spawned member (.mismatched found status)
  | finalizeProceed _ found _ status _ bound =>
    have keyed := Table.get?_key found
    subst keyed
    exact spawned member (.proceeded rfl found status bound)
  | @finalizeOverwrite c old next image store current writes =>
    cases old with
    | finalizeMismatch | finalizeRejected =>
      cases writes
      exact moved member .returned
    | finalizeStepA =>
      cases writes
      exact moved member (.submitted (List.mem_of_getElem? current))
    | _ => cases writes
  | finalizeRejected current => exact moved member (.rejected (List.mem_of_getElem? current))
  | finalizeIssued current => exact moved member (.issued (List.mem_of_getElem? current))
  | finalizeCreate current created =>
    have stored := (createCertificate_spec created).2
    exact moved member (.certified (List.mem_of_getElem? current) stored rfl)
  | finalizeStepC => exact moved member .returned
  | abort => exact moved member .returned
  | _ => exact .inl member

end

end Certctl.Source.Acme

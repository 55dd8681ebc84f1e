import Certctl.Source.Acme.NonceSystem

/-!
Nonces over whole runs: what was issued once is accepted at most once, and the second way
through revoke-cert comes too late, because the first one has used the nonce up. Random
draws are taken to be new; without that an acceptance is still backed by an issue each.
-/
namespace Certctl.Guarantees.NonceDiscipline

open Lib Source.Acme

/-- The random bytes of a new nonce have not been drawn before. -/
def freshDraw (s : NonceSys) : NonceAct → Bool
  | .issueNonce nonce _ => decide (nonce ∉ s.issued)
  | _ => true

section Balance

variable {env : NonceEnv} {s s' : NonceSys}

/-- No step makes more of a nonce than is issued with it. -/
theorem balance_step {a : NonceAct} (taken : nonceStep env s a = some s') (n : String)
    (balanced : s.spentOrOpen n ≤ s.issued.count n) : s'.spentOrOpen n ≤ s'.issued.count n := by
  have moved := fun c call phase (current : s.calls[c]? = some call) =>
    countP_set_add (VerifyCall.holds n) { call with phase := phase } current
  unfold NonceSys.spentOrOpen at balanced ⊢
  cases nonceStep_effect taken with
  | quiet calls accepted issued fewer =>
    have fewer := Bool.toNat_le_toNat (fewer n)
    rw [calls, accepted, issued]
    omega
  | @issued nonce _ _ added =>
    dsimp only
    rw [Nonces.unused_issue added, List.count_append, List.count_singleton]
    by_cases same : nonce = n
    · subst same
      have absent : s.nonces.unused nonce = false := by
        rw [Nonces.unused, (Table.insert_rows added).2]
        rfl
      simp at balanced ⊢
      omega
    · rw [if_neg (Ne.symm same)]
      omega
  | arrived => simpa [VerifyCall.holds] using balanced
  | @ended _ c call nonces phase current way fewer =>
    have free : VerifyCall.holds n { call with phase := phase } = false := by
      rcases way with ⟨e, rfl⟩ | ⟨new, -, -, e, -, rfl⟩
      · rfl
      · exact holds_afterError n call new e
    have counts := moved c call phase current
    have fewer := Bool.toNat_le_toNat (fewer n)
    rw [free] at counts
    simp only [NonceSys.move, Bool.false_eq_true, if_false] at counts ⊢
    omega
  | @consumed _ c call new jws sig current phase _ met =>
    have idle : call.holds n = false := by rw [VerifyCall.holds, phase]
    have counts := moved c call (.resolving new jws sig) current
    have fewer : ((s.nonces.consume s.now sig.nonce).1.unused n).toNat ≤
        (s.nonces.unused n).toNat := Bool.toNat_le_toNat Nonces.unused_consume
    obtain ⟨before, after⟩ := Nonces.consume_met met
    rw [idle] at counts
    simp only [NonceSys.move, VerifyCall.holds, decide_eq_true_eq] at counts ⊢
    by_cases same : sig.nonce = n
    · subst same
      rw [before] at balanced
      simp [after] at counts balanced ⊢
      omega
    · simp [same] at counts
      omega
  | @resolved _ c call new jws sig _ v current phase _ =>
    have held : call.holds n = decide (sig.nonce = n) := by rw [VerifyCall.holds, phase]
    have counts := moved c call (.verified v) current
    have settled : ({ call with phase := .verified v } : VerifyCall).holds n = false := rfl
    rw [settled, held] at counts
    dsimp only [NonceSys.move]
    rw [List.count_append, List.count_singleton]
    simp only [Bool.false_eq_true, if_false, decide_eq_true_eq, beq_iff_eq] at counts ⊢
    omega

/-- In every run each acceptance of a nonce is backed by an issue of its own. -/
theorem accepted_le_issued (reached : Reachable (nonceStep env) NonceSys.Initial s) (n : String) :
    s.accepted.count n ≤ s.issued.count n := by
  have balanced : s.spentOrOpen n ≤ s.issued.count n := by
    refine ReachableUnder.invariant (I := fun s => s.spentOrOpen n ≤ s.issued.count n) ?_ ?_ reached
    · rintro s ⟨nonces, calls, issued, accepted⟩
      simp [NonceSys.spentOrOpen, nonces, calls, accepted, Nonces.unused]
    · exact fun s a s' balanced _ taken => balance_step taken n balanced
  unfold NonceSys.spentOrOpen at balanced
  omega

end Balance

section Spent

variable {env : NonceEnv} {s s' : NonceSys}

/-- The nonce was issued and can no longer be redeemed. -/
def Spent (s : NonceSys) (n : String) : Prop := n ∈ s.issued ∧ s.nonces.unused n = false

variable {call : VerifyCall} {new : Bool} {sig : JwsSignature} {c : Nat} {n : String} {jws : Jws}
  {a : NonceAct} {e : JwsError}

/-- With new draws a spent nonce stays spent. -/
theorem spent_step (fresh : freshDraw s a = true)
    (taken : nonceStep env s a = some s') (spent : Spent s n) : Spent s' n := by
  have gone : ∀ {nonces : Nonces}, (∀ n, nonces.unused n = true → s.nonces.unused n = true) →
      nonces.unused n = false :=
    fun fewer => Bool.eq_false_iff.mpr fun stays => Bool.eq_false_iff.mp spent.2 (fewer n stays)
  cases nonceStep_effect taken with
  | quiet _ _ issued fewer => exact ⟨issued ▸ spent.1, gone fewer⟩
  | @issued nonce _ _ added =>
    have different : n ≠ nonce := by
      rintro rfl
      exact of_decide_eq_true fresh spent.1
    refine ⟨List.mem_append_left _ spent.1, ?_⟩
    rw [Nonces.unused_issue added, if_neg different, spent.2]
  | arrived => exact spent
  | ended _ _ fewer => exact ⟨spent.1, gone fewer⟩
  | consumed => exact ⟨spent.1, gone fun _ => Nonces.unused_consume⟩
  | resolved => exact spent

/-- What a request has been through: a held nonce is spent, and so is the nonce of a
second attempt; a revoke-cert request that got through did so with its first attempt. -/
def CallSound (s : NonceSys) (call : VerifyCall) : Prop :=
  match call.phase with
  | .checking new => call.endpoint = .revokeCert → new = true →
    ∃ jws sig, checkHeader call.request.body call.request.requestURL = .ok (jws, sig) ∧
      Spent s sig.nonce
  | .resolving new jws sig =>
    checkHeader call.request.body call.request.requestURL = .ok (jws, sig) ∧ Spent s sig.nonce ∧
      (call.endpoint = .revokeCert → new = false)
  | .refused _ => True
  | .verified _ => call.endpoint = .revokeCert →
    ∃ jws sig, checkHeader call.request.body call.request.requestURL = .ok (jws, sig) ∧
      sig.jwk = none

theorem CallSound.mono (sound : CallSound s call) (kept : ∀ n, Spent s n → Spent s' n) :
    CallSound s' call := by
  unfold CallSound at sound ⊢
  split
  next new phase =>
    rw [phase] at sound
    intro endpoint second
    obtain ⟨jws, sig, header, spent⟩ := sound endpoint second
    exact ⟨jws, sig, header, kept _ spent⟩
  next new jws sig phase =>
    rw [phase] at sound
    exact ⟨sound.1, kept _ sound.2.1, sound.2.2⟩
  · trivial
  next v phase =>
    rw [phase] at sound
    exact sound

theorem checkKeyPolicy_first (passed : checkKeyPolicy false sig = .ok ()) : sig.jwk = none := by
  obtain ⟨-, -, passed⟩ := bind_eq_ok.mp passed
  obtain ⟨-, -, passed⟩ := bind_eq_ok.mp passed
  obtain ⟨-, -, passed⟩ := bind_eq_ok.mp passed
  simpa using passed

theorem sound_afterError
    (header : checkHeader call.request.body call.request.requestURL = .ok (jws, sig))
    (spent : Spent s sig.nonce) : CallSound s { call with phase := call.afterError new e } := by
  unfold CallSound VerifyCall.afterError
  split
  next second phase =>
    intro _ _
    exact ⟨jws, sig, header, spent⟩
  next phase => split at phase <;> cases phase
  · trivial
  next phase => split at phase <;> cases phase

/-- After a move of one call all calls are sound if the moved one is. -/
theorem sound_of_move {new : VerifyCall} (kept : ∀ n, Spent s n → Spent s' n)
    (sound : ∀ call ∈ s.calls, CallSound s call) (moved : s'.calls = s.calls.set c new)
    (here : CallSound s' new) : ∀ call ∈ s'.calls, CallSound s' call := by
  intro call member
  rw [moved] at member
  rcases List.mem_or_eq_of_mem_set member with old | rfl
  · exact (sound call old).mono kept
  · exact here

theorem sound_step (fresh : freshDraw s a = true)
    (taken : nonceStep env s a = some s') (balanced : ∀ n, s.spentOrOpen n ≤ s.issued.count n)
    (sound : ∀ call ∈ s.calls, CallSound s call) : ∀ call ∈ s'.calls, CallSound s' call := by
  have kept : ∀ n, Spent s n → Spent s' n := fun n => spent_step fresh taken
  have unmoved : s'.calls = s.calls → ∀ call ∈ s'.calls, CallSound s' call :=
    fun same call member => (sound call (same ▸ member)).mono kept
  have own : ∀ {c call}, s.calls[c]? = some call → CallSound s call :=
    fun current => sound _ (List.mem_of_getElem? current)
  unfold CallSound at own
  cases nonceStep_effect taken with
  | quiet calls => exact unmoved calls
  | issued => exact unmoved rfl
  | arrived =>
    refine forall_mem_snoc (fun call old => (sound call old).mono kept) ?_
    -- revoke-cert starts with its first attempt
    intro revoke second
    cases revoke
    cases second
  | ended current way =>
    refine sound_of_move kept sound rfl ?_
    rcases way with ⟨e, rfl⟩ | ⟨new, jws, sig, e, phase, rfl⟩
    · trivial
    · have before := own current
      rw [phase] at before
      exact sound_afterError before.1 (kept _ before.2.1)
  | @consumed _ c call new jws sig current phase header met =>
    obtain ⟨unused, used⟩ := Nonces.consume_met met
    have issued : sig.nonce ∈ s.issued := by
      have count := balanced sig.nonce
      unfold NonceSys.spentOrOpen at count
      rw [unused] at count
      apply List.count_pos_iff.mp
      simp only [Bool.toNat_true] at count
      omega
    refine sound_of_move kept sound rfl ⟨header, ⟨issued, used⟩, fun revoke => ?_⟩
    cases new with
    | false => rfl
    | true =>
      have before := own current
      rw [phase] at before
      obtain ⟨jws', sig', header', spent⟩ := before revoke rfl
      rw [header] at header'
      cases header'
      -- a spent nonce is not consumed again
      exact absurd unused (Bool.eq_false_iff.mp spent.2)
  | @resolved _ c call new jws sig _ v current phase passed =>
    have before := own current
    rw [phase] at before
    refine sound_of_move kept sound rfl fun revoke => ⟨jws, sig, before.1, ?_⟩
    rw [before.2.2 revoke] at passed
    obtain ⟨_, policy, _⟩ := bind_eq_ok.mp passed
    exact checkKeyPolicy_first policy

end Spent

section Runs

variable {env : NonceEnv} {s : NonceSys}

theorem issued_nodup (reached : ReachableUnder (nonceStep env) NonceSys.Initial
    (fun s a => freshDraw s a = true) s) : s.issued.Nodup := by
  refine ReachableUnder.invariant (I := fun s => s.issued.Nodup) ?_ ?_ reached
  · rintro s ⟨-, -, issued, -⟩
    rw [issued]
    exact List.nodup_nil
  · intro s a s' distinct fresh taken
    cases nonceStep_effect taken with
    | quiet _ _ issued =>
      rw [issued]
      exact distinct
    | issued =>
      refine (List.perm_append_singleton _ _).nodup_iff.mpr (List.nodup_cons.mpr ⟨?_, distinct⟩)
      exact of_decide_eq_true fresh
    | arrived | ended | consumed | resolved => exact distinct

theorem calls_sound (reached : ReachableUnder (nonceStep env) NonceSys.Initial
    (fun s a => freshDraw s a = true) s) : ∀ call ∈ s.calls, CallSound s call := by
  have both := ReachableUnder.invariant
    (I := fun s => (∀ n, s.spentOrOpen n ≤ s.issued.count n) ∧ ∀ call ∈ s.calls, CallSound s call)
    ?_ ?_ reached
  · exact both.2
  · rintro s ⟨nonces, calls, issued, accepted⟩
    refine ⟨fun n => ?_, fun call member => ?_⟩
    · simp [NonceSys.spentOrOpen, nonces, calls, accepted, Nonces.unused]
    · rw [calls] at member
      cases member
  · rintro s a s' ⟨balanced, sound⟩ fresh taken
    exact ⟨fun n => balance_step taken n (balanced n), sound_step fresh taken balanced sound⟩

/-- A well-formed revoke-cert request that carries the key of the certificate and is signed
with it. -/
structure OwnKeyRequest (request : Inbound) (leaf : PresentedCertificate) (jws : Jws)
    (sig : JwsSignature) : Prop where
  body : request.body = .ok jws
  single : jws.signatures = [sig]
  algorithm : sig.algorithm ∈ allowedSignatureAlgorithms
  typ : sig.typ = none ∨ sig.typ = some (.text "application/jose+json")
  url : sig.url = some (.text request.requestURL) ∧ request.requestURL ≠ ""
  nonce : sig.nonce ≠ ""
  noKid : sig.keyID = ""
  jwk : sig.jwk = some ⟨leaf.publicKey, true⟩
  signed : jws.signedBy = some leaf.publicKey

theorem OwnKeyRequest.header {request : Inbound} {leaf : PresentedCertificate} {jws : Jws}
    {sig : JwsSignature} (own : OwnKeyRequest request leaf jws sig) :
    checkHeader request.body request.requestURL = .ok (jws, sig) := by
  have parsed : parseSigned request.body = .ok jws := by
    rw [own.body]
    refine bind_eq_ok.mpr ⟨jws, rfl, bind_eq_ok.mpr ⟨(), ?_, rfl⟩⟩
    rw [ensure_eq_ok, own.single]
    intro other member
    rw [List.mem_singleton.mp member]
    exact own.algorithm
  have typ : checkType sig.typ = .ok () := by
    rcases own.typ with absent | registered
    · rw [absent]
      rfl
    · rw [registered]
      exact ensure_eq_ok.mpr (.inl rfl)
  have url : checkURL request.requestURL sig.url = .ok () := by
    rw [own.url.1]
    exact bind_eq_ok.mpr ⟨(), ensure_eq_ok.mpr own.url.2, ensure_eq_ok.mpr rfl⟩
  refine bind_eq_ok.mpr ⟨jws, by rw [parsed]; rfl, ?_⟩
  rw [own.single]
  refine bind_eq_ok.mpr ⟨(), ensure_eq_ok.mpr own.algorithm, bind_eq_ok.mpr ⟨(), typ, ?_⟩⟩
  exact bind_eq_ok.mpr ⟨(), url, bind_eq_ok.mpr ⟨(), ensure_eq_ok.mpr own.nonce, rfl⟩⟩

/-- In every run no nonce is accepted twice, and no revoke-cert request that is signed with
the key of the certificate gets through. -/
theorem accepted_once_own_key_never (reached : ReachableUnder (nonceStep env) NonceSys.Initial
    (fun s a => freshDraw s a = true) s) :
    (∀ n, s.accepted.count n ≤ 1) ∧
    ∀ request phase, ⟨request, .revokeCert, phase⟩ ∈ s.calls →
      ∀ leaf jws sig, OwnKeyRequest request leaf jws sig → ∀ v, phase ≠ .verified v := by
  refine ⟨fun n => ?_, fun request phase member leaf jws sig own v passed => ?_⟩
  · calc s.accepted.count n ≤ s.issued.count n := accepted_le_issued reached.unrestricted n
      _ ≤ 1 := List.nodup_iff_count_le_one.mp (issued_nodup reached) n
  · have sound := calls_sound reached _ member
    rw [passed] at sound
    obtain ⟨jws', sig', header, noKey⟩ := sound rfl
    rw [own.header] at header
    cases header
    rw [own.jwk] at noKey
    cases noKey

end Runs

section Instances

def leafKey : JWK := ⟨some "leaf"⟩

def leaf : PresentedCertificate := ⟨"iss", 7, leafKey⟩

def ownSignature : JwsSignature :=
  ⟨"ES256", none, some (.text "https://ca/acme/revoke-cert"), "n", "", some ⟨leafKey, true⟩⟩

def ownJws : Jws := ⟨[ownSignature], [], some leafKey⟩

def ownRequest : Inbound := ⟨"https://ca", "/acme/revoke-cert", "", .ok ownJws⟩

theorem ownRequest_own : OwnKeyRequest ownRequest leaf ownJws ownSignature where
  body := rfl
  single := rfl
  algorithm := by decide
  typ := .inl rfl
  url := by decide
  nonce := by decide
  noKid := rfl
  jwk := rfl
  signed := rfl

def quietEnv : NonceEnv := ⟨10, fun _ => .error "no key"⟩

def emptySys : NonceSys :=
  ⟨0, Table.empty NonceRow.nonce, Table.empty Account.accountID, [], [], []⟩

/-- A nonce is issued and the request presents it, once. -/
def presented : List NonceAct := [.issueNonce "n" 0, .arrive ownRequest .revokeCert]

def bothAttempts : List NonceAct := [.consume 0 none, .resolve 0 none, .consume 0 none]

theorem emptySys_initial : emptySys.Initial := ⟨rfl, rfl, rfl, rfl⟩

/-- A nonce is accepted for a new account, then presented again with revoke-cert. -/
theorem accepted_once_presentedRun : ∃ s : NonceSys, s.accepted.count "n" = 1 ∧
    ∃ phase, ⟨ownRequest, .revokeCert, phase⟩ ∈ s.calls ∧ ∀ v, phase ≠ .verified v := by
  obtain ⟨s, reached, accepted, checking⟩ := exists_reachable_of_replay (nonceStep quietEnv)
    freshDraw emptySys_initial
    [.issueNonce "n" 0, .arrive ownRequest .newAccount, .consume 0 none, .resolve 0 none,
      .arrive ownRequest .revokeCert]
    (fun s => s.accepted = ["n"] ∧ ⟨ownRequest, .revokeCert, .checking false⟩ ∈ s.calls)
    (by decide +kernel)
  obtain ⟨once, never⟩ := accepted_once_own_key_never reached
  refine ⟨s, Nat.le_antisymm (once "n") (by rw [accepted]; decide), _, checking, ?_⟩
  exact never _ _ checking leaf ownJws ownSignature ownRequest_own

/-- A request with the certificate's own key presents an issued, unexpired and unused nonce
and is refused for its nonce. -/
theorem own_key_refused_ownRun : OwnKeyRequest ownRequest leaf ownJws ownSignature ∧
    ∃ m s, ReachableUnder (nonceStep quietEnv) NonceSys.Initial
        (fun t a => freshDraw t a = true) m ∧
      Later (nonceStep quietEnv) (fun t a => freshDraw t a = true) m s ∧
      m.calls = [⟨ownRequest, .revokeCert, .checking false⟩] ∧
      m.nonces.rows.any (Nonces.redeemable m.now "n") = true ∧
      s.calls = [⟨ownRequest, .revokeCert,
        .refused (.badNonce "sql: no rows in result set")⟩] := by
  exact ⟨ownRequest_own, exists_later_of_replay (nonceStep quietEnv) freshDraw emptySys_initial
    presented bothAttempts _ (by decide +kernel)⟩

end Instances

end Certctl.Guarantees.NonceDiscipline

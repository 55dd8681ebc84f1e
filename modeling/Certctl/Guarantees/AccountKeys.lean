import Certctl.Guarantees.AcmeSamples
import Certctl.Source.Acme.Accounts

/-!
Account keys over whole runs. The identifier of an account comes from the key it was
registered with, and rollover checks only the key the account has now. So the insert of a
key that is free in its profile can meet the identifier of an account that has moved on or
sits in another profile, and a rollover that waited can find its old key restored. Where
neither happens, keys are exclusive, each key is left once, and registration succeeds.
-/
namespace Certctl.Guarantees.AccountKeys

open Lib Source.Acme

variable {κ : Type}

/-- The insert of a key that is free in its profile finds its identifier free, and a
rollover goes to a key the account has never had. -/
def freshWrite (s : AccountSys κ) : AccountAct κ → Bool
  | .write c _ =>
    match s.calls[c]? with
    | some (.newAccount _ (.inserting acct)) =>
      (s.accounts.byThumbprint acct.profileID acct.jwkThumbprint).isSome ||
        (s.accounts.table.get? acct.accountID).isNone
    | some (.rotateAccountKey _ _ (.swapping old thumb _)) =>
      decide ((old.accountID, thumb) ∉ s.held)
    | _ => true
  | _ => true

/-- No two accounts of a profile have the same key. -/
def KeysExclusive (s : AccountSys κ) : Prop :=
  ∀ a ∈ s.accounts.table.rows, ∀ b ∈ s.accounts.table.rows,
    a.profileID = b.profileID → a.jwkThumbprint = b.jwkThumbprint → a = b

/-- Of the rollovers of an account from one key at most one succeeds, and it returns the
account it was asked for. -/
def RolledOnce (s : AccountSys κ) : Prop :=
  (∀ accountID thumb, s.rolled.count (accountID, thumb) ≤ 1) ∧
  ∀ old jwk acct, .rotateAccountKey (some old) jwk (.returned (.ok acct)) ∈ s.calls →
    acct.accountID = old.accountID

/-- Accounts stay, in their order and under their identifiers. -/
def IdentifiersKept (s s' : AccountSys κ) : Prop :=
  s.accounts.table.rows.map Account.accountID <+: s'.accounts.table.rows.map Account.accountID

/-- A registration that may create, of a key no account of the profile has, passes its
lookup, and its insert succeeds with a new account. -/
def RegistersFree (e : AccountEnv κ) (ok : AccountSys κ → AccountAct κ → Prop)
    (s : AccountSys κ) : Prop :=
  (∀ c req profileID thumb pem allowed, s.calls[c]? = some (.newAccount req .looking) →
    req.onlyReturnExisting = false → e.env.tx ∧ e.env.auditService →
    resolveProfile e.env req.profileID = .ok profileID →
    e.keys.thumbprint req.jwk = .ok thumb → e.keys.pem req.jwk = .ok pem →
    s.accounts.byThumbprint profileID thumb = none →
    accountStep e s (.look c allowed none) = some (s.move c (.newAccount req
      (.inserting ⟨accountIDOf thumb, thumb, pem, req.contact, .valid, profileID⟩)))) ∧
  ∀ c req acct, s.calls[c]? = some (.newAccount req (.inserting acct)) →
    s.accounts.byThumbprint acct.profileID acct.jwkThumbprint = none → ok s (.write c none) →
    ∃ s', accountStep e s (.write c none) = some s' ∧
      s'.calls[c]? = some (.newAccount req (.returned (.ok (acct, true)))) ∧
      s'.accounts.table.rows = s.accounts.table.rows ++ [acct]

/-- What a call may hold: an account to insert has its fields, a swap is of the account the
caller gave, and so is what a rollover returned. -/
def CallSound : AccountCall κ → Prop
  | .newAccount _ (.inserting acct) => Accounts.missingField acct = false
  | .rotateAccountKey oldAccount _ (.swapping old _ _) => oldAccount = some old
  | .rotateAccountKey oldAccount _ (.returned (.ok acct)) =>
    ∀ old, oldAccount = some old → acct.accountID = old.accountID
  | _ => True

/-- The record of keys agrees with the table, and no account has a key again that it was
rolled away from. -/
structure KeysSound (s : AccountSys κ) : Prop where
  holding : ∀ k ∈ s.accounts.heldKeys, k ∈ s.held
  known : ∀ k ∈ s.held, k.1 ∈ s.accounts.table.rows.map Account.accountID
  left : ∀ k ∈ s.rolled, k ∈ s.held ∧ k ∉ s.accounts.heldKeys
  once : s.rolled.Nodup

section Tables

variable {t t' : Accounts} {accountID thumb pem : String}

theorem accountIDs_registerWrite (accounts : Accounts) (acct : Account) (fault : Option TxFault) :
    accounts.table.rows.map Account.accountID <+:
      (registerWrite accounts acct fault).1.table.rows.map Account.accountID := by
  rcases rows_registerWrite accounts acct fault with same | ⟨rows, -⟩
  · rw [same]
  · rw [rows, List.map_append]
    exact List.prefix_append _ _

theorem accountIDs_rolloverWrite (accounts : Accounts) (old : Account) (thumb pem : String)
    (fault : Option TxFault) :
    accounts.table.rows.map Account.accountID <+:
      (rolloverWrite accounts old thumb pem fault).1.table.rows.map Account.accountID := by
  rcases rows_rolloverWrite accounts old thumb pem fault with same | rows
  · rw [same]
  · rw [rows, List.map_map, List.map_congr_left]
    intro a _
    rw [Function.comp_apply, Accounts.withKey]
    split <;> rfl

/-- After a swap an account has the key it had, or is the swapped one. -/
theorem heldKeys_of_swap
    (rows : t'.table.rows = t.table.rows.map (Accounts.withKey accountID thumb pem))
    {k : String × String} (member : k ∈ t'.heldKeys) :
    k.1 ≠ accountID ∧ k ∈ t.heldKeys ∨ k = (accountID, thumb) := by
  unfold Accounts.heldKeys at member
  rw [rows, List.map_map] at member
  obtain ⟨a, row, rfl⟩ := List.mem_map.mp member
  simp only [Function.comp_apply, Accounts.withKey]
  split
  next named => exact .inr (by rw [named])
  next other => exact .inl ⟨other, List.mem_map.mpr ⟨a, row, rfl⟩⟩

end Tables

section Steps

variable {e : AccountEnv κ} {s s' : AccountSys κ} {a : AccountAct κ}

section

variable (sound : KeysSound s)

include sound

/-- The table may change as long as no identifier is lost and no account gets back a key
it was rolled away from. -/
theorem KeysSound.commit {accounts : Accounts}
    (kept : s.accounts.table.rows.map Account.accountID ⊆ accounts.table.rows.map Account.accountID)
    (away : ∀ k ∈ accounts.heldKeys, k ∉ s.rolled) : KeysSound (s.commit accounts) where
  holding _ member := List.mem_append_right _ member
  known k member := by
    rcases List.mem_append.mp member with before | now
    · exact kept (sound.known k before)
    · obtain ⟨row, present, rfl⟩ := List.mem_map.mp now
      exact List.mem_map_of_mem present
  left k member :=
    ⟨List.mem_append_left _ (sound.left k member).1, fun again => away k again member⟩
  once := sound.once

theorem KeysSound.of_eq (accounts : s'.accounts = s.accounts) (held : s'.held = s.held)
    (rolled : s'.rolled = s.rolled) : KeysSound s' where
  holding := by
    rw [accounts, held]
    exact sound.holding
  known := by
    rw [accounts, held]
    exact sound.known
  left := by
    rw [accounts, held, rolled]
    exact sound.left
  once := by
    rw [rolled]
    exact sound.once

theorem KeysSound.registerWrite (acct : Account) (fault : Option TxFault) :
    KeysSound (s.commit (registerWrite s.accounts acct fault).1) := by
  refine sound.commit (accountIDs_registerWrite s.accounts acct fault).subset ?_
  intro k member rolled
  obtain ⟨past, away⟩ := sound.left k rolled
  rcases rows_registerWrite s.accounts acct fault with same | ⟨rows, unnamed⟩
  · exact away (same ▸ member)
  · rw [Accounts.heldKeys, rows, List.map_append] at member
    rcases mem_snoc member with before | rfl
    · exact away before
    · -- the account of a rolled key is still there, so its identifier is taken
      obtain ⟨row, present, same⟩ := List.mem_map.mp (sound.known _ past)
      exact Table.get?_eq_none_iff.mp unnamed row present same

variable {old : Account} {thumb pem : String}

/-- The swap to a key the account never had, and its record when it succeeds. -/
theorem KeysSound.rolloverWrite (fresh : (old.accountID, thumb) ∉ s.held) (fault : Option TxFault) :
    KeysSound ((s.commit (rolloverWrite s.accounts old thumb pem fault).1).roll
      (rolloverWrite s.accounts old thumb pem fault).2.isOk old.accountID old.jwkThumbprint) := by
  have swapped :
      KeysSound (s.commit (Source.Acme.rolloverWrite s.accounts old thumb pem fault).1) := by
    refine sound.commit (accountIDs_rolloverWrite ..).subset fun k member rolled => ?_
    obtain ⟨past, away⟩ := sound.left k rolled
    rcases rows_rolloverWrite s.accounts old thumb pem fault with same | rows
    · exact away (same ▸ member)
    · rcases heldKeys_of_swap rows member with ⟨-, before⟩ | rfl
      · exact away before
      · exact fresh past
  unfold AccountSys.roll
  split
  next success =>
    obtain ⟨_, success⟩ := isOk_iff.mp success
    obtain ⟨-, ⟨row, present, named, expected⟩, rows⟩ := rolloverWrite_ok success
    have current : (old.accountID, old.jwkThumbprint) ∈ s.accounts.heldKeys :=
      List.mem_map.mpr ⟨row, present, by rw [named, expected]⟩
    have past := sound.holding _ current
    refine ⟨swapped.holding, swapped.known, ?_, ?_⟩
    · refine forall_mem_snoc swapped.left ⟨List.mem_append_left _ past, fun again => ?_⟩
      rcases heldKeys_of_swap rows again with ⟨other, -⟩ | same
      · exact other rfl
      · exact fresh (same ▸ past)
    · refine (List.perm_append_singleton _ _).nodup_iff.mpr (List.nodup_cons.mpr ⟨?_, sound.once⟩)
      exact fun rolled => (sound.left _ rolled).2 current
  · exact swapped

end

theorem keysSound_step (fresh : freshWrite s a = true) (taken : accountStep e s a = some s')
    (sound : KeysSound s) : KeysSound s' := by
  cases accountStep_effect taken with
  | registering | rolling | registerLooked | rolloverLooked => exact sound.of_eq rfl rfl rfl
  | registered acct fault => exact (sound.registerWrite acct fault).of_eq rfl rfl rfl
  | rolled fault current =>
    simp only [freshWrite, current, decide_eq_true_eq] at fresh
    exact (sound.rolloverWrite fresh fault).of_eq rfl rfl rfl

theorem callSound_registerLook (accounts : Accounts) (req : RegisterRequest κ)
    (fault : Option String) : CallSound (.newAccount req (registerLook e accounts req fault)) := by
  cases phase : registerLook e accounts req fault with
  | looking => trivial
  | inserting acct =>
    unfold registerLook at phase
    split at phase
    · cases phase
    · cases phase
    next found =>
      cases phase
      exact filled_of_insert found
  | returned result => trivial

theorem callSound_rolloverLook (accounts : Accounts) (oldAccount : Option Account)
    (jwk : Option κ) (allowed : Bool) (fault : Option String) :
    CallSound (.rotateAccountKey oldAccount jwk
      (rolloverLook e accounts oldAccount jwk allowed fault)) := by
  cases phase : rolloverLook e accounts oldAccount jwk allowed fault with
  | looking => trivial
  | swapping old thumb pem =>
    unfold rolloverLook at phase
    split at phase
    · cases phase
    next found =>
      cases phase
      exact eq_of_lookupRollover found
  | returned result =>
    cases result with
    | error err => trivial
    | ok acct =>
      unfold rolloverLook at phase
      split at phase <;> cases phase

theorem callSound_rolloverWrite {oldAccount : Option Account}
    (given : oldAccount = some old) (jwk : Option κ) (accounts : Accounts) (thumb pem : String)
    (fault : Option TxFault) :
    CallSound (.rotateAccountKey oldAccount jwk
      (.returned (rolloverWrite accounts old thumb pem fault).2)) := by
  cases result : (rolloverWrite accounts old thumb pem fault).2 with
  | error err => trivial
  | ok acct =>
    intro old' given'
    rw [given] at given'
    cases given'
    exact (rolloverWrite_ok result).1

theorem roll_frame (s : AccountSys κ) (success : Bool) (accountID thumb : String) :
    (s.roll success accountID thumb).accounts = s.accounts ∧
      (s.roll success accountID thumb).calls = s.calls := by
  cases success <;> exact ⟨rfl, rfl⟩

theorem callSound_step (taken : accountStep e s a = some s')
    (sound : ∀ call ∈ s.calls, CallSound call) : ∀ call ∈ s'.calls, CallSound call := by
  cases accountStep_effect taken with
  | registering | rolling => exact forall_mem_snoc sound trivial
  | registerLooked => exact forall_mem_set sound (callSound_registerLook ..)
  | rolloverLooked => exact forall_mem_set sound (callSound_rolloverLook ..)
  | registered => exact forall_mem_set sound trivial
  | rolled fault current =>
    have given := sound _ (List.mem_of_getElem? current)
    unfold AccountSys.move
    rw [(roll_frame ..).2]
    exact forall_mem_set sound (callSound_rolloverWrite given ..)

/-- No step removes an account or renames it. -/
theorem identifiersKept_step (taken : accountStep e s a = some s') : IdentifiersKept s s' := by
  cases accountStep_effect taken with
  | registering | rolling | registerLooked | rolloverLooked => exact List.prefix_rfl
  | registered acct fault => exact accountIDs_registerWrite s.accounts acct fault
  | rolled =>
    unfold IdentifiersKept AccountSys.move
    rw [(roll_frame ..).1]
    exact accountIDs_rolloverWrite ..

/-- The lookup of a free key is passed, whatever the rest of the table. -/
theorem registerLook_free {req : RegisterRequest κ} {profileID : String}
    (create : req.onlyReturnExisting = false) (wired : e.env.tx ∧ e.env.auditService)
    (profile : resolveProfile e.env req.profileID = .ok profileID)
    (thumbprint : e.keys.thumbprint req.jwk = .ok thumb) (serialized : e.keys.pem req.jwk = .ok pem)
    (free : s.accounts.byThumbprint profileID thumb = none) :
    registerLook e s.accounts req none =
      .inserting ⟨accountIDOf thumb, thumb, pem, req.contact, .valid, profileID⟩ := by
  have found : lookupRegistration e s.accounts req none =
      .ok (.insert ⟨accountIDOf thumb, thumb, pem, req.contact, .valid, profileID⟩) := by
    refine bind_eq_ok.mpr ⟨(), ensure_eq_ok.mpr wired, bind_eq_ok.mpr ⟨profileID, ?_, ?_⟩⟩
    · rw [profile]
      rfl
    refine bind_eq_ok.mpr ⟨thumb, ?_, bind_eq_ok.mpr ⟨(), rfl, ?_⟩⟩
    · rw [thumbprint]
      rfl
    rw [free]
    refine bind_eq_ok.mpr ⟨(), ensure_eq_ok.mpr create, bind_eq_ok.mpr ⟨pem, ?_, rfl⟩⟩
    rw [serialized]
    rfl
  rw [registerLook, found]

theorem registersFree (sound : ∀ call ∈ s.calls, CallSound call) :
    RegistersFree e (fun s a => freshWrite s a = true) s := by
  constructor
  · intro c req profileID thumb pem allowed current create wired profile thumbprint serialized free
    simp only [accountStep, current,
      registerLook_free create wired profile thumbprint serialized free]
  · intro c req acct current free fresh
    simp only [freshWrite, current, free, Option.isSome_none, Bool.false_or,
      Option.isNone_iff_eq_none] at fresh
    have filled : Accounts.missingField acct = false := sound _ (List.mem_of_getElem? current)
    -- without a fault the insert does what the constraints allow
    obtain ⟨after, created⟩ := Accounts.exists_create filled free fresh
    have inserts : registerWrite s.accounts acct none = (after, .ok (acct, true)) := by
      rw [registerWrite, created]
      rfl
    refine ⟨(s.commit after).move c (.newAccount req (.returned (.ok (acct, true)))), ?_, ?_,
      (Accounts.rows_create created).1⟩
    · simp only [accountStep, current, inserts]
    · exact List.getElem?_set_self (List.getElem?_eq_some_iff.mp current).1

end Steps

section Runs

variable {e : AccountEnv κ} {s : AccountSys κ}

theorem keysSound_initial (initial : s.Initial) : KeysSound s := by
  obtain ⟨-, held, rolled⟩ := initial
  refine ⟨?_, ?_, ?_, ?_⟩
  · intro k member
    rw [held]
    exact member
  · intro k member
    rw [held] at member
    obtain ⟨row, present, rfl⟩ := List.mem_map.mp member
    exact List.mem_map_of_mem present
  · rw [rolled]
    intro k member
    cases member
  · rw [rolled]
    exact List.nodup_nil

/-- In every run of fresh writes keys are exclusive, each key of an account is left at most
once, accounts stay under their identifiers, and a free key is registered. -/
theorem account_keys_of_freshWrites (reached : ReachableUnder (accountStep e) AccountSys.Initial
    (fun s a => freshWrite s a = true) s) :
    KeysExclusive s ∧ RolledOnce s ∧
    (∀ s', Later (accountStep e) (fun s a => freshWrite s a = true) s s' → IdentifiersKept s s') ∧
    RegistersFree e (fun s a => freshWrite s a = true) s := by
  have keys : KeysSound s := by
    refine ReachableUnder.invariant ?_ ?_ reached
    · exact fun s initial => keysSound_initial initial
    · exact fun s a s' sound fresh taken => keysSound_step fresh taken sound
  have calls : ∀ call ∈ s.calls, CallSound call := by
    refine ReachableUnder.invariant (I := fun s : AccountSys κ => ∀ call ∈ s.calls, CallSound call)
      ?_ (fun _ _ _ sound _ taken => callSound_step taken sound) reached
    rintro s ⟨none, -⟩ call member
    rw [none] at member
    cases member
  refine ⟨s.accounts.unique, ⟨?_, ?_⟩, fun s' run => ?_, registersFree calls⟩
  · exact fun accountID thumb => List.nodup_iff_count_le_one.mp keys.once (accountID, thumb)
  · exact fun old jwk acct member => calls _ member old rfl
  · induction run with
    | refl => exact List.prefix_rfl
    | next _ _ taken ih => exact ih.trans (identifiersKept_step taken)

end Runs

section Instances

/-- Keys named by their thumbprints. -/
def namedKeys : KeyCodec String where
  thumbprint k := if k = "" then .error "no key" else .ok k
  pem k := .ok ("jwk-" ++ k)
  thumbprint_ne := by
    intro k t success
    obtain ⟨given, ⟨⟩⟩ := of_else success nofun
    exact given
  pem_ne := by
    intro k t success
    cases success
    simp

def server : AccountEnv String := ⟨sampleEnv, 5, namedKeys⟩

def emptyServer : AccountSys String :=
  ⟨⟨Table.empty Account.accountID, by simp [Table.empty]⟩, [], [], []⟩

theorem emptyServer_initial : emptyServer.Initial := ⟨rfl, rfl, rfl⟩

def register (profileID jwk : String) : RegisterRequest String := ⟨profileID, jwk, [], false⟩

/-- The account registered with one key, now with another. -/
def account (profileID registered current : String) : Account :=
  ⟨accountIDOf registered, current, "jwk-" ++ current, [], .valid, profileID⟩

/-- A call started as number `c` and run to its end. -/
def wholeCall (c : Nat) (start : AccountAct String) : List (AccountAct String) :=
  [start, .look c true none, .write c none]

/-- One account is registered and rolled over, and another is registered. -/
theorem account_keys_rolledRun : ∃ s, s.rolled.count (accountIDOf "a", "a") = 1 ∧
    (KeysExclusive s ∧ RolledOnce s ∧
      (∀ s', Later (accountStep server) (fun s a => freshWrite s a = true) s s' →
        IdentifiersKept s s') ∧
      RegistersFree server (fun s a => freshWrite s a = true) s) := by
  obtain ⟨s, reached, rolled⟩ := exists_reachable_of_replay (accountStep server) freshWrite
    emptyServer_initial
    (wholeCall 0 (.newAccount (register "internal" "a")) ++
      wholeCall 1 (.rotateAccountKey (some (account "internal" "a" "a")) (some "b")) ++
      wholeCall 2 (.newAccount (register "internal" "c")))
    (fun s => s.rolled.count (accountIDOf "a", "a") = 1) (by decide +kernel)
  exact ⟨s, rolled, account_keys_of_freshWrites reached⟩

/-- A refused insert of a free key. -/
def refusedInsert (s : AccountSys String) (c : Nat) (req : RegisterRequest String)
    (acct : Account) : Bool :=
  decide (s.calls[c]? = some (.newAccount req (.inserting acct))) &&
    (s.accounts.byThumbprint acct.profileID acct.jwkThumbprint).isNone &&
    decide ((accountStep server s (.write c none)).bind (fun s' => s'.calls[c]?) =
      some (.newAccount req (.returned (.error
        (.repository "acme: create account: " .duplicateThumbprint)))))

theorem not_registersFree {s : AccountSys String} {c : Nat} {req : RegisterRequest String}
    {acct : Account} (refused : refusedInsert s c req acct = true) :
    ¬ RegistersFree server (fun _ _ => True) s := by
  rintro ⟨-, inserts⟩
  simp only [refusedInsert, Bool.and_eq_true, decide_eq_true_eq, Option.isNone_iff_eq_none]
    at refused
  obtain ⟨⟨current, free⟩, answer⟩ := refused
  obtain ⟨s', taken, returned, -⟩ := inserts c req acct current free trivial
  rw [taken, Option.bind_some, returned] at answer
  cases answer

/-- Two rollovers start from one key, and between them a third brings the key back; both
succeed. A key that was rolled away, or that another profile has, cannot be registered. -/
theorem account_keys_restoredRun :
    (∃ s, Reachable (accountStep server) AccountSys.Initial s ∧ ¬ RolledOnce s) ∧
    ∃ s, Reachable (accountStep server) AccountSys.Initial s ∧
      refusedInsert s 2 (register "internal" "a") (account "internal" "a" "a") = true ∧
      refusedInsert s 3 (register "public" "a") (account "public" "a" "a") = true ∧
      ¬ RegistersFree server (fun _ _ => True) s := by
  constructor
  · obtain ⟨s, reached, twice⟩ := exists_reached_of_replay (accountStep server)
      emptyServer_initial
      (wholeCall 0 (.newAccount (register "internal" "a")) ++
        [.rotateAccountKey (some (account "internal" "a" "a")) (some "b"),
          .rotateAccountKey (some (account "internal" "a" "a")) (some "c"),
          .look 1 true none, .look 2 true none, .write 1 none] ++
        wholeCall 3 (.rotateAccountKey (some (account "internal" "a" "b")) (some "a")) ++
        [.write 2 none])
      (fun s => s.rolled.count (accountIDOf "a", "a") = 2) (by decide +kernel)
    refine ⟨s, reached, fun once => ?_⟩
    have bound := once.1 (accountIDOf "a") "a"
    omega
  · obtain ⟨s, reached, refused, again⟩ := exists_reached_of_replay (accountStep server)
      emptyServer_initial
      (wholeCall 0 (.newAccount (register "internal" "a")) ++
        wholeCall 1 (.rotateAccountKey (some (account "internal" "a" "a")) (some "b")) ++
        [.newAccount (register "internal" "a"), .newAccount (register "public" "a"),
          .look 2 true none, .look 3 true none])
      (fun s => refusedInsert s 2 (register "internal" "a") (account "internal" "a" "a") ∧
        refusedInsert s 3 (register "public" "a") (account "public" "a" "a"))
      (by decide +kernel)
    exact ⟨s, reached, refused, again, not_registersFree refused⟩

end Instances

end Certctl.Guarantees.AccountKeys

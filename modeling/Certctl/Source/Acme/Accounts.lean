import Certctl.Lib.Transition
import Certctl.Source.Acme.Revoke

/-!
Registration of ACME accounts and key rollover. Each call looks first and writes later:
the lookup by thumbprint runs outside the transaction, and the transaction, which holds
the row lock from its first read to the commit, is one step. The account table carries
both of its constraints.

Source: internal/service/acme.go; internal/repository/postgres/acme.go, tx.go.
-/
namespace Certctl.Source.Acme

open Lib

/-- The library's view of a key: an RFC 7638 thumbprint has 43 characters and a serialized
key a header line, so neither is empty. -/
structure KeyCodec (κ : Type) where
  thumbprint : κ → Except String String
  pem : κ → Except String String
  thumbprint_ne : ∀ {k t}, thumbprint k = .ok t → t ≠ ""
  pem_ne : ∀ {k t}, pem k = .ok t → t ≠ ""

inductive RepoError where
  | missingField
  | duplicateThumbprint
  | notFound
  | concurrentUpdate
  | failed (text : String)
  deriving DecidableEq

def RepoError.message : RepoError → String
  | .missingField => "acme: create account: missing required field"
  | .duplicateThumbprint => "acme: account already exists for this profile + JWK thumbprint"
  | .notFound => "account not found: repository: row not found"
  | .concurrentUpdate => "acme: account key was rotated concurrently; re-fetch and retry"
  | .failed text => text

/-- The account table: the primary key, and `UNIQUE (profile_id, jwk_thumbprint)`. -/
structure Accounts where
  table : Table Account.accountID
  unique : ∀ a ∈ table.rows, ∀ b ∈ table.rows, a.profileID = b.profileID →
    a.jwkThumbprint = b.jwkThumbprint → a = b

namespace Accounts

def byThumbprint (t : Accounts) (profileID thumbprint : String) : Option Account :=
  t.table.rows.find? (fun a => decide (a.profileID = profileID ∧ a.jwkThumbprint = thumbprint))

variable {t : Accounts} {thumbprint accountID pem : String} {acct : Account} {t' : Accounts}

theorem byThumbprint_eq_none {profileID : String} :
    t.byThumbprint profileID thumbprint = none ↔
      ∀ a ∈ t.table.rows, a.profileID = profileID → a.jwkThumbprint ≠ thumbprint := by
  simp [byThumbprint, List.find?_eq_none]

def missingField (acct : Account) : Bool :=
  decide (acct.accountID = "" ∨ acct.jwkThumbprint = "" ∨ acct.jwkPEM = "" ∨ acct.profileID = "")

/-- The insert; either constraint gives the same error. -/
def create (t : Accounts) (acct : Account) : Except RepoError Accounts :=
  if missingField acct then .error .missingField
  else if free : t.byThumbprint acct.profileID acct.jwkThumbprint = none then
    match inserted : t.table.insert acct with
    | none => .error .duplicateThumbprint
    | some table => .ok ⟨table, by
        have apart := byThumbprint_eq_none.mp free
        intro a ha b hb profile thumb
        rw [(Table.insert_rows inserted).1] at ha hb
        rcases List.mem_append.mp ha with olda | newa <;>
          rcases List.mem_append.mp hb with oldb | newb
        · exact t.unique a olda b oldb profile thumb
        · rw [List.mem_singleton.mp newb] at profile thumb
          exact absurd thumb (apart a olda profile)
        · rw [List.mem_singleton.mp newa] at profile thumb
          exact absurd thumb.symm (apart b oldb profile.symm)
        · rw [List.mem_singleton.mp newa, List.mem_singleton.mp newb]⟩
  else .error .duplicateThumbprint

theorem rows_create (created : t.create acct = .ok t') :
    t'.table.rows = t.table.rows ++ [acct] ∧ t.table.get? acct.accountID = none := by
  obtain ⟨-, created⟩ := of_else created nofun
  split at created
  · split at created
    · cases created
    next inserted =>
      cases created
      exact Table.insert_rows inserted
  · cases created

/-- With all fields filled, the two constraints are the only obstacles. -/
theorem exists_create (filled : missingField acct = false)
    (free : t.byThumbprint acct.profileID acct.jwkThumbprint = none)
    (unnamed : t.table.get? acct.accountID = none) : ∃ t', t.create acct = .ok t' := by
  unfold create
  rw [if_neg (by simp [filled]), dif_pos free]
  split
  next refused =>
    obtain ⟨_, accepted⟩ := Table.insert_isSome unnamed
    rw [refused] at accepted
    cases accepted
  next table _ => exact ⟨_, rfl⟩

/-- Another account of the profile has the thumbprint. -/
def takenBy (t : Accounts) (accountID profileID thumbprint : String) : Bool :=
  t.table.rows.any (fun a => decide (a.accountID ≠ accountID ∧ a.profileID = profileID ∧
    a.jwkThumbprint = thumbprint))

def withKey (accountID thumbprint pem : String) (a : Account) : Account :=
  if a.accountID = accountID then { a with jwkThumbprint := thumbprint, jwkPEM := pem } else a

theorem unique_swap {row : Account} (current : t.table.get? accountID = some row)
    (free : t.takenBy accountID row.profileID thumbprint = false) {a b : Account}
    (ha : a ∈ t.table.rows.map (withKey accountID thumbprint pem))
    (hb : b ∈ t.table.rows.map (withKey accountID thumbprint pem))
    (profile : a.profileID = b.profileID) (thumb : a.jwkThumbprint = b.jwkThumbprint) : a = b := by
  have other : ∀ x ∈ t.table.rows, x.accountID ≠ accountID → x.profileID = row.profileID →
      x.jwkThumbprint ≠ thumbprint := by
    intro x member different same taken
    have none := List.any_eq_false.mp free x member
    exact none (decide_eq_true ⟨different, same, taken⟩)
  have mine : ∀ x ∈ t.table.rows, x.accountID = accountID → x = row := by
    intro x member named
    have found := Table.get?_of_mem member
    rw [named, current] at found
    exact (Option.some.inj found).symm
  obtain ⟨x, hx, rfl⟩ := List.mem_map.mp ha
  obtain ⟨y, hy, rfl⟩ := List.mem_map.mp hb
  unfold withKey at profile thumb ⊢
  split at profile <;> split at profile
  next isX isY =>
    rw [if_pos isX, if_pos isY, mine x hx isX, mine y hy isY]
  next isX notY =>
    rw [if_pos isX, if_neg notY] at thumb
    rw [mine x hx isX] at profile
    exact absurd thumb.symm (other y hy notY profile.symm)
  next notX isY =>
    rw [if_neg notX, if_pos isY] at thumb
    rw [mine y hy isY] at profile
    exact absurd thumb (other x hx notX profile)
  next notX notY =>
    rw [if_neg notX, if_neg notY] at thumb
    rw [if_neg notX, if_neg notY]
    exact t.unique x hx y hy profile thumb

/-- The locked read, the comparison with the expected key, and the update under the
constraint. -/
def updateJWK (t : Accounts) (accountID expectedOldThumbprint newThumbprint newJWKPEM : String) :
    Except RepoError Accounts :=
  match current : t.table.get? accountID with
  | none => .error .notFound
  | some row =>
    if row.jwkThumbprint ≠ expectedOldThumbprint then .error .concurrentUpdate
    else if taken : t.takenBy accountID row.profileID newThumbprint = true then
      .error .duplicateThumbprint
    else .ok ⟨t.table.updateWhere (fun a => decide (a.accountID = accountID))
        (fun a => { a with jwkThumbprint := newThumbprint, jwkPEM := newJWKPEM }) (fun _ => rfl), by
      intro a ha b hb
      have rows : ∀ x : Account, (if decide (x.accountID = accountID) = true then
          { x with jwkThumbprint := newThumbprint, jwkPEM := newJWKPEM } else x) =
            withKey accountID newThumbprint newJWKPEM x := by
        intro x
        simp only [decide_eq_true_eq]
        rfl
      simp only [Table.updateWhere, rows] at ha hb
      exact unique_swap current (by simpa using taken) ha hb⟩

theorem rows_updateJWK {old new : String} (updated : t.updateJWK accountID old new pem = .ok t') :
    (∃ row ∈ t.table.rows, row.accountID = accountID ∧ row.jwkThumbprint = old) ∧
      t'.table.rows = t.table.rows.map (withKey accountID new pem) := by
  unfold updateJWK at updated
  split at updated
  · cases updated
  next row current =>
    obtain ⟨expected, updated⟩ := of_else updated nofun
    split at updated
    · cases updated
    · cases updated
      refine ⟨⟨row, Table.get?_mem current, Table.get?_key current, by simpa using expected⟩, ?_⟩
      unfold withKey
      simp only [Table.updateWhere, decide_eq_true_eq]

end Accounts

/-- The sentinels of the two calls; `repository` wraps an error of the table under a text,
and `failed` is any other error text. -/
inductive AccountError where
  | failed (text : String)
  | profile (e : AcmeError)
  | repository (wrap : String) (e : RepoError)
  | doesNotExist
  | rolloverInvalid
  | rateLimited
  | rolloverDuplicateKey
  | rolloverConcurrent
  deriving DecidableEq

section Service

variable {κ : Type}

/-- Wiring and profiles, the cap on rollovers, and the keys. -/
structure AccountEnv (κ : Type) where
  env : Env
  rateLimitKeyChangePerHour : Int
  keys : KeyCodec κ

structure RegisterRequest (κ : Type) where
  profileID : String
  jwk : κ
  contact : List String
  onlyReturnExisting : Bool
  deriving DecidableEq

/-- What a registration does after its lookup. -/
inductive Registration where
  | existing (acct : Account)
  | insert (acct : Account)

/-- Registration up to the transaction. -/
def lookupRegistration (e : AccountEnv κ) (accounts : Accounts) (req : RegisterRequest κ)
    (fault : Option String) : Except AccountError Registration := do
  ensure (e.env.tx ∧ e.env.auditService)
    (.failed "acme: new-account requires SetTransactor + SetAuditService")
  let profileID ← (resolveProfile e.env req.profileID).mapError .profile
  let thumb ← (e.keys.thumbprint req.jwk).mapError
    (fun cause => .failed ("acme: thumbprint: " ++ cause))
  attempt fault (fun cause => .failed ("acme: lookup-by-thumbprint: " ++ cause))
  match accounts.byThumbprint profileID thumb with
  | some existing => return .existing existing
  | none =>
    ensure (req.onlyReturnExisting = false) .doesNotExist
    let pem ← (e.keys.pem req.jwk).mapError
      (fun cause => .failed ("acme: serialize jwk: " ++ cause))
    return .insert ⟨accountIDOf thumb, thumb, pem, req.contact, .valid, profileID⟩

theorem resolveProfile_ne {env : Env} {profileID resolved : String}
    (success : resolveProfile env profileID = .ok resolved) : resolved ≠ "" := by
  simp only [resolveProfile, bind_eq_ok, ensure_eq_ok, orFail_eq_ok] at success
  obtain ⟨_, configured, _, _, ⟨⟩⟩ := success
  split
  next unset => exact configured.resolve_left (by simpa using unset)
  next given => exact given

variable {accounts : Accounts} {e : AccountEnv κ} {fault : Option String} {acct old : Account}

theorem filled_of_insert {req : RegisterRequest κ}
    (success : lookupRegistration e accounts req fault = .ok (.insert acct)) :
    Accounts.missingField acct = false := by
  simp only [lookupRegistration, bind_eq_ok, ensure_eq_ok, mapError_eq_ok, attempt_eq_ok]
    at success
  obtain ⟨_, _, profileID, resolved, thumb, thumbprint, _, _, rest⟩ := success
  split at rest
  · cases rest
  · obtain ⟨_, _, pem, serialized, ⟨⟩⟩ := by
      simpa only [bind_eq_ok, ensure_eq_ok, mapError_eq_ok] using rest
    simp [Accounts.missingField, accountIDOf, resolveProfile_ne resolved,
      e.keys.thumbprint_ne thumbprint, e.keys.pem_ne serialized]

/-- Rollover up to the transaction: the account as the caller has it, and the new
thumbprint and PEM. `allowed` is the limiter's verdict. -/
def lookupRollover (e : AccountEnv κ) (accounts : Accounts) (oldAccount : Option Account)
    (newJWK : Option κ) (allowed : Bool) (fault : Option String) :
    Except AccountError (Account × String × String) := do
  ensure (e.env.tx ∧ e.env.auditService)
    (.failed "acme: key rollover requires SetTransactor + SetAuditService")
  let old ← orFail oldAccount .rolloverInvalid
  let jwk ← orFail newJWK .rolloverInvalid
  ensure (¬ (e.env.rateLimiter ∧ e.rateLimitKeyChangePerHour > 0 ∧ allowed = false)) .rateLimited
  let thumb ← (e.keys.thumbprint jwk).mapError
    (fun cause => .failed ("acme: thumbprint new jwk: " ++ cause))
  let pem ← (e.keys.pem jwk).mapError
    (fun cause => .failed ("acme: serialize new jwk: " ++ cause))
  attempt fault (fun cause => .failed ("acme: lookup new jwk thumbprint: " ++ cause))
  ensure (accounts.byThumbprint old.profileID thumb = none) .rolloverDuplicateKey
  return (old, thumb, pem)

variable {thumb pem : String}

theorem eq_of_lookupRollover {oldAccount : Option Account} {newJWK : Option κ} {allowed : Bool}
    (success : lookupRollover e accounts oldAccount newJWK allowed fault = .ok (old, thumb, pem)) :
    oldAccount = some old := by
  simp only [lookupRollover, bind_eq_ok, ensure_eq_ok, orFail_eq_ok] at success
  obtain ⟨_, _, _, given, _, _, _, _, _, _, _, _, _, _, _, _, ⟨⟩⟩ := success
  exact given

/-- A transaction may fail before its end, or at the commit, and then with the writes made
or not. -/
inductive TxFault where
  | aborted (text : String)
  | commit (cause : String) (applied : Bool)

def withinTx (accounts : Accounts) (fault : Option TxFault) (work : Except RepoError Accounts) :
    Accounts × Except RepoError Unit :=
  match fault, work with
  | some (.aborted text), _ => (accounts, .error (.failed text))
  | _, .error e => (accounts, .error e)
  | some (.commit cause applied), .ok after =>
    (if applied then after else accounts, .error (.failed ("commit tx: " ++ cause)))
  | none, .ok after => (after, .ok ())

theorem withinTx_accounts (accounts : Accounts) (fault : Option TxFault)
    (work : Except RepoError Accounts) :
    (withinTx accounts fault work).1 = accounts ∨
      work = .ok (withinTx accounts fault work).1 := by
  rcases fault with _ | text | ⟨cause, _ | _⟩ <;> rcases work with e | after <;>
    simp [withinTx]

variable {fault : Option TxFault}

theorem withinTx_isOk {work : Except RepoError Accounts}
    (success : (withinTx accounts fault work).2.isOk = true) :
    work = .ok (withinTx accounts fault work).1 := by
  rcases fault with _ | text | ⟨cause, _ | _⟩ <;> rcases work with e | after
  case none.ok => rfl
  all_goals exact absurd success (by simp [withinTx, Except.isOk, Except.toBool])

def createError : RepoError → AccountError
  | .failed text => .failed text
  | e => .repository "acme: create account: " e

/-- Repository errors of a rollover are told apart by their text. -/
def rolloverError (e : RepoError) : AccountError :=
  if "rotated concurrently".toList <:+: e.message.toList then .rolloverConcurrent
  else if "already exists for this profile".toList <:+: e.message.toList then .rolloverDuplicateKey
  else .repository "" e

inductive RegisterPhase where
  | looking
  | inserting (acct : Account)
  | returned (result : Except AccountError (Account × Bool))
  deriving DecidableEq

inductive RolloverPhase where
  | looking
  | swapping (old : Account) (thumb pem : String)
  | returned (result : Except AccountError Account)
  deriving DecidableEq

inductive AccountCall (κ : Type) where
  | newAccount (req : RegisterRequest κ) (phase : RegisterPhase)
  | rotateAccountKey (oldAccount : Option Account) (newJWK : Option κ) (phase : RolloverPhase)
  deriving DecidableEq

/-- Besides table and calls the state records, by account and thumbprint, the keys ever
held and the rollovers that succeeded from them; no step reads these. -/
structure AccountSys (κ : Type) where
  accounts : Accounts
  calls : List (AccountCall κ)
  held : List (String × String)
  rolled : List (String × String)

inductive AccountAct (κ : Type) where
  | newAccount (req : RegisterRequest κ)
  | rotateAccountKey (oldAccount : Option Account) (newJWK : Option κ)
  | look (c : Nat) (allowed : Bool) (fault : Option String)
  | write (c : Nat) (fault : Option TxFault)

def Accounts.heldKeys (t : Accounts) : List (String × String) :=
  t.table.rows.map (fun a => (a.accountID, a.jwkThumbprint))

def registerLook (e : AccountEnv κ) (accounts : Accounts) (req : RegisterRequest κ)
    (fault : Option String) : RegisterPhase :=
  match lookupRegistration e accounts req fault with
  | .error err => .returned (.error err)
  | .ok (.existing acct) => .returned (.ok (acct, false))
  | .ok (.insert acct) => .inserting acct

def rolloverLook (e : AccountEnv κ) (accounts : Accounts) (oldAccount : Option Account)
    (newJWK : Option κ) (allowed : Bool) (fault : Option String) : RolloverPhase :=
  match lookupRollover e accounts oldAccount newJWK allowed fault with
  | .error err => .returned (.error err)
  | .ok (old, thumb, pem) => .swapping old thumb pem

/-- The insert of a registration. -/
def registerWrite (accounts : Accounts) (acct : Account) (fault : Option TxFault) :
    Accounts × Except AccountError (Account × Bool) :=
  let (after, result) := withinTx accounts fault (accounts.create acct)
  (after, (result.mapError createError).map (fun _ => (acct, true)))

/-- The swap of a rollover. -/
def rolloverWrite (accounts : Accounts) (old : Account) (thumb pem : String)
    (fault : Option TxFault) : Accounts × Except AccountError Account :=
  let (after, result) := withinTx accounts fault
    (accounts.updateJWK old.accountID old.jwkThumbprint thumb pem)
  (after, (result.mapError rolloverError).map
    (fun _ => { old with jwkThumbprint := thumb, jwkPEM := pem }))

/-- The insert leaves the table as it was or adds the row under a new identifier. -/
theorem rows_registerWrite (accounts : Accounts) (acct : Account) (fault : Option TxFault) :
    (registerWrite accounts acct fault).1 = accounts ∨
      (registerWrite accounts acct fault).1.table.rows = accounts.table.rows ++ [acct] ∧
        accounts.table.get? acct.accountID = none :=
  (withinTx_accounts accounts fault (accounts.create acct)).imp id Accounts.rows_create

/-- The swap leaves the table as it was or gives the account, which had the old key, the
new one. -/
theorem rows_rolloverWrite (accounts : Accounts) (old : Account) (thumb pem : String)
    (fault : Option TxFault) :
    (rolloverWrite accounts old thumb pem fault).1 = accounts ∨
      (rolloverWrite accounts old thumb pem fault).1.table.rows =
        accounts.table.rows.map (Accounts.withKey old.accountID thumb pem) :=
  (withinTx_accounts accounts fault _).imp id (fun updated => (Accounts.rows_updateJWK updated).2)

/-- A rollover that succeeds has made the swap and returns the account. -/
theorem rolloverWrite_ok (success : (rolloverWrite accounts old thumb pem fault).2 = .ok acct) :
    acct.accountID = old.accountID ∧
    (∃ row ∈ accounts.table.rows, row.accountID = old.accountID ∧
      row.jwkThumbprint = old.jwkThumbprint) ∧
      (rolloverWrite accounts old thumb pem fault).1.table.rows =
        accounts.table.rows.map (Accounts.withKey old.accountID thumb pem) := by
  suffices swapped : acct.accountID = old.accountID ∧ (withinTx accounts fault
      (accounts.updateJWK old.accountID old.jwkThumbprint thumb pem)).2.isOk = true from
    ⟨swapped.1, Accounts.rows_updateJWK (withinTx_isOk swapped.2)⟩
  unfold rolloverWrite at success
  dsimp only at success
  generalize (withinTx accounts fault _).2 = result at success ⊢
  cases result with
  | error err => cases success
  | ok done =>
    cases success
    exact ⟨rfl, rfl⟩

namespace AccountSys

def spawn (s : AccountSys κ) (call : AccountCall κ) : AccountSys κ :=
  { s with calls := s.calls ++ [call] }

def move (s : AccountSys κ) (c : Nat) (call : AccountCall κ) : AccountSys κ :=
  { s with calls := s.calls.set c call }

def commit (s : AccountSys κ) (accounts : Accounts) : AccountSys κ :=
  { s with accounts := accounts, held := s.held ++ accounts.heldKeys }

def roll (s : AccountSys κ) (success : Bool) (accountID thumbprint : String) : AccountSys κ :=
  if success then { s with rolled := s.rolled ++ [(accountID, thumbprint)] } else s

def Initial (s : AccountSys κ) : Prop :=
  s.calls = [] ∧ s.held = s.accounts.heldKeys ∧ s.rolled = []

end AccountSys

def accountStep (e : AccountEnv κ) (s : AccountSys κ) : AccountAct κ → Option (AccountSys κ)
  | .newAccount req => some (s.spawn (.newAccount req .looking))
  | .rotateAccountKey oldAccount jwk => some (s.spawn (.rotateAccountKey oldAccount jwk .looking))
  | .look c allowed fault =>
    match s.calls[c]? with
    | some (.newAccount req .looking) =>
      some (s.move c (.newAccount req (registerLook e s.accounts req fault)))
    | some (.rotateAccountKey oldAccount jwk .looking) =>
      some (s.move c (.rotateAccountKey oldAccount jwk
        (rolloverLook e s.accounts oldAccount jwk allowed fault)))
    | _ => none
  | .write c fault =>
    match s.calls[c]? with
    | some (.newAccount req (.inserting acct)) =>
      let (accounts, result) := registerWrite s.accounts acct fault
      some ((s.commit accounts).move c (.newAccount req (.returned result)))
    | some (.rotateAccountKey oldAccount jwk (.swapping old thumb pem)) =>
      let (accounts, result) := rolloverWrite s.accounts old thumb pem fault
      some (((s.commit accounts).roll result.isOk old.accountID old.jwkThumbprint).move c
        (.rotateAccountKey oldAccount jwk (.returned result)))
    | _ => none

/-- A step starts a call, takes it past its lookup, or runs its transaction. -/
inductive AccountEffect (e : AccountEnv κ) (s : AccountSys κ) :
    AccountAct κ → AccountSys κ → Prop where
  | registering {req} :
      AccountEffect e s (.newAccount req) (s.spawn (.newAccount req .looking))
  | rolling {oldAccount jwk} : AccountEffect e s (.rotateAccountKey oldAccount jwk)
      (s.spawn (.rotateAccountKey oldAccount jwk .looking))
  | registerLooked {c req allowed fault} : AccountEffect e s (.look c allowed fault)
      (s.move c (.newAccount req (registerLook e s.accounts req fault)))
  | rolloverLooked {c oldAccount jwk allowed fault} : AccountEffect e s (.look c allowed fault)
      (s.move c (.rotateAccountKey oldAccount jwk
        (rolloverLook e s.accounts oldAccount jwk allowed fault)))
  | registered {c req} (acct fault) : AccountEffect e s (.write c fault)
      ((s.commit (registerWrite s.accounts acct fault).1).move c
        (.newAccount req (.returned (registerWrite s.accounts acct fault).2)))
  | rolled {c oldAccount jwk old thumb pem} (fault)
      (current : s.calls[c]? = some (.rotateAccountKey oldAccount jwk (.swapping old thumb pem))) :
      AccountEffect e s (.write c fault)
        (((s.commit (rolloverWrite s.accounts old thumb pem fault).1).roll
          (rolloverWrite s.accounts old thumb pem fault).2.isOk old.accountID
            old.jwkThumbprint).move c
          (.rotateAccountKey oldAccount jwk
            (.returned (rolloverWrite s.accounts old thumb pem fault).2)))

theorem accountStep_effect {s s' : AccountSys κ} {a : AccountAct κ}
    (taken : accountStep e s a = some s') : AccountEffect e s a s' := by
  cases a with
  | newAccount req =>
    cases taken
    exact .registering
  | rotateAccountKey oldAccount jwk =>
    cases taken
    exact .rolling
  | look c allowed fault =>
    simp only [accountStep] at taken
    split at taken
    next req current =>
      cases taken
      exact .registerLooked
    next oldAccount jwk current =>
      cases taken
      exact .rolloverLooked
    · cases taken
  | write c fault =>
    simp only [accountStep] at taken
    split at taken
    next req acct current =>
      cases taken
      exact .registered acct fault
    next oldAccount jwk old thumb pem current =>
      cases taken
      exact .rolled fault current
    · cases taken

end Service

end Certctl.Source.Acme

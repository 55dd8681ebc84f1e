import Certctl.Lib.Table
import Certctl.Source.Domain

/-!
The removal of personal data from a user row. The data is replaced on the user that was read;
what reaches the table is decided by the columns that the repository's `Update` assigns.

Source: internal/repository/postgres/user.go; internal/auth/user/domain/types.go;
internal/service/user_retention.go.
-/
namespace Certctl.Source.UserRetention

open Lib

/-- A row of `users`; a column that is NULL is read as the empty text. -/
structure User where
  id : String
  tenantID : String
  email : String
  displayName : String
  oidcSubject : Option String
  oidcProviderID : Option String
  passwordHash : String
  lastLoginAt : Time
  webAuthnCredentials : String
  createdAt : Time
  updatedAt : Time
  deactivatedAt : Option Time

namespace User

/-- What the subject constraint compares. -/
def identity (u : User) : Option (String × String) :=
  u.oidcProviderID.bind fun provider => u.oidcSubject.map fun subject => (provider, subject)

def address (u : User) : String × String := (u.tenantID, u.email)

end User

/-- The table with its two constraints. -/
structure Users where
  rows : Table User.id
  addresses : (rows.rows.map User.address).Nodup
  identities : (rows.rows.filterMap User.identity).Nodup

/-- `GetByOIDCSubject`. -/
def Users.getByOIDCSubject (users : Users) (providerID subject : String) : Option User :=
  users.rows.rows.find? fun u => u.identity = some (providerID, subject)

/-- The columns of `Update`. -/
def written (now : Time) (u row : User) : User :=
  { row with
    email := u.email
    displayName := u.displayName
    passwordHash := u.passwordHash
    lastLoginAt := u.lastLoginAt
    webAuthnCredentials := u.webAuthnCredentials
    deactivatedAt := u.deactivatedAt
    updatedAt := now }

variable {now : Time} {u : User}

theorem identities_update {t t' : Table User.id}
    (updated : t.update u.id (written now u) (fun _ => rfl) = some t') :
    t'.rows.filterMap User.identity = t.rows.filterMap User.identity := by
  obtain ⟨rfl, _⟩ := Table.update_eq updated
  simp only [Table.updateWhere, List.filterMap_map]
  congr 1
  funext row
  simp only [Function.comp]
  split <;> rfl

/-- `Update`. -/
def Users.update (users : Users) (fault : Option String) (now : Time) (u : User) :
    Except String Users := do
  attempt fault ("users update: " ++ ·)
  match updated : users.rows.update u.id (written now u) (fun _ => rfl) with
  | none => .error "user: not found"
  | some rows =>
    if addresses : (rows.rows.map User.address).Nodup then
      .ok ⟨rows, addresses, by rw [identities_update updated]; exact users.identities⟩
    else .error ("users update: pq: duplicate key value violates unique constraint " ++
      "\"users_email_key\"")

def purgedEmail : String := "purged@redacted.local"

def purgedName : String := "[purged]"

/-- The user as it is handed to `Update`; `digest` is SHA-256 in hexadecimal. -/
def scrubbed (digest : String → String) (u : User) : User :=
  let subject := u.oidcSubject.getD ""
  { u with
    oidcSubject := if subject.startsWith "sha256:" then subject else "sha256:" ++ digest subject
    email := purgedEmail
    displayName := purgedName
    webAuthnCredentials := "[]" }

structure Faults where
  get : Option String
  update : Option String

/-- `DeleteUserPII`; a failed revocation of the sessions does not stop it. -/
def deleteUserPII (digest : String → String) (faults : Faults) (now : Time) (users : Users)
    (userID : String) : Except String Users := do
  attempt faults.get fun cause => "user_retention: load " ++ userID ++ ": users get: " ++ cause
  let u ← orFail (users.rows.get? userID) ("user_retention: load " ++ userID ++ ": user: not found")
  (users.update faults.update now (scrubbed digest u)).mapError
    ("user_retention: update " ++ userID ++ ": " ++ ·)

theorem deleteUserPII_row {digest : String → String} {faults : Faults}
    {users users' : Users} {userID : String} (found : users.rows.get? userID = some u)
    (deleted : deleteUserPII digest faults now users userID = .ok users') :
    users'.rows.get? userID = some (written now (scrubbed digest u) u) := by
  obtain ⟨_, -, deleted⟩ := bind_eq_ok.mp deleted
  obtain ⟨read, present, deleted⟩ := bind_eq_ok.mp deleted
  obtain rfl : u = read := Option.some.inj (found.symm.trans (orFail_eq_ok.mp present))
  obtain ⟨_, -, deleted⟩ := bind_eq_ok.mp ((mapError_eq_ok _).mp deleted)
  split at deleted
  · cases deleted
  next rows updated =>
    split at deleted
    · cases deleted
      have keyed := Table.get?_key found
      have row := Table.get?_update updated userID
      rwa [show (scrubbed digest u).id = userID from keyed, if_pos rfl, found] at row
    · cases deleted

end Certctl.Source.UserRetention

import Certctl.Lib.Table
import Certctl.Source.Domain

/-!
Sessions and the rotation of their CSRF tokens. `Validate` measures idleness from the last
request, the rotation for an actor from the deadline written when the session was created.

Source: internal/auth/session/service.go; internal/repository/postgres/session.go;
internal/auth/session/domain/types.go.
-/
namespace Certctl.Source.Auth

open Lib

/-- A row of `sessions`. -/
structure Session where
  id : String
  tenantID : String
  actorID : String
  actorType : String
  isPreLogin : Bool
  csrfTokenHash : String
  idleExpiresAt : Time
  absoluteExpiresAt : Time
  createdAt : Time
  lastSeenAt : Time
  ipAddress : String
  userAgent : String
  revokedAt : Option Time

inductive SessionError where
  | invalidCookie | signingKeyNotFound | signingKeyRetired | revoked | expiredAbsolute
  | expiredIdle | ipMismatch | uaMismatch

structure ValidateInput where
  cookieValue : String
  clientIP : String
  userAgent : String

/-- The configuration; `authenticate` is the part of `Validate` that looks at the cookie and its
signing key and gives the id of the session. -/
structure SessionService where
  tenantID : String
  idleTimeout : Time
  bindIP : Bool
  bindUserAgent : Bool
  authenticate : Time → String → Except SessionError String
  hashCSRFToken : String → String

/-- Both texts are there and differ. -/
def mismatch (given stored : String) : Prop := given ≠ "" ∧ stored ≠ "" ∧ given ≠ stored

instance (given stored : String) : Decidable (mismatch given stored) :=
  inferInstanceAs (Decidable (_ ∧ _))

section Service

variable (svc : SessionService) (sessions : Table Session.id) (now : Time)

def validate (input : ValidateInput) : Except SessionError Session := do
  let sessionID ← svc.authenticate now input.cookieValue
  let row ← orFail (sessions.get? sessionID) .invalidCookie
  ensure (row.revokedAt = none) .revoked
  ensure (now < row.absoluteExpiresAt) .expiredAbsolute
  ensure (now < row.lastSeenAt + svc.idleTimeout) .expiredIdle
  ensure (¬ (svc.bindIP ∧ mismatch input.clientIP row.ipAddress)) .ipMismatch
  ensure (¬ (svc.bindUserAgent ∧ mismatch input.userAgent row.userAgent)) .uaMismatch
  return row

def Session.ofActor (tenantID actorID actorType : String) (row : Session) : Bool :=
  decide (row.actorID = actorID) && decide (row.actorType = actorType) &&
    decide (row.tenantID = tenantID)

/-- The newest first. -/
def listByActor (actorID actorType tenantID : String) : List Session :=
  (sessions.rows.filter fun row => row.ofActor tenantID actorID actorType &&
    decide (row.revokedAt = none) && !row.isPreLogin && decide (row.absoluteExpiresAt > now)
    ).insertionSort fun a b => a.createdAt ≥ b.createdAt

/-- The rows that the rotation passes over. -/
def Session.passedOver (row : Session) : Bool :=
  row.revokedAt.isSome || decide (row.absoluteExpiresAt < now) || decide (row.idleExpiresAt < now)

def rotateCSRFToken (token id : String) : Option (Table Session.id) :=
  sessions.update id (fun row => { row with csrfTokenHash := svc.hashCSRFToken token }) fun _ => rfl

/-- The turns of the loop; `tokens` gives what is drawn in the turn of a session. -/
def rotateAll (tokens : String → String) :
    List Session → Table Session.id × Nat → Table Session.id × Nat
  | [], result => result
  | row :: rest, (sessions, rotated) =>
    match rotateCSRFToken svc sessions (tokens row.id) row.id with
    | none => rotateAll tokens rest (sessions, rotated)
    | some sessions => rotateAll tokens rest (sessions, rotated + 1)

/-- The table afterwards and the number of sessions rotated. -/
def rotateCSRFTokenForActor (tokens : String → String) (actorID actorType : String) :
    Table Session.id × Nat :=
  let rows := listByActor sessions now actorID actorType svc.tenantID
  rotateAll svc tokens (rows.filter fun row => !row.passedOver now) (sessions, 0)

end Service

variable {svc : SessionService} {sessions : Table Session.id} {now : Time}
  {tokens : String → String}

theorem get?_rotateAll (rows : List Session) (sessions : Table Session.id) (n : Nat) (id : String) :
    (rotateAll svc tokens rows (sessions, n)).1.get? id =
      (sessions.get? id).map fun row => if id ∈ rows.map Session.id then
        { row with csrfTokenHash := svc.hashCSRFToken (tokens id) } else row := by
  induction rows generalizing sessions n with
  | nil => simp [rotateAll]
  | cons head rest ih =>
    unfold rotateAll
    split
    next missed =>
      have absent := Table.update_eq_none missed
      rw [ih]
      by_cases same : id = head.id
      · rw [same, absent, Option.map_none, Option.map_none]
      · simp [same]
    next updated =>
      rw [ih, Table.get?_update updated]
      by_cases same : id = head.id
      · subst same
        cases sessions.get? head.id <;> simp
      · simp [same]

theorem get?_rotateCSRFTokenForActor {actorID actorType : String} {row : Session}
    (stored : row ∈ sessions.rows) :
    (rotateCSRFTokenForActor svc sessions now tokens actorID actorType).1.get? row.id =
      some (if row.ofActor svc.tenantID actorID actorType ∧ row.revokedAt = none ∧
          row.isPreLogin = false ∧ now < row.absoluteExpiresAt ∧ now ≤ row.idleExpiresAt then
        { row with csrfTokenHash := svc.hashCSRFToken (tokens row.id) } else row) := by
  have found := Table.get?_of_mem stored
  rw [rotateCSRFTokenForActor, get?_rotateAll, found, Option.map_some]
  congr 1
  refine if_congr (Iff.trans ⟨fun named => ?_, List.mem_map_of_mem⟩ ?_) rfl rfl
  · obtain ⟨other, among, same⟩ := List.mem_map.mp named
    have listed : other ∈ sessions.rows := by
      simp only [listByActor, List.mem_filter, List.mem_insertionSort] at among
      exact among.1.1
    have again := Table.get?_of_mem listed
    rw [same, found] at again
    cases again
    exact among
  · simp only [listByActor, Session.passedOver, List.mem_filter, List.mem_insertionSort, stored]
    grind

end Certctl.Source.Auth

import Certctl.Lib.HashChain
import Certctl.Source.RateLimit.Postgres

/-!
The `audit_events` table and its hash chain: the insert with its trigger, the backfill of
the migration, and the verifier, which walks the table in (timestamp, id) order. An insert
locks the single row of `audit_chain_head` until its transaction ends, so transactions
append to the chain one after another, in the order in which they get the lock.

Source: migrations/000047_audit_events_hash_chain.up.sql; internal/service/audit.go;
internal/repository/postgres/audit.go, db.go; internal/domain/audit.go.
-/
namespace Certctl.Source.AuditChain

open Lib
open RateLimit.Postgres (TimestampRounding)

inductive EventCategory where
  | certLifecycle | auth | config
  deriving DecidableEq

def EventCategory.text : EventCategory → String
  | .certLifecycle => "cert_lifecycle"
  | .auth => "auth"
  | .config => "config"

/-- The values the CHECK constraint of `event_category` lets through. -/
def EventCategory.ofText (s : String) : Option EventCategory :=
  if s = "cert_lifecycle" then some .certLifecycle
  else if s = "auth" then some .auth
  else if s = "config" then some .config
  else none

structure AuditEvent where
  id : String
  timestamp : Time
  actor : String
  actorType : String
  action : String
  resourceType : String
  resourceID : String
  /-- The JSON text, `none` for a nil message. -/
  details : Option String
  eventCategory : String

/-- A row of `audit_events`. `details` is the text of the stored JSONB value. -/
@[ext]
structure Row where
  id : String
  actor : String
  actorType : String
  action : String
  resourceType : String
  resourceID : String
  details : Option String
  timestamp : Time
  eventCategory : EventCategory
  prevHash : Option String
  rowHash : String
  deriving DecidableEq

def hexDigits : List Char :=
  ['0', '1', '2', '3', '4', '5', '6', '7', '8', '9', 'a', 'b', 'c', 'd', 'e', 'f']

/-- What the database server contributes: the hex-encoded SHA-256, the UTC text of a
timestamp, the normal form of a JSONB text (`none` when it is not JSON), the precision of a
`timestamptz`, and the collation that orders the ids. -/
structure Server where
  sha256 : String → String
  sha256_length : ∀ s, (sha256 s).toList.length = 64
  sha256_hex : ∀ s, ∀ c ∈ (sha256 s).toList, c ∈ hexDigits
  toChar : Time → String
  jsonb : String → Option String
  rounding : TimestampRounding
  idLE : String → String → Bool
  idLE_trans : ∀ a b c, idLE a b → idLE b c → idLE a c
  idLE_total : ∀ a b, idLE a b ∨ idLE b a
  idLE_antisymm : ∀ a b, idLE a b → idLE b a → a = b

/-- The nine fields that `audit_events_canonical_payload` joins behind the hash. -/
def Row.fieldsText (server : Server) (r : Row) : String :=
  r.id ++ "|" ++ r.actor ++ "|" ++ r.actorType ++ "|" ++ r.action ++ "|" ++ r.resourceType ++
    "|" ++ r.resourceID ++ "|" ++ r.details.getD "" ++ "|" ++ server.toChar r.timestamp ++
    "|" ++ r.eventCategory.text

/-- `audit_events_canonical_payload`. -/
def canonicalPayload (server : Server) (prevHash : Option String) (r : Row) : String :=
  prevHash.getD "" ++ "|" ++ r.fieldsText server

/-- The two hash columns, filled in behind `prevHash`. -/
def Row.stamp (server : Server) (prevHash : Option String) (r : Row) : Row :=
  { r with
    prevHash := prevHash
    rowHash := server.sha256 (canonicalPayload server prevHash r) }

structure DB where
  /-- The hash in `audit_chain_head`, `none` without the row. -/
  head : Option String
  events : Table Row.id

/-- The hash a new row names: NULL while the head is missing or empty. -/
def prevOfHead (head : Option String) : Option String :=
  if head = none ∨ head = some "" then none else head

/-- `audit_events_compute_hash_chain`: the row and the head behind it. -/
def computeHashChain (server : Server) (head : Option String) (new : Row) :
    Row × Option String :=
  let stamped := new.stamp server (prevOfHead head)
  (stamped, head.map (fun _ => stamped.rowHash))

def errCreate (e : String) : String := "failed to create audit event: " ++ e

def errTooLong (n : Nat) : String :=
  "pq: value too long for type character varying(" ++ toString n ++ ")"

def errCategory : String :=
  "pq: new row for relation \"audit_events\" violates check constraint " ++
    "\"audit_events_event_category_check\""

def errDuplicate : String :=
  "pq: duplicate key value violates unique constraint \"audit_events_pkey\""

def errJSON : String := "pq: invalid input syntax for type json"

/-- A text for a `character varying(n)` column: only blanks may be cut off. -/
def varchar (n : Nat) (s : String) : Except String String :=
  if s.length ≤ n then .ok s
  else if (s.toList.drop n).all (· = ' ') then .ok (String.ofList (s.toList.take n))
  else .error (errTooLong n)

/-- A text for a nullable JSONB column. -/
def jsonbColumn (server : Server) (details : Option String) : Except String (Option String) :=
  match details with
  | none => .ok none
  | some text => orFail ((server.jsonb text).map some) errJSON

/-- The columns of the INSERT, with the defaults of `CreateWithTx` and the CHECK constraint. -/
def AuditEvent.toRow (server : Server) (newUUID : String) (event : AuditEvent) :
    Except String Row := do
  let actor ← varchar 255 event.actor
  let actorType ← varchar 50 event.actorType
  let action ← varchar 255 event.action
  let resourceType ← varchar 255 event.resourceType
  let resourceID ← varchar 255 event.resourceID
  let details ← jsonbColumn server event.details
  let category := if event.eventCategory = "" then "cert_lifecycle" else event.eventCategory
  let eventCategory ← orFail (EventCategory.ofText category) errCategory
  pure
    { id := if event.id = "" then newUUID else event.id
      actor := actor
      actorType := actorType
      action := action
      resourceType := resourceType
      resourceID := resourceID
      details := details
      timestamp := server.rounding.round event.timestamp
      eventCategory := eventCategory
      prevHash := none
      rowHash := "" }

/-- `AuditRepository.CreateWithTx`. -/
def createWithTx (server : Server) (newUUID : String) (db : DB) (event : AuditEvent) :
    Except String DB := do
  let row ← (event.toRow server newUUID).mapError errCreate
  let new := computeHashChain server db.head row
  let events ← orFail (db.events.insert new.1) (errCreate errDuplicate)
  pure { head := new.2, events := events }

/-- The event of `AuditService.RecordEventWithCategory`, of the clock reading, the generated
id and the marshalled, redacted details (`none` when they do not marshal). -/
def recordEvent (now : Time) (generatedID actor actorType action eventCategory resourceType
    resourceID : String) (marshalled : Option String) : AuditEvent where
  id := generatedID
  timestamp := now
  actor := actor
  actorType := actorType
  action := action
  resourceType := resourceType
  resourceID := resourceID
  details := some (marshalled.getD "{}")
  eventCategory := eventCategory

/-! ### The verifier -/

/-- `ORDER BY timestamp ASC, id ASC`. -/
def Row.before (server : Server) (a b : Row) : Prop :=
  a.timestamp < b.timestamp ∨ a.timestamp = b.timestamp ∧ server.idLE a.id b.id = true

instance (server : Server) : DecidableRel (Row.before server) :=
  fun _ _ => inferInstanceAs (Decidable (_ < _ ∨ _ = _ ∧ _ = _))

def verifierOrder (server : Server) (rows : List Row) : List Row :=
  rows.insertionSort (Row.before server)

structure Verdict where
  firstBreakID : Option String
  firstBreakPos : Int
  rowCount : Nat
  deriving DecidableEq

/-- The loop of `audit_events_verify_chain` over the rows that are left. -/
def verifyFrom (server : Server) : String → Nat → List Row → Verdict
  | _, pos, [] => ⟨none, -1, pos⟩
  | expected, pos, r :: rest =>
    if pos = 0 ∧ r.prevHash ≠ none ∨ pos > 0 ∧ r.prevHash ≠ some expected then
      ⟨some r.id, pos, pos + 1⟩
    else if server.sha256 (canonicalPayload server r.prevHash r) ≠ r.rowHash then
      ⟨some r.id, pos, pos + 1⟩
    else verifyFrom server r.rowHash (pos + 1) rest

/-- `audit_events_verify_chain`. -/
def verifyChain (server : Server) (db : DB) : Verdict :=
  verifyFrom server "" 0 (verifierOrder server db.events.rows)

/-! ### The migration -/

/-- The backfill loop, from `cur_hash` on: the rows with their hash columns and the last
hash. -/
def backfillFrom (server : Server) : String → List Row → List Row × String
  | curHash, [] => ([], curHash)
  | curHash, r :: rest =>
    let stamped := r.stamp server (if curHash = "" then none else some curHash)
    let (later, last) := backfillFrom server stamped.rowHash rest
    (stamped :: later, last)

/-- Apart from its hash columns a row stays as it is. -/
theorem map_backfillFrom {α : Type} {f : Row → α} (server : Server)
    (kept : ∀ r prev, f (r.stamp server prev) = f r) (rows : List Row) (curHash : String) :
    (backfillFrom server curHash rows).1.map f = rows.map f := by
  induction rows generalizing curHash with
  | nil => rfl
  | cons r rest ih => simp [backfillFrom, ih, kept]

/-- Migration 000047 on the rows of the time before it. -/
def migrate (server : Server) (existing : Table Row.id) : DB where
  head := some (backfillFrom server "" (verifierOrder server existing.rows)).2
  events :=
    { rows := (backfillFrom server "" (verifierOrder server existing.rows)).1
      unique := by
        have same : ((backfillFrom server "" (verifierOrder server existing.rows)).1.map
            Row.id).Perm (existing.rows.map Row.id) := by
          rw [map_backfillFrom server (fun _ _ => rfl)]
          exact (List.perm_insertionSort _ existing.rows).map Row.id
        exact same.nodup_iff.mpr existing.unique }

/-- The migration once more, as `RunMigrations` runs it when its version was not recorded: no
row is without a hash, so the loop has nothing to do. -/
def migrateAgain (server : Server) (db : DB) : DB :=
  { db with head := some (backfillFrom server "" []).2 }

/-! ### Concurrent transactions -/

/-- The committed tables, and the transaction that holds the lock with its own view. -/
structure State where
  db : DB
  holder : Option (Nat × DB)

inductive Label where
  /-- Transaction `c` inserts an event. -/
  | create (c : Nat) (event : AuditEvent) (newUUID : String)
  | commit (c : Nat)
  | rollback (c : Nat)

/-- The insert of transaction `c` on the tables it sees. A failed statement aborts it. -/
def State.attempt (server : Server) (s : State) (c : Nat) (event : AuditEvent)
    (newUUID : String) (view : DB) : State :=
  match createWithTx server newUUID view event with
  | .ok db => { s with holder := some (c, db) }
  | .error _ => { s with holder := none }

/-- An insert waits while another transaction holds the row of `audit_chain_head`. -/
def step (server : Server) (s : State) : Label → Option State
  | .create c event newUUID =>
    match s.holder with
    | none => some (s.attempt server c event newUUID s.db)
    | some (h, view) => if h = c then some (s.attempt server c event newUUID view) else none
  | .commit c =>
    match s.holder with
    | some (h, view) => if h = c then some { db := view, holder := none } else none
    | none => none
  | .rollback c =>
    match s.holder with
    | some (h, _) => if h = c then some { s with holder := none } else none
    | none => none

/-- The state in which the server starts, behind the migration. -/
def Migrated (server : Server) (s : State) : Prop :=
  ∃ existing, s = { db := migrate server existing, holder := none }

/-! ### What the verifier accepts -/

/-- The chain that the rows carry in their hash columns. -/
def chain (server : Server) : HashChain Row String where
  prev := Row.prevHash
  own := Row.rowHash
  recomputed := fun r => server.sha256 (canonicalPayload server r.prevHash r)

/-- No two payloads of the rows have one hash. -/
def CollisionFree (server : Server) (rows : List Row) : Prop :=
  ∀ a ∈ rows, ∀ b ∈ rows,
    server.sha256 (canonicalPayload server a.prevHash a) =
        server.sha256 (canonicalPayload server b.prevHash b) →
      canonicalPayload server a.prevHash a = canonicalPayload server b.prevHash b

variable {server : Server} {rows : List Row}

theorem verifyFrom_clean_iff (expected : String) (pos : Nat) :
    (verifyFrom server expected pos rows).firstBreakID = none ↔
      (chain server).Linked (if pos = 0 then none else some expected) rows := by
  induction rows generalizing expected pos with
  | nil => simp [verifyFrom, HashChain.Linked]
  | cons r rest ih =>
    have named : (pos = 0 ∧ r.prevHash ≠ none ∨ pos > 0 ∧ r.prevHash ≠ some expected) ↔
        r.prevHash ≠ if pos = 0 then none else some expected := by
      by_cases first : pos = 0
      · simp [first]
      · simp [first, Nat.pos_of_ne_zero first]
    have later := ih r.rowHash (pos + 1)
    rw [verifyFrom, HashChain.Linked]
    by_cases right : r.prevHash = if pos = 0 then none else some expected
    · rw [if_neg (named.not.mpr (not_not.mpr right))]
      by_cases sealed : server.sha256 (canonicalPayload server r.prevHash r) = r.rowHash
      · rw [if_neg (not_not.mpr sealed), later]
        exact ⟨fun linked => ⟨right, sealed, linked⟩, fun linked => linked.2.2⟩
      · rw [if_pos sealed]
        exact ⟨fun clean => (by cases clean), fun linked => absurd linked.2.1 sealed⟩
    · rw [if_pos (named.mpr right)]
      exact ⟨fun clean => (by cases clean), fun linked => absurd linked.1 right⟩

/-- The verifier reports no break exactly when the rows form a chain in its order. -/
theorem verifyChain_clean_iff (db : DB) :
    (verifyChain server db).firstBreakID = none ↔
      (chain server).Linked none (verifierOrder server db.events.rows) :=
  verifyFrom_clean_iff "" 0

theorem sha256_ne_empty (s : String) : server.sha256 s ≠ "" := by
  intro empty
  have length := server.sha256_length s
  simp [empty] at length

theorem separator_not_mem_sha256 (s : String) : '|' ∉ (server.sha256 s).toList := by
  intro member
  have hex := server.sha256_hex s _ member
  revert hex
  decide

theorem perm_verifierOrder (rows : List Row) : (verifierOrder server rows).Perm rows :=
  List.perm_insertionSort _ rows

instance : Std.Total (Row.before server) where
  total a b := by
    unfold Row.before
    rcases Int.lt_trichotomy a.timestamp b.timestamp with less | same | more
    · exact .inl (.inl less)
    · rcases server.idLE_total a.id b.id with le | le
      · exact .inl (.inr ⟨same, le⟩)
      · exact .inr (.inr ⟨same.symm, le⟩)
    · exact .inr (.inl more)

instance : IsTrans Row (Row.before server) where
  trans a b c := by
    unfold Row.before
    rintro (less | ⟨same, le⟩) (less' | ⟨same', le'⟩)
    · exact .inl (Int.lt_trans less less')
    · exact .inl (same' ▸ less)
    · exact .inl (same ▸ less')
    · exact .inr ⟨same.trans same', server.idLE_trans _ _ _ le le'⟩

theorem pairwise_verifierOrder (rows : List Row) :
    (verifierOrder server rows).Pairwise (Row.before server) :=
  List.pairwise_insertionSort _ rows

theorem toList_separator : "|".toList = ['|'] := by decide

/-- NULL and the empty text would join alike. -/
theorem eq_of_getD_eq {x y : Option String} (filledX : x ≠ some "") (filledY : y ≠ some "")
    (same : x.getD "" = y.getD "") : x = y := by
  cases x with
  | none =>
    cases y with
    | none => rfl
    | some t => exact absurd (congrArg some same.symm) filledY
  | some s =>
    cases y with
    | none => exact absurd (congrArg some same) filledX
    | some t => exact congrArg some same

/-- A payload tells the hash in front of its first separator. -/
theorem prevHash_eq_of_payload_eq {prev prev' : Option String} {r r' : Row}
    (known : prev = none ∨ ∃ t, prev = some (server.sha256 t))
    (known' : prev' = none ∨ ∃ t, prev' = some (server.sha256 t))
    (same : canonicalPayload server prev r = canonicalPayload server prev' r') :
    prev = prev' := by
  have clean : ∀ {p : Option String}, (p = none ∨ ∃ t, p = some (server.sha256 t)) →
      '|' ∉ (p.getD "").toList ∧ p ≠ some "" := by
    rintro p (rfl | ⟨t, rfl⟩)
    · simp
    · exact ⟨separator_not_mem_sha256 t, fun empty => sha256_ne_empty t (Option.some.inj empty)⟩
  have texts := congrArg String.toList same
  simp only [canonicalPayload, String.toList_append, toList_separator, List.append_assoc,
    List.singleton_append] at texts
  have heads := (append_cons_inj_first (clean known).1 (clean known').1 texts).1
  exact eq_of_getD_eq (clean known).2 (clean known').2 (String.toList_inj.mp heads)

/-- In a chain from nothing every row names a hash that was computed. -/
theorem prevHash_known (linked : (chain server).Linked none rows) {r : Row} (member : r ∈ rows) :
    r.prevHash = none ∨ ∃ t, r.prevHash = some (server.sha256 t) := by
  obtain ⟨j, found⟩ := List.mem_iff_getElem?.mp member
  rcases linked.prev_cases found with ⟨-, start⟩ | ⟨i, a, -, before, named⟩
  · exact .inl start
  · right
    refine ⟨canonicalPayload server a.prevHash a, ?_⟩
    rw [show r.prevHash = some a.rowHash from named]
    exact congrArg some (linked.recomputed_eq a (List.mem_of_getElem? before)).symm

/-- Without collisions the hash of a row settles the one it names. -/
theorem commits_of_collisionFree (linked : (chain server).Linked none rows)
    (free : CollisionFree server rows) : (chain server).Commits rows := by
  intro a memberA b memberB same
  exact prevHash_eq_of_payload_eq (prevHash_known linked memberA) (prevHash_known linked memberB)
    (free a memberA b memberB same)

/-! ### What the inserts build -/

/-- The rows form a chain in the order of their inserts, and the head is its last hash. -/
def Chained (server : Server) (db : DB) : Prop :=
  (chain server).Linked none db.events.rows ∧
    db.head = some (((chain server).tip none db.events.rows).getD "")

/-- The hash the next row of the backfill names. -/
abbrev prevOf (curHash : String) : Option String := if curHash = "" then none else some curHash

theorem linked_backfillFrom (server : Server) (curHash : String) (rows : List Row) :
    (chain server).Linked (prevOf curHash) (backfillFrom server curHash rows).1 ∧
      (backfillFrom server curHash rows).2 =
        ((chain server).tip (prevOf curHash) (backfillFrom server curHash rows).1).getD "" := by
  induction rows generalizing curHash with
  | nil =>
    refine ⟨trivial, ?_⟩
    simp only [backfillFrom, HashChain.tip, List.getLast?_nil, Option.map_none, Option.none_or,
      prevOf]
    split <;> simp_all
  | cons r rest ih =>
    have later := ih (r.stamp server (prevOf curHash)).rowHash
    have filled : (r.stamp server (prevOf curHash)).rowHash ≠ "" := sha256_ne_empty _
    rw [prevOf, if_neg filled] at later
    refine ⟨⟨rfl, rfl, later.1⟩, ?_⟩
    simp only [backfillFrom]
    rw [later.2, HashChain.tip_cons]
    rfl

/-- A row that is stamped again takes the columns of the last stamp. -/
theorem backfillFrom_backfillFrom (curHash : String) (rows : List Row) :
    backfillFrom server curHash (backfillFrom server curHash rows).1 =
      backfillFrom server curHash rows := by
  induction rows generalizing curHash with
  | nil => rfl
  | cons r rest ih =>
    have again := ih (r.stamp server (prevOf curHash)).rowHash
    simp only [backfillFrom]
    rw [show (r.stamp server (prevOf curHash)).stamp server (prevOf curHash) =
      r.stamp server (prevOf curHash) from rfl, again]

theorem pairwise_backfillFrom {curHash : String}
    (ascends : rows.Pairwise (Row.before server)) :
    (backfillFrom server curHash rows).1.Pairwise (Row.before server) := by
  have byKey : ∀ rows : List Row, rows.Pairwise (Row.before server) ↔
      (rows.map (fun r => (r.timestamp, r.id))).Pairwise
        (fun a b => a.1 < b.1 ∨ a.1 = b.1 ∧ server.idLE a.2 b.2 = true) := by
    intro rows
    rw [List.pairwise_map]
    rfl
  rw [byKey, map_backfillFrom server (fun _ _ => rfl), ← byKey]
  exact ascends

theorem chained_migrate (existing : Table Row.id) : Chained server (migrate server existing) := by
  have backfilled := linked_backfillFrom server "" (verifierOrder server existing.rows)
  exact ⟨backfilled.1, congrArg some backfilled.2⟩

variable {event : AuditEvent} {newUUID : String} {db db' : DB} {s : State}

/-- A successful insert appends one row, stamped behind the head. -/
theorem createWithTx_ok (created : createWithTx server newUUID db event = .ok db') :
    ∃ row : Row, db'.events.rows = db.events.rows ++ [row.stamp server (prevOfHead db.head)] ∧
      db'.head = db.head.map (fun _ => (row.stamp server (prevOfHead db.head)).rowHash) := by
  obtain ⟨row, -, created⟩ := bind_eq_ok.mp created
  obtain ⟨events, inserted, created⟩ := bind_eq_ok.mp created
  cases created
  exact ⟨row, (Table.insert_rows (orFail_eq_ok.mp inserted)).1, rfl⟩

theorem prevOfHead_getD {last : Option String} (nonempty : last ≠ some "") :
    prevOfHead (some (last.getD "")) = last := by
  cases last with
  | none => simp [prevOfHead]
  | some hash =>
    have filled : hash ≠ "" := fun empty => nonempty (congrArg some empty)
    simp [prevOfHead, filled]

/-- The last hash of a chain is not the empty text. -/
theorem tip_ne_empty (linked : (chain server).Linked none rows) :
    (chain server).tip none rows ≠ some "" := by
  intro empty
  simp only [HashChain.tip, Option.or_none, Option.map_eq_some_iff] at empty
  obtain ⟨r, last, blank⟩ := empty
  have member := List.mem_of_getLast? last
  have recomputed := linked.recomputed_eq r member
  rw [blank] at recomputed
  exact sha256_ne_empty _ recomputed

theorem Chained.createWithTx
    (chained : Chained server db) (created : createWithTx server newUUID db event = .ok db') :
    Chained server db' := by
  obtain ⟨linked, head⟩ := chained
  obtain ⟨row, appended, head'⟩ := createWithTx_ok created
  have named : prevOfHead db.head = (chain server).tip none db.events.rows := by
    rw [head, prevOfHead_getD (tip_ne_empty linked)]
  constructor
  · rw [appended, HashChain.linked_append_singleton]
    -- a stamped row has the hash that is recomputed from it
    exact ⟨linked, named, rfl⟩
  · rw [appended, head', head, HashChain.tip_append_singleton]
    rfl

/-- The committed tables hold a chain, and so does the view of the transaction that has the
lock. -/
def AllChained (server : Server) (s : State) : Prop :=
  Chained server s.db ∧ ∀ c view, s.holder = some (c, view) → Chained server view

theorem AllChained.attempt (chained : AllChained server s) (c : Nat)
    (event : AuditEvent) (newUUID : String) {view : DB} (chainedView : Chained server view) :
    AllChained server (s.attempt server c event newUUID view) := by
  unfold State.attempt
  cases created : Source.AuditChain.createWithTx server newUUID view event with
  | error e => exact ⟨chained.1, fun c' view' held => (by cases held)⟩
  | ok db =>
    refine ⟨chained.1, fun c' view' held => ?_⟩
    cases held
    exact chainedView.createWithTx created

theorem AllChained.step {s' : State} {label : Label} (chained : AllChained server s)
    (taken : step server s label = some s') : AllChained server s' := by
  cases held : s.holder with
  | none =>
    cases label with
    | create c event newUUID =>
      simp only [AuditChain.step, held, Option.some.injEq] at taken
      exact taken ▸ chained.attempt c event newUUID chained.1
    | commit | rollback => simp [AuditChain.step, held] at taken
  | some entry =>
    obtain ⟨h, view⟩ := entry
    have chainedView := chained.2 h view held
    cases label
    all_goals
      simp only [AuditChain.step, held, Option.ite_none_right_eq_some, Option.some.injEq] at taken
    case create c event newUUID => exact taken.2 ▸ chained.attempt c event newUUID chainedView
    case commit => exact taken.2 ▸ ⟨chainedView, fun c' view' none => (by cases none)⟩
    case rollback => exact taken.2 ▸ ⟨chained.1, fun c' view' none => (by cases none)⟩

theorem chained_of_reachable (reached : Reachable (step server) (Migrated server) s) :
    AllChained server s := by
  refine reached.invariant (I := AllChained server) ?_ ?_
  · rintro s ⟨existing, rfl⟩
    exact ⟨chained_migrate existing, fun c view held => (by cases held)⟩
  · intro s label s' chained _ taken
    exact chained.step taken

/-! ### A server to evaluate the model with -/

instance (rows : List Row) : Decidable (CollisionFree server rows) :=
  inferInstanceAs (Decidable (∀ a ∈ rows, ∀ b ∈ rows, _ → _))

def hexDigit (n : Nat) : Char := hexDigits.getD n '0'

theorem hexDigit_mem (n : Nat) : hexDigit n ∈ hexDigits := by
  rw [hexDigit, List.getD_eq_getElem?_getD]
  cases found : hexDigits[n]? with
  | none => decide
  | some c => exact List.mem_of_getElem? found

end Certctl.Source.AuditChain

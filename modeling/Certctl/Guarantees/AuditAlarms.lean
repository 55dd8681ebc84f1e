import Certctl.Source.AuditChain

/-!
When the verifier of the audit chain raises an alarm on a table that nobody tampered with.
The chain is linked in the order in which transactions get the lock on `audit_chain_head`;
the verifier walks the rows by timestamp and id. It reports no break exactly when the two
orders agree. A second run of the migration starts a new chain, which is a break as well.
-/
namespace Certctl.Guarantees.AuditAlarms

open Lib Source Source.AuditChain
open RateLimit.Postgres (TimestampRounding)

variable {server : Server} {db : DB}

/-- Rows that stand in ascending order are walked as they stand. -/
theorem verifierOrder_eq_iff :
    verifierOrder server db.events.rows = db.events.rows ↔
      db.events.rows.Pairwise (Row.before server) := by
  constructor
  · intro same
    exact same ▸ pairwise_verifierOrder db.events.rows
  · exact List.Pairwise.insertionSort_eq

/-- On a table that only inserts built, the walk accepts the order of the inserts and no
other. -/
theorem clean_iff_of_chained (chained : Chained server db)
    (free : CollisionFree server db.events.rows) :
    (verifyChain server db).firstBreakID = none ↔
      db.events.rows.Pairwise (Row.before server) := by
  rw [verifyChain_clean_iff, ← verifierOrder_eq_iff]
  constructor
  · intro passes
    exact chained.1.eq_of_perm (commits_of_collisionFree chained.1 free)
      (perm_verifierOrder db.events.rows) passes
  · intro same
    rw [same]
    exact chained.1

/-- In every state that concurrent transactions reach, the verifier reports no break if and
only if the committed rows, in the order in which their transactions got the lock, ascend in
timestamp and id. -/
theorem clean_iff_lock_order_ascends {s : State}
    (reached : Reachable (step server) (Migrated server) s)
    (free : CollisionFree server s.db.events.rows) :
    (verifyChain server s.db).firstBreakID = none ↔
      s.db.events.rows.Pairwise (Row.before server) :=
  clean_iff_of_chained (chained_of_reachable reached).1 free

/-- After the migration has run twice, the first event recorded is an alarm on every table that
keeps the rows. -/
theorem break_of_migrateAgain {newUUID : String} {event : AuditEvent} {db' later : DB}
    (clean : (verifyChain server db).firstBreakID = none) (nonempty : db.events.rows ≠ [])
    (created : createWithTx server newUUID (migrateAgain server db) event = .ok db')
    (kept : db'.events.rows ⊆ later.events.rows) :
    (verifyChain server later).firstBreakID ≠ none := by
  obtain ⟨row, appended, -⟩ := createWithTx_ok created
  rw [verifyChain_clean_iff] at clean
  rw [ne_eq, verifyChain_clean_iff]
  intro passes
  have start : ∀ r ∈ db'.events.rows, r.prevHash = none →
      (verifierOrder server later.events.rows)[0]? = some r := fun r found =>
    passes.getElem?_zero ((perm_verifierOrder _).mem_iff.mpr (kept found))
  -- The oldest row and the new one both name no hash.
  cases order : verifierOrder server db.events.rows with
  | nil => exact nonempty (List.nil_perm.mp (order ▸ perm_verifierOrder db.events.rows))
  | cons old more =>
    rw [order] at clean
    have member := (perm_verifierOrder db.events.rows).mem_iff.mp (order ▸ List.mem_cons_self)
    have unique := db'.events.unique
    rw [appended] at start unique
    have same := (start old (List.mem_append_left _ member) clean.1).symm.trans
      (start _ List.mem_concat_self rfl)
    rw [Option.some.inj same] at member
    exact List.disjoint_of_nodup_append (.of_map _ unique) member (List.mem_singleton_self _)

/-- A polynomial checksum of the bytes, in 64 hex digits. -/
def checksum (s : String) : String :=
  let sum := s.toUTF8.data.toList.foldl (fun acc b => (acc * 257 + b.toNat) % 2 ^ 256) 0
  String.ofList ((List.range 64).map (fun i => hexDigit (sum / 16 ^ i % 16)))

def wholeMicroseconds : TimestampRounding where
  round t := t - t % 1000
  mono a b le := by
    unfold Time at *
    omega
  whole t := by
    unfold Time at *
    omega
  exact t whole := by
    unfold Time at *
    omega

def checksumServer : Server where
  sha256 := checksum
  sha256_length s := by simp [checksum]
  sha256_hex s c member := by
    simp only [checksum, String.toList_ofList, List.mem_map] at member
    obtain ⟨i, -, rfl⟩ := member
    exact hexDigit_mem _
  toChar t := toString (t / 1000)
  jsonb text := some text
  rounding := wholeMicroseconds
  idLE a b := decide (a ≤ b)
  idLE_trans a b c := by simpa using String.le_trans
  idLE_total a b := by simpa using String.le_total a b
  idLE_antisymm a b := by simpa using String.le_antisymm

/-- Two writers; `slow` reads the clock first. -/
def slow : AuditEvent :=
  recordEvent 1000 "audit-1" "alice" "User" "certificate_revoked" "" "certificate" "mc-1" none

def quick : AuditEvent :=
  recordEvent 2000 "audit-2" "bob" "User" "certificate_revoked" "" "certificate" "mc-2" none

def freshState : State where
  db := migrate checksumServer (Table.empty Row.id)
  holder := none

theorem migrated_freshState : Migrated checksumServer freshState := ⟨Table.empty Row.id, rfl⟩

theorem break_of_migrateAgain_quick :
    ∃ db db', createWithTx checksumServer "" (migrateAgain checksumServer db) quick = .ok db' ∧
      (verifyChain checksumServer db').firstBreakID ≠ none := by
  let old : Row := ⟨"audit-1", "", "", "", "", "", none, 0, .auth, none, ""⟩
  let db := migrate checksumServer ⟨[old], by decide⟩
  cases created : createWithTx checksumServer "" (migrateAgain checksumServer db) quick with
  | error e => cases (congrArg Except.isOk created).symm.trans (by decide +kernel : _ = true)
  | ok db' =>
    exact ⟨db, db', created, break_of_migrateAgain (by decide +kernel) (by decide +kernel) created
      (List.Subset.refl _)⟩

/-- In clock order the hypotheses hold and the walk is clean. -/
theorem clean_in_clock_order :
    ∃ s, Reachable (step checksumServer) (Migrated checksumServer) s ∧
      CollisionFree checksumServer s.db.events.rows ∧ s.db.events.rows.length = 2 ∧
      (verifyChain checksumServer s.db).firstBreakID = none := by
  obtain ⟨s, reached, free, two, ascends⟩ := exists_reached_of_replay (step checksumServer)
    migrated_freshState [.create 0 slow "", .commit 0, .create 1 quick "", .commit 1]
    (fun s => CollisionFree checksumServer s.db.events.rows ∧
      s.db.events.rows.length = 2 ∧ s.db.events.rows.Pairwise (Row.before checksumServer))
    (by decide +kernel)
  exact ⟨s, reached, free, two, (clean_iff_lock_order_ascends reached free).mpr ascends⟩

/-- `quick` gets the lock first: nothing was tampered with, and the verifier reports a break
at the first row. -/
theorem false_alarm :
    ∃ s, Reachable (step checksumServer) (Migrated checksumServer) s ∧
      CollisionFree checksumServer s.db.events.rows ∧
      verifyChain checksumServer s.db = ⟨some "audit-1", 0, 1⟩ :=
  exists_reached_of_replay (step checksumServer) migrated_freshState
    [.create 1 quick "", .commit 1, .create 0 slow "", .commit 0] _ (by decide +kernel)

end Certctl.Guarantees.AuditAlarms

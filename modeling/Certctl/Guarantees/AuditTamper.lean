import Certctl.Guarantees.AuditAlarms

/-!
What the audit chain gives evidence of. A table that is chained in the verifier's order is
changed behind the trigger: rows go, and other columns than the hashes are rewritten. The
verifier reports a break unless, in its order, the rows that are left are the oldest ones and
the nine hashed fields of each, joined by the separator, spell the text they spelled before.
Where the fields are free of the separator, that leaves only the loss of the newest rows.
-/
namespace Certctl.Guarantees.AuditTamper

open Lib Source.AuditChain
open AuditAlarms (checksumServer)

/-- Chained in the verifier's order: the backfill would write the columns that are there. -/
structure Honest (server : Server) (db : DB) : Prop where
  columns : (backfillFrom server "" (verifierOrder server db.events.rows)).1 =
    verifierOrder server db.events.rows
  head : db.head = some (backfillFrom server "" (verifierOrder server db.events.rows)).2

/-- Rows are deleted and fields rewritten; the surviving hashes and the head stay. -/
structure Tampered (db db' : DB) : Prop where
  head : db'.head = db.head
  rows : ∃ survivors : List Row, survivors.Sublist db.events.rows ∧
    List.Forall₂ (fun old new => new.prevHash = old.prevHash ∧ new.rowHash = old.rowHash)
      survivors db'.events.rows

/-- What the chain sees of a row: the hash columns and the joined fields. -/
def spelling (server : Server) (r : Row) : (Option String × String) × String :=
  ((chain server).hashes r, r.fieldsText server)

theorem spelling_eq_iff {server : Server} {a b : Row} :
    spelling server a = spelling server b ↔
      (chain server).hashes a = (chain server).hashes b ∧
        a.fieldsText server = b.fieldsText server := by
  rw [spelling, spelling, Prod.mk.injEq]

/-- Only newest rows are gone, and every other row spells what it spelled. -/
def Concealed (server : Server) (db db' : DB) : Prop :=
  (verifierOrder server db'.events.rows).map (spelling server) =
    ((verifierOrder server db.events.rows).take db'.events.rows.length).map (spelling server)

section Detection

variable {server : Server} {db db' : DB}

theorem Honest.linked (honest : Honest server db) :
    (chain server).Linked none (verifierOrder server db.events.rows) :=
  honest.columns ▸ (linked_backfillFrom server "" (verifierOrder server db.events.rows)).1

/-- The migration leaves an honest table. -/
theorem honest_migrate (existing : Table Row.id) : Honest server (migrate server existing) := by
  have stored : verifierOrder server (migrate server existing).events.rows =
      (backfillFrom server "" (verifierOrder server existing.rows)).1 :=
    List.Pairwise.insertionSort_eq (pairwise_backfillFrom (pairwise_verifierOrder existing.rows))
  constructor
  · rw [stored, backfillFrom_backfillFrom]
  · rw [stored, backfillFrom_backfillFrom]
    rfl

/-- Every row that is left has the hashes of a row of the honest table. -/
theorem Tampered.kept (tampered : Tampered db db') :
    ∀ e ∈ verifierOrder server db'.events.rows,
      ∃ h ∈ verifierOrder server db.events.rows,
        (chain server).hashes e = (chain server).hashes h := by
  intro e member
  obtain ⟨survivors, sublist, same⟩ := tampered.rows
  have stored : e ∈ db'.events.rows := (perm_verifierOrder _).mem_iff.mp member
  obtain ⟨i, inside, rfl⟩ := List.mem_iff_getElem.mp stored
  have inside' : i < survivors.length := same.length_eq ▸ inside
  have hashes := same.get inside' inside
  refine ⟨survivors[i], ?_, ?_⟩
  · exact (perm_verifierOrder _).mem_iff.mpr (sublist.subset (List.getElem_mem inside'))
  · exact Prod.ext hashes.1 hashes.2

/-- The hashes of a row that passes settle the text that its fields spell. -/
theorem spelling_eq (linked : (chain server).Linked none (verifierOrder server db.events.rows))
    (passes : (chain server).Linked none (verifierOrder server db'.events.rows))
    (free : CollisionFree server (db.events.rows ++ db'.events.rows)) {s h : Row}
    (memberS : s ∈ verifierOrder server db'.events.rows)
    (memberH : h ∈ verifierOrder server db.events.rows)
    (same : (chain server).hashes s = (chain server).hashes h) :
    spelling server s = spelling server h := by
  have prevs : s.prevHash = h.prevHash := congrArg Prod.fst same
  have owns : s.rowHash = h.rowHash := congrArg Prod.snd same
  have recomputed : server.sha256 (canonicalPayload server s.prevHash s) =
      server.sha256 (canonicalPayload server h.prevHash h) := by
    calc server.sha256 (canonicalPayload server s.prevHash s)
        = s.rowHash := passes.recomputed_eq s memberS
      _ = h.rowHash := owns
      _ = server.sha256 (canonicalPayload server h.prevHash h) :=
          (linked.recomputed_eq h memberH).symm
  have storedS : s ∈ db'.events.rows := (perm_verifierOrder _).mem_iff.mp memberS
  have storedH : h ∈ db.events.rows := (perm_verifierOrder _).mem_iff.mp memberH
  have payloads := free s (List.mem_append_right _ storedS) h (List.mem_append_left _ storedH)
    recomputed
  rw [prevs, canonicalPayload, canonicalPayload, String.append_right_inj] at payloads
  exact spelling_eq_iff.mpr ⟨same, payloads⟩

/-- What the chain sees of a row settles its three hashes. -/
theorem hashes_of_spelling {a b : Row} (same : spelling server a = spelling server b) :
    (chain server).hashes a = (chain server).hashes b ∧
      (chain server).recomputed a = (chain server).recomputed b := by
  obtain ⟨hashes, texts⟩ := spelling_eq_iff.mp same
  have prevs : a.prevHash = b.prevHash := congrArg Prod.fst hashes
  have payloads : canonicalPayload server a.prevHash a = canonicalPayload server b.prevHash b := by
    rw [canonicalPayload, canonicalPayload, prevs, texts]
  exact ⟨hashes, congrArg server.sha256 payloads⟩

/-- The verifier reports a break on every change of an honestly chained table, except on one
that keeps the oldest rows in place with the text that their fields spell. -/
theorem break_iff_not_concealed (honest : Honest server db) (tampered : Tampered db db')
    (free : CollisionFree server (db.events.rows ++ db'.events.rows)) :
    (verifyChain server db').firstBreakID ≠ none ↔ ¬ Concealed server db db' := by
  rw [not_iff_not, verifyChain_clean_iff]
  have linked := honest.linked
  have freeHonest : CollisionFree server (verifierOrder server db.events.rows) := by
    intro a memberA b memberB
    exact free a (List.mem_append_left _ ((perm_verifierOrder _).mem_iff.mp memberA))
      b (List.mem_append_left _ ((perm_verifierOrder _).mem_iff.mp memberB))
  constructor
  · intro passes
    have beginning := linked.map_eq_take (spelling server)
      (commits_of_collisionFree linked freeHonest) passes tampered.kept
      (fun s memberS h memberH same => spelling_eq linked passes free memberS memberH same)
    rwa [(perm_verifierOrder _).length_eq] at beginning
  · intro concealed
    rw [HashChain.linked_iff_of_map_eq (fun _ _ => hashes_of_spelling) concealed]
    have whole := List.take_append_drop db'.events.rows.length
      (verifierOrder server db.events.rows)
    exact (whole.symm ▸ linked).of_append

end Detection

section Separator

variable {server : Server}

/-- None of the six free texts of the row and not the text of its time contains the separator,
and the details, if any, are not the empty text (which is no JSON). -/
structure SeparatorFree (server : Server) (r : Row) : Prop where
  id : '|' ∉ r.id.toList
  actor : '|' ∉ r.actor.toList
  actorType : '|' ∉ r.actorType.toList
  action : '|' ∉ r.action.toList
  resourceType : '|' ∉ r.resourceType.toList
  resourceID : '|' ∉ r.resourceID.toList
  details : r.details ≠ some ""
  time : '|' ∉ (server.toChar r.timestamp).toList

theorem separator_not_mem_category (category : EventCategory) :
    '|' ∉ category.text.toList := by
  cases category <;> decide

theorem category_text_injective : Function.Injective EventCategory.text := by
  intro a b same
  cases a <;> cases b <;> first | rfl | exact absurd same (by decide)

/-- The fields of a row are recovered from their text: the free texts from the left, the
category and the timestamp from the right, and the details in between. -/
theorem eq_of_spelling_eq {a b : Row} (freeA : SeparatorFree server a)
    (freeB : SeparatorFree server b)
    (tellsTime : server.toChar a.timestamp = server.toChar b.timestamp → a.timestamp = b.timestamp)
    (same : spelling server a = spelling server b) : a = b := by
  obtain ⟨hashes, same⟩ := spelling_eq_iff.mp same
  unfold Row.fieldsText at same
  have texts := congrArg String.toList same
  simp only [String.toList_append, toList_separator,
    List.append_assoc, List.cons_append, List.nil_append] at texts
  obtain ⟨id, texts⟩ := append_cons_inj_first freeA.id freeB.id texts
  obtain ⟨actor, texts⟩ := append_cons_inj_first freeA.actor freeB.actor texts
  obtain ⟨actorType, texts⟩ := append_cons_inj_first freeA.actorType freeB.actorType texts
  obtain ⟨action, texts⟩ := append_cons_inj_first freeA.action freeB.action texts
  obtain ⟨resourceType, texts⟩ :=
    append_cons_inj_first freeA.resourceType freeB.resourceType texts
  obtain ⟨resourceID, texts⟩ := append_cons_inj_first freeA.resourceID freeB.resourceID texts
  -- The details may contain the separator, so the rest is read from its end.
  simp only [← List.cons_append, ← List.append_assoc] at texts
  obtain ⟨texts, category⟩ := append_cons_inj (separator_not_mem_category _)
    (separator_not_mem_category _) texts
  obtain ⟨details, time⟩ := append_cons_inj freeA.time freeB.time texts
  exact Row.ext (String.toList_inj.mp id) (String.toList_inj.mp actor)
    (String.toList_inj.mp actorType) (String.toList_inj.mp action)
    (String.toList_inj.mp resourceType) (String.toList_inj.mp resourceID)
    (eq_of_getD_eq freeA.details freeB.details (String.toList_inj.mp details))
    (tellsTime (String.toList_inj.mp time))
    (category_text_injective (String.toList_inj.mp category))
    (congrArg Prod.fst hashes) (congrArg Prod.snd hashes)

/-- Without separators in the fields, and where the stored times are told apart by their text,
the only change that passes is the loss of the newest rows. -/
theorem only_newest_lost {db db' : DB}
    (free : ∀ r ∈ db.events.rows ++ db'.events.rows, SeparatorFree server r)
    (tellsTime : ∀ a ∈ db.events.rows ++ db'.events.rows, ∀ b ∈ db.events.rows ++ db'.events.rows,
      server.toChar a.timestamp = server.toChar b.timestamp → a.timestamp = b.timestamp)
    (concealed : Concealed server db db') :
    verifierOrder server db'.events.rows =
      (verifierOrder server db.events.rows).take db'.events.rows.length := by
  have kept : ∀ r ∈ verifierOrder server db'.events.rows,
      r ∈ db.events.rows ++ db'.events.rows := fun r member =>
    List.mem_append_right _ ((perm_verifierOrder _).mem_iff.mp member)
  have known : ∀ r ∈ (verifierOrder server db.events.rows).take db'.events.rows.length,
      r ∈ db.events.rows ++ db'.events.rows := fun r kept =>
    List.mem_append_left _ ((perm_verifierOrder _).mem_iff.mp (List.mem_of_mem_take kept))
  unfold Concealed at concealed
  generalize db.events.rows ++ db'.events.rows = all at *
  generalize verifierOrder server db'.events.rows = rows', List.take _ _ = rows at *
  have tells : Function.Injective (spelling server ∘ ((↑) : { r // r ∈ all } → Row)) :=
    fun a b same => Subtype.ext (eq_of_spelling_eq (free a a.2) (free b b.2)
      (tellsTime a a.2 b b.2) same)
  lift rows' to List { r // r ∈ all } using kept
  lift rows to List { r // r ∈ all } using known
  rw [List.map_map, List.map_map] at concealed
  rw [List.map_injective_iff.mpr tells concealed]

end Separator

section Exhibits

def issued : Row where
  id := "audit-1"
  actor := "alice"
  actorType := "User"
  action := "certificate_issued"
  resourceType := "certificate"
  resourceID := "mc-1|web"
  details := some "{}"
  timestamp := 1000
  eventCategory := .certLifecycle
  prevHash := none
  rowHash := ""

def revoked : Row :=
  { issued with
    id := "audit-2", actor := "bob", action := "certificate_revoked", timestamp := 2000 }

/-- Two events, chained by the migration. -/
def journal : DB := migrate checksumServer ⟨[issued, revoked], by decide⟩

/-- The tables with other rows. -/
def withRows (db : DB) (rows : List Row) (unique : (rows.map Row.id).Nodup) : DB :=
  { db with events := ⟨rows, unique⟩ }

/-- The second event is another user's. -/
def reattributed : DB :=
  withRows journal (journal.events.rows.map (fun r =>
    if r.id = "audit-2" then { r with actor := "carol" } else r)) (by decide +kernel)

/-- A text is moved across a separator, out of the resource id. -/
def relabelled : DB :=
  withRows journal (journal.events.rows.map (fun r =>
    if r.id = "audit-1" then { r with resourceType := "certificate|mc-1", resourceID := "web" }
    else r)) (by decide +kernel)

/-- The newest event is gone. -/
def truncated : DB := withRows journal (journal.events.rows.take 1) (by decide +kernel)

theorem tampered_map (change : Row → Row) (unique : ((journal.events.rows.map change).map
      Row.id).Nodup)
    (keeps : ∀ r, (change r).prevHash = r.prevHash ∧ (change r).rowHash = r.rowHash) :
    Tampered journal (withRows journal (journal.events.rows.map change) unique) := by
  refine ⟨rfl, _, List.Sublist.refl _, ?_⟩
  exact List.forall₂_map_right_iff.mpr (List.forall₂_same.mpr fun r _ => keeps r)

/-- A rewritten field is found out. -/
theorem reattribution_detected :
    Honest checksumServer journal ∧ Tampered journal reattributed ∧
      (verifyChain checksumServer reattributed).firstBreakID ≠ none := by
  have tampered : Tampered journal reattributed :=
    tampered_map _ _ (fun r => by split <;> exact ⟨rfl, rfl⟩)
  refine ⟨(honest_migrate _), tampered, ?_⟩
  exact (break_iff_not_concealed (honest_migrate _) tampered (by decide +kernel)).mpr
    (by unfold Concealed; decide +kernel)

/-- Text that moves between fields, and newest rows that are gone, are not. -/
theorem undetected_changes :
    (Honest checksumServer journal ∧ Tampered journal relabelled ∧
        relabelled.events.rows ≠ journal.events.rows ∧
        CollisionFree checksumServer (journal.events.rows ++ relabelled.events.rows) ∧
        verifyChain checksumServer relabelled = ⟨none, -1, 2⟩) ∧
      Tampered journal truncated ∧ truncated.events.rows ≠ journal.events.rows ∧
        CollisionFree checksumServer (journal.events.rows ++ truncated.events.rows) ∧
        verifyChain checksumServer truncated = ⟨none, -1, 1⟩ := by
  refine ⟨⟨(honest_migrate _), ?_, by decide +kernel, by decide +kernel, by decide +kernel⟩, ?_,
    by decide +kernel, by decide +kernel, by decide +kernel⟩
  · exact tampered_map _ _ (fun r => by split <;> exact ⟨rfl, rfl⟩)
  · refine ⟨rfl, _, List.take_sublist 1 journal.events.rows, ?_⟩
    exact List.forall₂_same.mpr fun _ _ => ⟨rfl, rfl⟩

def plainRows : List Row :=
  [{ issued with resourceID := "mc-1" }, { revoked with resourceID := "mc-1" }]

theorem only_newest_lost_plain :
    verifierOrder checksumServer (plainRows.take 1) =
      (verifierOrder checksumServer plainRows).take 1 := by
  have free : ∀ r ∈ plainRows ++ plainRows.take 1, SeparatorFree checksumServer r := by
    intro r member
    constructor <;> revert r <;> decide +kernel
  have concealed : Concealed checksumServer ⟨none, plainRows, by decide⟩
      ⟨none, plainRows.take 1, by decide⟩ := by
    unfold Concealed
    decide +kernel
  exact only_newest_lost free (by decide +kernel) concealed

end Exhibits

end Certctl.Guarantees.AuditTamper

import Certctl.Source.Discovery

/-!
The counters of a stored scan row. It is written before the entries are, with no new
certificates, and never again; the number the loop counts reaches only the caller. What a
report inserts is read off its entries: those that find their place and the id drawn for them
free, in the table and among the entries before, and whose upsert is carried out.
-/
namespace Certctl.Guarantees.DiscoveryScans

open Lib Source.Discovery

/-- The place and the id of a row. -/
abbrev Key := (String × String × String) × String

def keys (rows : Discovered) : List Key := rows.rows.map fun r => (r.place, r.id)

/-- The rows at places where there was none before. -/
def inserted (before after : Discovered) : Nat :=
  after.rows.countP fun r => (before.get? r.place).isNone

/-- The counters agree with the report and the table. -/
def Counts (s s' : Store) (report : DiscoveryReport) (row : DiscoveryScan) : Prop :=
  row.certificatesFound = report.certificates.length ∧ row.errorsCount = report.errors.length ∧
    row.certificatesNew = inserted s.discovered s'.discovered

/-- The key an entry would get. -/
def entryKey (draw : ReportDraw) (agentID : String) (i : Nat) (entry : DiscoveredCertEntry) : Key :=
  ((entry.fingerprintSHA256, agentID, entry.sourcePath), (draw.upserts i).id)

/-- The place of the entry is stored already, its upsert is not carried out, or the id drawn for
it is taken. -/
def skipped (draw : ReportDraw) (agentID : String) (stored : List Key) (i : Nat)
    (entry : DiscoveredCertEntry) : Bool :=
  let key := entryKey draw agentID i entry
  stored.any (fun k => k.1 = key.1) || (draw.upserts i).fault.any (fun fault => !fault.2) ||
    stored.any (fun k => k.2 = key.2)

/-- The entries from the `i`th one that are not skipped, each of which adds its key. -/
def newEntries (draw : ReportDraw) (agentID : String) :
    List DiscoveredCertEntry → Nat → List Key → Nat
  | [], _, _ => 0
  | entry :: rest, i, stored =>
    if skipped draw agentID stored i entry then newEntries draw agentID rest (i + 1) stored
    else newEntries draw agentID rest (i + 1) (stored ++ [entryKey draw agentID i entry]) + 1

section Entries

variable (draw : ReportDraw) (agentID : String) {rows before : Discovered}

theorem keys_seenAgain (p : DiscoveredCertificate → Bool) (now : Certctl.Source.Time)
    (cert : DiscoveredCertificate) :
    keys (rows.updateWhere p (seenAgain now cert) (fun _ => rfl)) = keys rows := by
  simp only [keys, Table.updateWhere, List.map_map]
  apply List.map_congr_left
  intro row _
  simp only [Function.comp]
  split <;> rfl

/-- An upsert adds the key of its entry, unless the entry is skipped. -/
theorem keys_createDiscovered (i : Nat) (entry : DiscoveredCertEntry) :
    keys (createDiscovered (draw.upserts i).fault rows (draw.upserts i).now
      (newDiscovered draw agentID (draw.upserts i).id entry)).1 =
    if skipped draw agentID (keys rows) i entry then keys rows
    else keys rows ++ [entryKey draw agentID i entry] := by
  have place : ((keys rows).any fun k => k.1 = (entryKey draw agentID i entry).1) = true ↔
      rows.get? (newDiscovered draw agentID (draw.upserts i).id entry).place ≠ none := by
    simp [keys, Table.get?_eq_none_iff, entryKey, DiscoveredCertificate.place, newDiscovered]
  have id : ((keys rows).any fun k => k.2 = (entryKey draw agentID i entry).2) =
      rows.rows.any fun r => r.id = (newDiscovered draw agentID (draw.upserts i).id entry).id := by
    rw [keys, List.any_map]
    rfl
  simp only [createDiscovered, upsert, skipped, id]
  cases found : rows.get? (newDiscovered draw agentID (draw.upserts i).id entry).place with
  | some row =>
    rw [place.mpr (by simp [found])]
    rcases (draw.upserts i).fault with _ | ⟨cause, _ | _⟩ <;> simp [keys_seenAgain]
  | none =>
    rw [Bool.eq_false_iff.mpr (mt place.mp (by simp [found]))]
    by_cases taken : rows.rows.any fun r =>
        r.id = (newDiscovered draw agentID (draw.upserts i).id entry).id
    · rw [taken]
      rcases (draw.upserts i).fault with _ | ⟨cause, _ | _⟩ <;> simp
    · obtain ⟨rows', stored⟩ := Table.insert_isSome found
      have added : keys rows' = keys rows ++ [entryKey draw agentID i entry] := by
        simp [keys, (Table.insert_rows stored).1, entryKey, DiscoveredCertificate.place,
          newDiscovered]
      rw [Bool.eq_false_iff.mpr taken, stored]
      rcases (draw.upserts i).fault with _ | ⟨cause, _ | _⟩ <;> simp [added]

theorem inserted_eq (after : Discovered) :
    inserted before after = (keys after).countP fun k => (before.get? k.1).isNone := by
  rw [inserted, keys, List.countP_map]
  rfl

theorem inserted_self : inserted before before = 0 := by
  rw [inserted, List.countP_eq_zero]
  intro row member
  simpa [Table.get?_eq_none_iff] using ⟨row, member, rfl⟩

/-- Besides the places that were there, the loop adds one for each new entry. -/
theorem inserted_upsertLoop (entries : List DiscoveredCertEntry) (i n : Nat)
    (kept : ∀ row ∈ before.rows, ∃ key ∈ keys rows, key.1 = row.place) :
    inserted before (upsertLoop draw agentID entries i rows n).1 =
      inserted before rows + newEntries draw agentID entries i (keys rows) := by
  induction entries generalizing i n rows with
  | nil => rfl
  | cons entry rest ih =>
    have added := @keys_createDiscovered draw agentID rows i entry
    have next : ∃ n', upsertLoop draw agentID (entry :: rest) i rows n =
        upsertLoop draw agentID rest (i + 1) (createDiscovered (draw.upserts i).fault rows
          (draw.upserts i).now (newDiscovered draw agentID (draw.upserts i).id entry)).1 n' := by
      rw [upsertLoop]
      split
      · next equal => exact ⟨_, by rw [equal]⟩
      · next equal => exact ⟨_, by rw [equal]⟩
    obtain ⟨n', next⟩ := next
    generalize createDiscovered (draw.upserts i).fault rows (draw.upserts i).now
      (newDiscovered draw agentID (draw.upserts i).id entry) = after at added next
    rw [next, newEntries]
    split at added
    next skip => rw [if_pos skip, ih _ _ (added ▸ kept), inserted_eq, inserted_eq, added]
    next fresh =>
      have absent : before.get? (entryKey draw agentID i entry).1 = none := by
        rw [Table.get?_eq_none_iff]
        intro row member same
        obtain ⟨key, stored, place⟩ := kept row member
        simp only [skipped, Bool.or_eq_true, List.any_eq_true, not_or] at fresh
        exact fresh.1.1 ⟨key, stored, by simp [place, same]⟩
      have keptOn : ∀ row ∈ before.rows, ∃ key ∈ keys after.1, key.1 = row.place := by
        intro row member
        obtain ⟨key, stored, place⟩ := kept row member
        exact ⟨key, by simp [added, stored], place⟩
      rw [if_neg fresh, ih _ _ keptOn, inserted_eq, inserted_eq, added, List.countP_append,
        List.countP_singleton, absent, Nat.add_right_comm, Nat.add_assoc]
      rfl

/-- Nothing is new exactly if every entry is skipped beside the rows that were there. -/
theorem newEntries_eq_zero_iff (entries : List DiscoveredCertEntry) (i : Nat) (stored : List Key) :
    newEntries draw agentID entries i stored = 0 ↔
      ∀ j entry, entries[j]? = some entry → skipped draw agentID stored (i + j) entry := by
  induction entries generalizing i with
  | nil => simp [newEntries]
  | cons entry rest ih =>
    rw [newEntries]
    split
    next skip =>
      rw [ih]
      constructor
      · rintro later (_ | j) entry' at_
        · cases at_
          exact skip
        · rw [← Nat.add_assoc, Nat.add_right_comm]
          exact later j entry' at_
      · intro all j entry' at_
        rw [Nat.add_right_comm]
        exact all (j + 1) entry' at_
    next fresh =>
      simp only [Nat.add_eq_zero_iff, one_ne_zero, and_false, false_iff]
      exact fun all => fresh (all 0 entry rfl)

end Entries

/-- The stored row is right exactly if every entry finds its place stored already, has an upsert
that is not carried out or draws an id that is taken. When the id drawn for the scan was taken, it
is right exactly if the older row happens to have the numbers. -/
theorem stored_counts_iff {draw : ReportDraw} {s s' : Store} {report : DiscoveryReport}
    {scan : DiscoveryScan} (returned : processDiscoveryReport draw s report = (s', .ok scan)) :
    (∃ row, s'.scans.get? scan.id = some row ∧ Counts s s' report row) ↔
      match s.scans.get? draw.scanID with
      | none => ∀ i entry, report.certificates[i]? = some entry →
          skipped draw report.agentID (keys s.discovered) i entry
      | some old => old.certificatesFound = report.certificates.length ∧
          old.errorsCount = report.errors.length ∧
          old.certificatesNew =
            newEntries draw report.agentID report.certificates 0 (keys s.discovered) := by
  have counted : inserted s.discovered
      (upsertLoop draw report.agentID report.certificates 0 s.discovered 0).1 =
        newEntries draw report.agentID report.certificates 0 (keys s.discovered) := by
    rw [inserted_upsertLoop _ _ _ _ _ fun row member => ⟨_, List.mem_map_of_mem member, rfl⟩,
      inserted_self, Nat.zero_add]
  unfold processDiscoveryReport at returned
  split at returned
  · cases returned
  split at returned
  · cases returned
  extract_lets new stored at returned
  split at returned
  · cases returned
  cases returned
  rw [Table.get?_insertOrIgnore, if_pos rfl]
  cases taken : s.scans.get? draw.scanID with
  | none =>
    have none_new := newEntries_eq_zero_iff draw report.agentID report.certificates 0
      (keys s.discovered)
    simp only [Nat.zero_add] at none_new
    simp only [← none_new, Counts, counted, new, Option.some.injEq]
    simp [eq_comm]
  | some old => simp [Counts, counted]

def emptyStore : Store := ⟨.empty _, .empty _⟩

/-- The second upsert fails and is not carried out. -/
def plainDraw : ReportDraw :=
  ⟨1, "dscan-1", none, fun i => ⟨"dcert-1", 1, if i = 1 then some ("timeout", false) else none⟩⟩

def web : DiscoveredCertEntry := ⟨"ab12", "/etc/ssl/web.pem"⟩

/-- A store that has the certificate already. -/
def seenStore : Store :=
  ⟨.empty _, ⟨[newDiscovered plainDraw "agent-1" "dcert-0" web], by simp⟩⟩

/-- A certificate seen again and one whose upsert fails are accounted for. -/
theorem seen_again_counted :
    ∃ row, (processDiscoveryReport plainDraw seenStore
        ⟨"agent-1", none, [web, ⟨"cd34", "/etc/ssl/api.pem"⟩], ["unreadable"], 5⟩).1.scans.get?
          "dscan-1" = some row ∧
      row.certificatesFound = 2 ∧ row.certificatesNew = 0 ∧ row.errorsCount = 1 := by
  have returned : processDiscoveryReport plainDraw seenStore
    ⟨"agent-1", none, [web, ⟨"cd34", "/etc/ssl/api.pem"⟩], ["unreadable"], 5⟩ = (_, .ok _) := rfl
  have all : ∀ i entry, [web, ⟨"cd34", "/etc/ssl/api.pem"⟩][i]? = some entry →
      skipped plainDraw "agent-1" (keys seenStore.discovered) i entry := by
    rintro (_ | _ | i) entry at_
    · cases at_; rfl
    · cases at_; rfl
    · cases at_
  obtain ⟨row, found, certificates, errors, new⟩ := (stored_counts_iff returned).mpr all
  exact ⟨row, found, certificates, new, errors⟩

/-- A new certificate reaches the table and the caller's count, and not the scan row. -/
theorem new_uncounted :
    ∃ s' scan row, processDiscoveryReport plainDraw emptyStore
        ⟨"agent-1", none, [web], [], 5⟩ = (s', .ok scan) ∧
      s'.scans.get? scan.id = some row ∧
      inserted emptyStore.discovered s'.discovered = 1 ∧
      scan.certificatesNew = 1 ∧ row.certificatesNew = 0 :=
  ⟨_, _, _, rfl, rfl, rfl, rfl, rfl⟩

end Certctl.Guarantees.DiscoveryScans

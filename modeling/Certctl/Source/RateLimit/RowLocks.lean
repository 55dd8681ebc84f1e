import Certctl.Source.RateLimit.Postgres

/-!
What a transaction may rely on about the row of its key while others run. From its
insert on, a call that no sweep overtakes finds the row; from the locked read on it
holds the row lock, and the timestamps it read are the stored ones.
-/
namespace Certctl.Source.RateLimit.Postgres

open Lib

def timesOf (rows : Table Row.bucketKey) (key : String) : List Time :=
  ((rows.get? key).map Row.timestamps).getD []

theorem mapM_parseStored {times read : List Time} (parsed : times.mapM parseStored = some read) :
    read = times := by
  induction times generalizing read with
  | nil =>
    cases parsed
    rfl
  | cons t rest ih =>
    rw [List.mapM_cons] at parsed
    obtain ⟨head, first, parsed⟩ := Option.bind_eq_some_iff.mp parsed
    obtain ⟨tail, others, parsed⟩ := Option.bind_eq_some_iff.mp parsed
    cases parsed
    obtain ⟨-, ⟨⟩⟩ := of_then first nofun
    rw [ih others]

theorem map_round_whole (rounding : TimestampRounding) {times : List Time}
    (whole : ∀ t ∈ times, t % 1000 = 0) : times.map rounding.round = times := by
  rw [List.map_congr_left (fun t member => rounding.exact t (whole t member)), List.map_id']

theorem get?_rollback (rows : Table Row.bucketKey) (c : Nat) (key : String) :
    (rollback rows c).get? key = (rows.get? key).bind (fun r =>
      if r.holder = some c then (if r.committed then some r.unlock else none) else some r) := by
  unfold rollback
  rw [Table.get?_updateWhere, Table.get?_deleteWhere]
  cases rows.get? key with
  | none => rfl
  | some r =>
    by_cases holds : r.holder = some c
    · cases committed : r.committed <;> simp [Option.filter, holds, committed]
    · simp [Option.filter, holds]

theorem timesOf_hold (rows : Table Row.bucketKey) (c : Nat) (held key : String) :
    timesOf (rows.updateWhere (fun r => decide (r.bucketKey = held)) (Row.hold c) (hold_key c))
      key = timesOf rows key := by
  unfold timesOf
  rw [Table.get?_updateKey]
  split
  · cases rows.get? key with
    | none => rfl
    | some r => rfl
  · rfl

theorem timesOf_insert {rows rows' : Table Row.bucketKey} {r : Row}
    (inserted : rows.insert r = some rows')
    (blank : r.timestamps = []) (key : String) : timesOf rows' key = timesOf rows key := by
  unfold timesOf
  rw [Table.get?_insert inserted]
  split
  next same =>
    rw [same, (Table.insert_rows inserted).2]
    simp [blank]
  next => rfl

/-- What a call in flight may rely on about the row of its key. -/
def Finds (c : Nat) (row : Option Row) : Phase → Prop
  | .begun => True
  | .ensured => ∃ r, row = some r ∧ r.visible c
  | .selected id => ∃ r, row = some r ∧ r.visible c ∧ r.id = id
  | .locked timestamps => ∃ r, row = some r ∧ r.holder = some c ∧
      r.timestamps.mapM parseStored = some timestamps
  | .returned _ => True

section Finds

variable {c c' : Nat} {phase : Phase} {r : Row}

theorem finds_hold (other : c' ≠ c) (free : r.holder = none ∨ r.holder = some c)
    (finds : Finds c' (some r) phase) : Finds c' (some (r.hold c)) phase := by
  have notMine : r.holder ≠ some c' := by
    intro mine
    rw [mine] at free
    rcases free with none | same
    · cases none
    · exact other (Option.some.inj same)
  cases phase with
  | begun => trivial
  | returned => trivial
  | ensured =>
    obtain ⟨_, ⟨⟩, committed | mine⟩ := finds
    · exact ⟨_, rfl, .inl committed⟩
    · exact absurd mine notMine
  | selected row =>
    obtain ⟨_, ⟨⟩, committed | mine, same⟩ := finds
    · exact ⟨_, rfl, .inl committed, same⟩
    · exact absurd mine notMine
  | locked timestamps =>
    obtain ⟨_, ⟨⟩, mine, _⟩ := finds
    exact absurd mine notMine

theorem finds_persist {rounding : TimestampRounding} {now : Time} {timestamps : List Time}
    (other : c' ≠ c) (holds : r.holder = some c) (finds : Finds c' (some r) phase) :
    Finds c' (some (r.persist rounding now timestamps)) phase := by
  cases phase with
  | begun => trivial
  | returned => trivial
  | ensured => exact ⟨_, rfl, .inl rfl⟩
  | selected row =>
    obtain ⟨_, ⟨⟩, _, same⟩ := finds
    exact ⟨_, rfl, .inl rfl, same⟩
  | locked read =>
    obtain ⟨_, ⟨⟩, mine, _⟩ := finds
    rw [holds] at mine
    exact absurd (Option.some.inj mine).symm other

theorem finds_rollback {rows : Table Row.bucketKey} {key : String} (other : c' ≠ c)
    (finds : Finds c' (rows.get? key) phase) : Finds c' ((rollback rows c).get? key) phase := by
  rw [get?_rollback]
  have stays : ∀ r : Row, r.visible c' →
      ∃ r', (if r.holder = some c then (if r.committed then some r.unlock else none) else some r) =
        some r' ∧ r'.visible c' ∧ r'.id = r.id := by
    intro r visible
    split
    next holds =>
      have committed : r.committed = true := by
        rcases visible with committed | mine
        · exact committed
        · rw [holds] at mine
          exact absurd (Option.some.inj mine).symm other
      rw [if_pos committed]
      exact ⟨r.unlock, rfl, .inl committed, rfl⟩
    next => exact ⟨r, rfl, visible, rfl⟩
  cases phase with
  | begun => trivial
  | returned => trivial
  | ensured =>
    obtain ⟨r, found, visible⟩ := finds
    obtain ⟨r', kept, visible', _⟩ := stays r visible
    exact ⟨r', by rw [found, Option.bind_some, kept], visible'⟩
  | selected row =>
    obtain ⟨r, found, visible, same⟩ := finds
    obtain ⟨r', kept, visible', same'⟩ := stays r visible
    exact ⟨r', by rw [found, Option.bind_some, kept], visible', same'.trans same⟩
  | locked timestamps =>
    obtain ⟨r, found, mine, parsed⟩ := finds
    have free : r.holder ≠ some c := by
      rw [mine]
      exact fun same => other (Option.some.inj same)
    exact ⟨r, by rw [found, Option.bind_some, if_neg free], mine, parsed⟩

end Finds

end Certctl.Source.RateLimit.Postgres

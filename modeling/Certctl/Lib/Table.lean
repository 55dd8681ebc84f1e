import Certctl.Lib.Result
import Mathlib.Data.Fintype.EquivFin

/-!
A relational table with a primary key, as a list of rows no two of which share
the key. The operations are the statement forms a repository issues: point
select, insert under the key constraint, predicate update that leaves the key
alone, upsert and delete by key. Rows are kept in insertion order.
-/
namespace Certctl.Lib

structure Table {α κ : Type} (key : α → κ) where
  rows : List α
  unique : (rows.map key).Nodup

namespace Table

variable {α κ : Type} {key : α → κ}

def empty (key : α → κ) : Table key := ⟨[], List.nodup_nil⟩

/-- `UPDATE ... WHERE p`, for assignments that leave the key alone. -/
def updateWhere (t : Table key) (p : α → Bool) (f : α → α) (keeps : ∀ r, key (f r) = key r) :
    Table key :=
  ⟨t.rows.map (fun r => if p r then f r else r), by
    rw [List.map_map]
    have same : (key ∘ fun r => if p r then f r else r) = key := by
      funext r
      simp only [Function.comp]
      split
      · exact keeps r
      · rfl
    rw [same]
    exact t.unique⟩

theorem updateWhere_keys (t : Table key) (p : α → Bool) (f : α → α)
    (keeps : ∀ r, key (f r) = key r) : (t.updateWhere p f keeps).rows.map key = t.rows.map key := by
  simp only [updateWhere, List.map_map]
  apply List.map_congr_left
  intro r _
  simp only [Function.comp]
  split
  · exact keeps r
  · rfl

section Keyed
variable [DecidableEq κ]

/-- `SELECT ... WHERE key = k`. -/
def get? (t : Table key) (k : κ) : Option α := t.rows.find? (fun r => decide (key r = k))

/-- `INSERT`; `none` is the primary-key violation. -/
def insert (t : Table key) (r : α) : Option (Table key) :=
  if h : key r ∈ t.rows.map key then none
  else some ⟨t.rows ++ [r], by
    rw [List.map_append, List.map_singleton]
    exact List.nodup_append.mpr ⟨t.unique, List.nodup_singleton _, by
      intro a ha b hb
      rw [List.mem_singleton] at hb
      subst hb
      intro equal
      exact h (equal ▸ ha)⟩⟩

/-- An insert behind a check of the row's fields. -/
def insertUnless (t : Table key) (bad : Prop) [Decidable bad] (r : α) : Option (Table key) :=
  if bad then none else t.insert r

/-- `UPDATE ... WHERE key = k`; `none` is zero rows affected. -/
def update (t : Table key) (k : κ) (f : α → α) (keeps : ∀ r, key (f r) = key r) :
    Option (Table key) :=
  if (t.get? k).isSome then some (t.updateWhere (fun r => decide (key r = k)) f keeps) else none

/-- `DELETE ... WHERE key = k`. -/
def delete (t : Table key) (k : κ) : Table key :=
  ⟨t.rows.filter (fun r => decide (key r ≠ k)),
    List.Nodup.sublist (List.Sublist.map key List.filter_sublist) t.unique⟩

/-- `DELETE ... WHERE p`. -/
def deleteWhere (t : Table key) (p : α → Bool) : Table key :=
  ⟨t.rows.filter (fun r => !p r),
    List.Nodup.sublist (List.Sublist.map key List.filter_sublist) t.unique⟩

/-- `INSERT ... ON CONFLICT DO NOTHING`. -/
def insertOrIgnore (t : Table key) (r : α) : Table key := (t.insert r).getD t

/-- `INSERT ... ON CONFLICT DO UPDATE` of all columns. -/
def upsert (t : Table key) (r : α) : Table key := ((t.delete (key r)).insert r).getD t

variable {t t' : Table key} {k : κ} {r : α} {added : List α}

theorem get?_mem (found : t.get? k = some r) : r ∈ t.rows :=
  List.mem_of_find?_eq_some found

theorem get?_key (found : t.get? k = some r) : key r = k := by
  have := List.find?_some found
  simpa using this

/-- The key constraint makes the point select return the row itself. -/
theorem get?_of_mem (member : r ∈ t.rows) : t.get? (key r) = some r := by
  obtain ⟨rows, unique⟩ := t
  simp only [get?] at *
  induction rows with
  | nil => cases member
  | cons head tail ih =>
    have distinct := List.nodup_cons.mp unique
    rcases List.mem_cons.mp member with rfl | later
    · simp
    · have different : key head ≠ key r := by
        intro equal
        exact distinct.1 (equal ▸ List.mem_map_of_mem later)
      rw [List.find?_cons_of_neg (by simpa using different)]
      exact ih distinct.2 later

theorem get?_eq_some_iff : t.get? k = some r ↔ r ∈ t.rows ∧ key r = k :=
  ⟨fun found => ⟨get?_mem found, get?_key found⟩, fun h => h.2 ▸ get?_of_mem h.1⟩

/-- Among rows of the table a row is found again under its key. -/
theorem find?_of_rows {rows : List α} (stored : ∀ r ∈ rows, t.get? (key r) = some r)
    (member : r ∈ rows) : rows.find? (fun other => decide (key other = key r)) = some r := by
  cases found : rows.find? (fun other => decide (key other = key r)) with
  | none => simpa using List.find?_eq_none.mp found r member
  | some other =>
    have keyed : key other = key r := by simpa using List.find?_some found
    rw [← stored other (List.mem_of_find?_eq_some found), keyed, stored r member]

theorem get?_eq_none_iff : t.get? k = none ↔ ∀ r ∈ t.rows, key r ≠ k := by
  simp [get?, List.find?_eq_none]

theorem exists_absent [Infinite κ] (t : Table key) : ∃ k, t.get? k = none := by
  obtain ⟨k, absent⟩ := Infinite.exists_notMem_finset (t.rows.map key).toFinset
  rw [List.mem_toFinset] at absent
  refine ⟨k, get?_eq_none_iff.mpr fun r stored same => absent ?_⟩
  exact List.mem_map.mpr ⟨r, stored, same⟩

@[simp] theorem get?_empty (k : κ) : (empty key).get? k = none := rfl

theorem insert_rows (inserted : t.insert r = some t') :
    t'.rows = t.rows ++ [r] ∧ t.get? (key r) = none := by
  simp only [insert] at inserted
  split at inserted
  · cases inserted
  next absent =>
    cases inserted
    refine ⟨rfl, get?_eq_none_iff.mpr ?_⟩
    intro other member equal
    exact absent (equal ▸ List.mem_map_of_mem member)

theorem insertUnless_eq_some {bad : Prop} [Decidable bad]
    (inserted : t.insertUnless bad r = some t') : ¬ bad ∧ t.insert r = some t' := by
  obtain ⟨good, inserted⟩ := of_else inserted nofun
  exact ⟨good, inserted⟩

theorem get?_insert (inserted : t.insert r = some t') (k : κ) :
    t'.get? k = if k = key r then some r else t.get? k := by
  obtain ⟨rows, absent⟩ := insert_rows inserted
  split
  next equal => exact get?_eq_some_iff.mpr ⟨by rw [rows]; simp, equal.symm⟩
  next different =>
    simp only [get?, rows, List.find?_append]
    have skip : [r].find? (fun r => decide (key r = k)) = none := by
      simpa using Ne.symm different
    rw [skip, Option.or_none]

/-- Appended rows shadow nothing. -/
theorem get?_mono (rows : t'.rows = t.rows ++ added) (found : t.get? k = some r) :
    t'.get? k = some r := by
  simp only [get?] at found ⊢
  rw [rows, List.find?_append, found, Option.some_or]

theorem get?_appended (rows : t'.rows = t.rows ++ added) (found : t'.get? k = some r) :
    t.get? k = some r ∨ t.get? k = none ∧ r ∈ added ∧ key r = k := by
  cases before : t.get? k with
  | some old =>
    rw [get?_mono rows before] at found
    exact .inl found
  | none =>
    obtain ⟨member, keyed⟩ := get?_eq_some_iff.mp found
    rw [rows, List.mem_append] at member
    rcases member with old | new
    · exact absurd keyed (get?_eq_none_iff.mp before r old)
    · exact .inr ⟨rfl, new, keyed⟩

theorem get?_updateWhere (t : Table key) (p : α → Bool) (f : α → α)
    (keeps : ∀ r, key (f r) = key r) (k : κ) :
    (t.updateWhere p f keeps).get? k = (t.get? k).map (fun r => if p r then f r else r) := by
  simp only [get?, updateWhere, List.find?_map]
  have same : ((fun r => decide (key r = k)) ∘ fun r => if p r then f r else r) =
      fun r => decide (key r = k) := by
    funext r
    simp only [Function.comp]
    split
    · rw [keeps r]
    · rfl
  rw [same]

theorem get?_updateKey (t : Table key) (k : κ) (f : α → α) (keeps : ∀ r, key (f r) = key r)
    (j : κ) :
    (t.updateWhere (fun r => decide (key r = k)) f keeps).get? j =
      if j = k then (t.get? j).map f else t.get? j := by
  rw [get?_updateWhere]
  cases found : t.get? j with
  | none => split <;> rfl
  | some r =>
    have keyed := get?_key found
    split
    next equal => simp [keyed, equal]
    next different => simp [keyed, different]

variable {f : α → α} {keeps : ∀ r, key (f r) = key r}

theorem update_eq (updated : t.update k f keeps = some t') :
    t' = t.updateWhere (fun r => decide (key r = k)) f keeps ∧ ∃ r, t.get? k = some r := by
  obtain ⟨present, updated⟩ := of_then updated nofun
  exact ⟨(Option.some.inj updated).symm, Option.isSome_iff_exists.mp present⟩

theorem get?_update (updated : t.update k f keeps = some t') (j : κ) :
    t'.get? j = if j = k then (t.get? k).map f else t.get? j := by
  obtain ⟨rfl, _⟩ := update_eq updated
  rw [get?_updateKey]
  split
  next equal => rw [equal]
  next => rfl

theorem update_eq_none (missed : t.update k f keeps = none) : t.get? k = none := by
  obtain ⟨absent, missed⟩ := of_else missed nofun
  simpa using absent

theorem get?_deleteWhere (t : Table key) (p : α → Bool) (k : κ) :
    (t.deleteWhere p).get? k = (t.get? k).filter (fun r => !p r) := by
  cases found : t.get? k with
  | none =>
    apply get?_eq_none_iff.mpr
    intro r member
    exact get?_eq_none_iff.mp found r (List.mem_filter.mp member).1
  | some r =>
    obtain ⟨member, keyed⟩ := get?_eq_some_iff.mp found
    rw [Option.filter_some]
    split
    next kept => exact get?_eq_some_iff.mpr ⟨List.mem_filter.mpr ⟨member, kept⟩, keyed⟩
    next dropped =>
      apply get?_eq_none_iff.mpr
      intro other stays same
      obtain ⟨row, kept⟩ := List.mem_filter.mp stays
      have found' := get?_eq_some_iff.mpr ⟨row, same⟩
      rw [found] at found'
      cases found'
      exact dropped kept

theorem get?_delete (t : Table key) (k j : κ) :
    (t.delete k).get? j = if j = k then none else t.get? j := by
  have same : t.delete k = t.deleteWhere (fun r => decide (key r = k)) := by
    simp [delete, deleteWhere]
  rw [same, get?_deleteWhere]
  cases found : t.get? j with
  | none => split <;> rfl
  | some r => simp [Option.filter_some, get?_key found]

theorem delete_absent (absent : t.get? k = none) : (t.delete k).rows = t.rows := by
  apply List.filter_eq_self.mpr
  intro r member
  exact decide_eq_true (get?_eq_none_iff.mp absent r member)

/-- The key constraint makes a delete take away a single row. -/
theorem length_delete (present : t.get? k = some r) :
    (t.delete k).rows.length + 1 = t.rows.length := by
  obtain ⟨member, rfl⟩ := get?_eq_some_iff.mp present
  obtain ⟨rows, unique⟩ := t
  clear present
  simp only [delete] at *
  induction rows with
  | nil => cases member
  | cons head tail ih =>
    have distinct := List.nodup_cons.mp unique
    rcases List.mem_cons.mp member with rfl | later
    · rw [List.filter_cons_of_neg (by simp), List.length_cons, List.filter_eq_self.mpr]
      intro other among
      exact decide_eq_true (fun same => distinct.1 (same ▸ List.mem_map_of_mem among))
    · have different : key head ≠ key r := fun same =>
        distinct.1 (same ▸ List.mem_map_of_mem later)
      rw [List.filter_cons_of_pos (by simpa using different), List.length_cons,
        ih distinct.2 later, List.length_cons]

theorem insert_isSome (absent : t.get? (key r) = none) : ∃ t', t.insert r = some t' := by
  have fresh : key r ∉ t.rows.map key := by
    intro member
    obtain ⟨other, row, equal⟩ := List.mem_map.mp member
    exact get?_eq_none_iff.mp absent other row equal
  exact ⟨_, by rw [insert, dif_neg fresh]⟩

/-- After the insert there is a row of the key, an older one if there was one. -/
theorem get?_insertOrIgnore (t : Table key) (r : α) (k : κ) :
    (t.insertOrIgnore r).get? k = if k = key r then some ((t.get? k).getD r) else t.get? k := by
  unfold insertOrIgnore
  cases present : t.get? (key r) with
  | none =>
    obtain ⟨t', inserted⟩ := insert_isSome present
    rw [inserted, Option.getD_some, get?_insert inserted]
    split
    next same => rw [same, present, Option.getD_none]
    next => rfl
  | some old =>
    cases inserted : t.insert r with
    | some t' =>
      rw [(insert_rows inserted).2] at present
      cases present
    | none =>
      rw [Option.getD_none]
      split
      next same => rw [same, present, Option.getD_some]
      next => rfl

theorem insert_delete (t : Table key) (r : α) :
    (t.delete (key r)).insert r = some (t.upsert r) := by
  have absent : (t.delete (key r)).get? (key r) = none := by rw [get?_delete, if_pos rfl]
  obtain ⟨t', inserted⟩ := insert_isSome absent
  rw [upsert, inserted, Option.getD_some]

theorem length_upsert (t : Table key) (r : α) :
    (t.upsert r).rows.length = (t.delete (key r)).rows.length + 1 := by
  rw [(insert_rows (insert_delete t r)).1, List.length_append, List.length_singleton]

theorem get?_upsert (t : Table key) (r : α) (k : κ) :
    (t.upsert r).get? k = if k = key r then some r else t.get? k := by
  rw [get?_insert (insert_delete t r), get?_delete]
  split <;> rfl

/-- What a step may do to the row of a key: leave it, put it there or change it. -/
inductive RowStep (born : α → Prop) (moves : α → α → Prop) : Option α → Option α → Prop where
  | same {row : Option α} : RowStep born moves row row
  | born {row : α} (how : born row) : RowStep born moves none (some row)
  | moved {old new : α} (how : moves old new) : RowStep born moves (some old) (some new)

namespace RowStep

variable {born : α → Prop} {moves : α → α → Prop} {before after : Option α}

section

variable (step : RowStep born moves before after)

include step

theorem absent (absent : before = none) (found : after = some r) : born r := by
  subst absent found
  cases step with
  | born how => exact how

theorem present (found : before = some r) : ∃ r', after = some r' ∧ (r' = r ∨ moves r r') := by
  subst found
  cases step with
  | same => exact ⟨r, rfl, .inl rfl⟩
  | moved how => exact ⟨_, rfl, .inr how⟩

theorem between {r' : α} (found : before = some r) (found' : after = some r') :
    r' = r ∨ moves r r' := by
  obtain ⟨new, now, way⟩ := step.present found
  cases found'.symm.trans now
  exact way

end

theorem of_appended (rows : t'.rows = t.rows ++ added) (how : ∀ r ∈ added, born r) :
    RowStep born moves (t.get? k) (t'.get? k) := by
  cases found : t.get? k with
  | some r =>
    rw [get?_mono rows found]
    exact .same
  | none =>
    cases found' : t'.get? k with
    | none => exact .same
    | some r =>
      rcases get?_appended rows found' with old | ⟨_, member, _⟩
      · rw [found] at old
        cases old
      · exact .born (how r member)

theorem of_updated {j : κ} {old new : α} (found : t.get? j = some old)
    (after : ∀ k, t'.get? k = if k = j then some new else t.get? k)
    (how : k = j → moves old new) : RowStep born moves (t.get? k) (t'.get? k) := by
  rw [after k]
  split
  next same =>
    rw [same, found]
    exact .moved (how same)
  next => exact .same

theorem of_updateWhere {p : α → Bool} (keeps : ∀ r, key (f r) = key r)
    (how : ∀ r, t.get? k = some r → p r = true → moves r (f r)) :
    RowStep born moves (t.get? k) ((t.updateWhere p f keeps).get? k) := by
  rw [get?_updateWhere]
  cases found : t.get? k with
  | none => exact .same
  | some r =>
    rw [Option.map_some]
    split
    next hit => exact .moved (how r found hit)
    next => exact .same

end RowStep

end Keyed

end Table

end Certctl.Lib

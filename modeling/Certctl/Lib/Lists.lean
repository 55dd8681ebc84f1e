import Mathlib.Data.List.Basic

/-!
Facts about lists: counts, repetitions, and folds over bytes.
-/
namespace Certctl.Lib

/-- A test that is weaker on a list, and met once more, counts more. -/
theorem countP_lt_countP {α : Type} {p q : α → Bool} {l : List α}
    (weaker : ∀ x ∈ l, p x = true → q x = true) {x : α} (member : x ∈ l) (holds : q x = true)
    (fails : p x = false) : l.countP p < l.countP q := by
  obtain ⟨front, back, rfl⟩ := List.append_of_mem member
  have inFront := List.countP_mono_left (l := front) (fun y here => weaker y (by simp [here]))
  have inBack := List.countP_mono_left (l := back) (fun y here => weaker y (by simp [here]))
  simp only [List.countP_append, List.countP_cons, holds, fails]
  simp only [if_true, Bool.false_eq_true, if_false]
  omega

theorem nodup_eraseDups {α : Type} [DecidableEq α] : ∀ l : List α, l.eraseDups.Nodup
  | [] => List.nodup_nil
  | a :: rest => by
    rw [List.eraseDups_cons]
    exact List.nodup_cons.mpr ⟨by simp, nodup_eraseDups _⟩
termination_by l => l.length
decreasing_by exact Nat.lt_succ_of_le (List.length_filter_le _ rest)

theorem foldl_or_eq_zero (f : Nat → UInt8) (indices : List Nat) (bad : UInt8) :
    indices.foldl (fun bad i => bad ||| f i) bad = 0 ↔ bad = 0 ∧ ∀ i ∈ indices, f i = 0 := by
  induction indices generalizing bad with
  | nil => simp
  | cons i rest ih => simp [ih, and_assoc]

/-- As many bytes with the same value are the same bytes. -/
theorem eq_of_foldl_eq {a b : List UInt8} {v w : Nat} (length : a.length = b.length) (same :
    a.foldl (fun acc c => 256 * acc + c.toNat) v = b.foldl (fun acc c => 256 * acc + c.toNat) w) :
    v = w ∧ a = b := by
  induction a generalizing b v w with
  | nil =>
    obtain rfl := List.length_eq_zero_iff.mp length.symm
    exact ⟨same, rfl⟩
  | cons c a ih =>
    cases b with
    | nil => cases length
    | cons d b =>
      obtain ⟨first, rfl⟩ := ih (Nat.succ.inj length) same
      have small := c.toNat_lt
      have small' := d.toNat_lt
      dsimp only at first
      exact ⟨by omega, by rw [UInt8.toNat_inj.mp (by omega : c.toNat = d.toNat)]⟩

end Certctl.Lib

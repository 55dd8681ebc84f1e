import Mathlib.Data.List.Basic

/-!
Sliding-window logs. The admitted times of one key form a list that grows at the end.
A limiter keeps only part of it. It tracks the list above a horizon when both hold the
same entries from every cutoff on that is not below the horizon; it covers the list when
it holds at least as many. Dropping entries from the front up to a cutoff, appending a
new time and advancing the horizon keep both, and covering is enough to bound every
window of the admitted times.
-/
namespace Certctl.Lib.SlidingLog

/-- No half-open interval of length `window` holds more than `bound` of the times. -/
def Capped (bound : Int) (window : Int) (times : List Int) : Prop :=
  ∀ a : Int, (times.countP (fun t => decide (a ≤ t ∧ t < a + window)) : Int) ≤ bound

/-- From the horizon on, the kept entries are the admitted ones. -/
def Tracks (horizon : Int) (kept admitted : List Int) : Prop :=
  ∀ cutoff : Int, horizon ≤ cutoff →
    kept.filter (fun t => decide (cutoff ≤ t)) = admitted.filter (fun t => decide (cutoff ≤ t))

/-- From the horizon on, at least as many entries are kept as were admitted. -/
def Covers (horizon : Int) (kept admitted : List Int) : Prop :=
  ∀ cutoff : Int, horizon ≤ cutoff →
    admitted.countP (fun t => decide (cutoff ≤ t)) ≤ kept.countP (fun t => decide (cutoff ≤ t))

variable {bound window horizon later now : Int} {kept admitted times : List Int}

theorem capped_nil (positive : 0 ≤ bound) : Capped bound window [] := by
  intro a
  simpa using positive

/-- A new time may be admitted when fewer than `bound` of the others are recent or later. -/
theorem Capped.append (capped : Capped bound window times)
    (room : (times.countP (fun t => decide (now - window ≤ t)) : Int) < bound) :
    Capped bound window (times ++ [now]) := by
  intro a
  rw [List.countP_append, List.countP_singleton]
  split
  next inside =>
    have bounds := of_decide_eq_true inside
    -- Whatever shares the interval with `now` is recent at `now`.
    have recent : times.countP (fun t => decide (a ≤ t ∧ t < a + window)) ≤
        times.countP (fun t => decide (now - window ≤ t)) := by
      apply List.countP_mono_left
      intro t _ shares
      have shared := of_decide_eq_true shares
      exact decide_eq_true (by omega)
    omega
  next =>
    have := capped a
    omega

theorem tracks_refl (horizon : Int) (times : List Int) : Tracks horizon times times :=
  fun _ _ => rfl

variable (tracks : Tracks horizon kept admitted)

include tracks in
theorem Tracks.advance (forward : horizon ≤ later) :
    Tracks later kept admitted :=
  fun cutoff above => tracks cutoff (Int.le_trans forward above)

include tracks in
theorem Tracks.append (added : List Int) :
    Tracks horizon (kept ++ added) (admitted ++ added) := by
  intro cutoff above
  rw [List.filter_append, List.filter_append, tracks cutoff above]

variable {cutoff early : Int}

/-- Dropping the entries in front that are before a cutoff loses nothing after it. -/
theorem filter_dropWhile (above : early ≤ cutoff) (times : List Int) :
    (times.dropWhile (fun t => decide (t < early))).filter (fun t => decide (cutoff ≤ t)) =
      times.filter (fun t => decide (cutoff ≤ t)) := by
  induction times with
  | nil => rfl
  | cons t rest ih =>
    rw [List.dropWhile_cons]
    split
    next old =>
      have before := of_decide_eq_true old
      rw [ih, List.filter_cons_of_neg]
      simp only [decide_eq_true_eq]
      omega
    next => rfl

theorem filter_old (old : ∀ t ∈ times, t < cutoff) :
    times.filter (fun t => decide (cutoff ≤ t)) = [] := by
  apply List.filter_eq_nil_iff.mpr
  intro t member recent
  have before := old t member
  have after := of_decide_eq_true recent
  omega

include tracks in
theorem Tracks.dropWhile :
    Tracks horizon (kept.dropWhile (fun t => decide (t < horizon))) admitted := by
  intro cutoff above
  rw [filter_dropWhile above, tracks cutoff above]

include tracks in
/-- A log whose entries are all before the horizon may be forgotten. -/
theorem Tracks.forget (old : ∀ t ∈ kept, t < horizon) :
    Tracks horizon [] admitted := by
  intro cutoff above
  have nothing : kept.filter (fun t => decide (cutoff ≤ t)) = [] := by
    apply filter_old
    intro t member
    exact Int.lt_of_lt_of_le (old t member) above
  rw [← tracks cutoff above, nothing]
  rfl

include tracks in
theorem Tracks.countP :
    kept.countP (fun t => decide (horizon ≤ t)) =
      admitted.countP (fun t => decide (horizon ≤ t)) := by
  rw [List.countP_eq_length_filter, List.countP_eq_length_filter,
    tracks horizon (Int.le_refl horizon)]

include tracks in
theorem Tracks.covers : Covers horizon kept admitted := by
  intro cutoff above
  apply Nat.le_of_eq
  rw [List.countP_eq_length_filter, List.countP_eq_length_filter, tracks cutoff above]

section

variable (covers : Covers horizon kept admitted)

include covers

/-- What is admitted is kept; more may be kept. -/
theorem Covers.append {added new : List Int}
    (recorded : List.Sublist new added) : Covers horizon (kept ++ added) (admitted ++ new) := by
  intro cutoff above
  rw [List.countP_append, List.countP_append]
  exact Nat.add_le_add (covers cutoff above) recorded.countP_le

theorem Covers.dropWhile (above : early ≤ horizon) :
    Covers horizon (kept.dropWhile (fun t => decide (t < early))) admitted := by
  intro cutoff later
  have counted := covers cutoff later
  rw [List.countP_eq_length_filter (l := kept)] at counted
  rw [List.countP_eq_length_filter (l := kept.dropWhile _),
    filter_dropWhile (Int.le_trans above later)]
  exact counted

theorem Covers.forget (old : ∀ t ∈ kept, t < horizon) :
    Covers horizon [] admitted := by
  intro cutoff above
  have counted := covers cutoff above
  rw [List.countP_eq_length_filter (l := kept), filter_old] at counted
  · exact counted
  · intro t member
    exact Int.lt_of_lt_of_le (old t member) above

/-- Fewer kept entries than the bound leave room for one more admission. -/
theorem Covers.room (short : (kept.length : Int) < bound) :
    (admitted.countP (fun t => decide (horizon ≤ t)) : Int) < bound := by
  have counted := covers horizon (Int.le_refl horizon)
  have fewer : kept.countP (fun t => decide (horizon ≤ t)) ≤ kept.length := List.countP_le_length
  omega

end

/-- In a sorted log, what the cutoff leaves is recent. -/
theorem le_of_mem_dropWhile (sorted : times.Pairwise (· ≤ ·)) {t : Int}
    (member : t ∈ times.dropWhile (fun t => decide (t < horizon))) : horizon ≤ t := by
  induction times with
  | nil => cases member
  | cons head rest ih =>
    have ordered := List.pairwise_cons.mp sorted
    rw [List.dropWhile_cons] at member
    split at member
    next => exact ih ordered.2 member
    next kept =>
      have first : horizon ≤ head := by
        simp only [decide_eq_true_eq] at kept
        omega
      rcases List.mem_cons.mp member with rfl | behind
      · exact first
      · exact Int.le_trans first (ordered.1 t behind)

include tracks in
/-- A full sorted log shows as many recent admissions. -/
theorem Tracks.full
    (recent : ∀ t ∈ kept, horizon ≤ t) (long : bound ≤ kept.length) :
    bound ≤ admitted.countP (fun t => decide (horizon ≤ t)) := by
  rw [← tracks.countP, List.countP_eq_length.mpr]
  · exact long
  · intro t member
    exact decide_eq_true (recent t member)

end Certctl.Lib.SlidingLog

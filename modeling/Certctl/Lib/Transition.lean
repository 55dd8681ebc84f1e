import Certctl.Lib.Result
import Mathlib.Algebra.GroupWithZero.Nat
import Mathlib.Data.List.Basic

/-!
Runs of a partial, labelled step function. A run may carry a discipline: a
predicate on the state before each step, which singles out the runs whose steps
all avoid some branch. The unrestricted runs are those of the trivial discipline.
Replaying a concrete list of labels checks the discipline by evaluation. A pool of
concurrent calls is a list of local states in which one entry moves at a time.
-/
namespace Certctl.Lib

/-- States reached from `init` by steps that each met `ok` in the state they
were taken from. -/
inductive ReachableUnder {σ α : Type} (step : σ → α → Option σ) (init : σ → Prop)
    (ok : σ → α → Prop) : σ → Prop where
  | start {s : σ} (initial : init s) : ReachableUnder step init ok s
  | next {s s' : σ} {a : α} (reached : ReachableUnder step init ok s) (allowed : ok s a)
      (taken : step s a = some s') : ReachableUnder step init ok s'

/-- Every interleaving: no discipline at all. -/
abbrev Reachable {σ α : Type} (step : σ → α → Option σ) (init : σ → Prop) : σ → Prop :=
  ReachableUnder step init (fun _ _ => True)

/-- `s'` is `s` or a later state of a run that meets `ok` at every step. -/
inductive Later {σ α : Type} (step : σ → α → Option σ) (ok : σ → α → Prop) (s : σ) : σ → Prop where
  | refl : Later step ok s s
  | next {m s' : σ} {a : α} (before : Later step ok s m) (allowed : ok m a)
      (taken : step m a = some s') : Later step ok s s'

variable {σ α : Type} {step : σ → α → Option σ} {init : σ → Prop} {ok : σ → α → Prop} {s s' : σ}

theorem ReachableUnder.later (reached : ReachableUnder step init ok s) (run : Later step ok s s') :
    ReachableUnder step init ok s' := by
  induction run with
  | refl => exact reached
  | next _ allowed taken ih => exact .next ih allowed taken

variable {ok' : σ → α → Prop} {I : σ → Prop}

/-- The invariant rule: what holds at the start and is kept by every disciplined
step holds in every state reached. -/
theorem ReachableUnder.invariant (base : ∀ s, init s → I s)
    (keep : ∀ s a s', I s → ok s a → step s a = some s' → I s')
    (reached : ReachableUnder step init ok s) : I s := by
  induction reached with
  | start initial => exact base _ initial
  | next _ allowed taken ih => exact keep _ _ _ ih allowed taken

theorem ReachableUnder.mono (weaker : ∀ s a, ok s a → ok' s a)
    (reached : ReachableUnder step init ok s) : ReachableUnder step init ok' s := by
  induction reached with
  | start initial => exact .start initial
  | next _ allowed taken ih => exact .next ih (weaker _ _ allowed) taken

theorem Later.mono (weaker : ∀ s a, ok s a → ok' s a) (run : Later step ok s s') :
    Later step ok' s s' := by
  induction run with
  | refl => exact .refl
  | next _ allowed taken ih => exact .next ih (weaker _ _ allowed) taken

theorem ReachableUnder.unrestricted (reached : ReachableUnder step init ok s) :
    Reachable step init s :=
  reached.mono (fun _ _ _ => trivial)

/-- Take the listed steps in order, refusing the first one that breaks the
discipline `check`. -/
def replay (step : σ → α → Option σ) (check : σ → α → Bool) : σ → List α → Option σ
  | s, [] => some s
  | s, a :: rest =>
    if check s a then (step s a).bind (fun s' => replay step check s' rest) else none

theorem Later.head {m : σ} {a : α} (allowed : ok s a) (taken : step s a = some m)
    (run : Later step ok m s') : Later step ok s s' := by
  induction run with
  | refl => exact .next .refl allowed taken
  | next _ allowed' taken' ih => exact .next ih allowed' taken'

theorem replay_later {check : σ → α → Bool} (labels : List α) (s s' : σ)
    (result : replay step check s labels = some s') :
    Later step (fun t a => check t a = true) s s' := by
  induction labels generalizing s with
  | nil =>
    simp only [replay, Option.some.injEq] at result
    subst s'
    exact .refl
  | cons a rest ih =>
    obtain ⟨allowed, result⟩ := of_then result nofun
    obtain ⟨m, taken, tail⟩ := Option.bind_eq_some_iff.mp result
    exact .head allowed taken (ih m tail)

/-- What is said of the outcome of a lookup, or of a replay, is decided by carrying it out. -/
instance decidableFound {τ : Type} (found : Option τ) (p : τ → Prop) [DecidablePred p] :
    Decidable (∃ a, found = some a ∧ p a) :=
  match found with
  | none => .isFalse (by simp)
  | some a => decidable_of_iff (p a) (by simp)

section Replay

variable (step)

/-- A replay that ends in a state with property `p` shows such a state reachable. -/
theorem exists_reachable_of_replay (check : σ → α → Bool) (initial : init s) (labels : List α)
    (p : σ → Prop)
    (result : ∃ s', replay step check s labels = some s' ∧ p s') :
    ∃ s', ReachableUnder step init (fun t a => check t a = true) s' ∧ p s' := by
  obtain ⟨s', replayed, holds⟩ := result
  exact ⟨s', ReachableUnder.later (.start initial) (replay_later labels s s' replayed), holds⟩

/-- The same without a discipline. -/
theorem exists_reached_of_replay (initial : init s) (labels : List α) (p : σ → Prop)
    (result : ∃ s', replay step (fun _ _ => true) s labels = some s' ∧ p s') :
    ∃ s', Reachable step init s' ∧ p s' := by
  obtain ⟨s', reached, holds⟩ := exists_reachable_of_replay step _ initial labels p result
  exact ⟨s', reached.unrestricted, holds⟩

/-- The same for a pair of states, the second later than the first. -/
theorem exists_later_of_replay (check : σ → α → Bool) (initial : init s)
    (first second : List α) (p : σ → σ → Prop)
    (result : ∃ m, replay step check s first = some m ∧
      ∃ s', replay step check m second = some s' ∧ p m s') :
    ∃ m s', ReachableUnder step init (fun t a => check t a = true) m ∧
      Later step (fun t a => check t a = true) m s' ∧ p m s' := by
  obtain ⟨m, replayed, s', replayed', holds⟩ := result
  exact ⟨m, s', ReachableUnder.later (.start initial) (replay_later first s m replayed),
    replay_later second m s' replayed', holds⟩

theorem exists_reached_later_of_replay (initial : init s) (first second : List α)
    (p : σ → σ → Prop)
    (result : ∃ m, replay step (fun _ _ => true) s first = some m ∧
      ∃ s', replay step (fun _ _ => true) m second = some s' ∧ p m s') :
    ∃ m s', Reachable step init m ∧ Later step (fun _ _ => True) m s' ∧ p m s' := by
  obtain ⟨m, s', reached, run, holds⟩ := exists_later_of_replay step _ initial first second p result
  exact ⟨m, s', reached.unrestricted, run.mono fun _ _ _ => trivial, holds⟩

end Replay

/-- The completion rule: a step that is open in every unfinished state and comes closer to
the end leads to the end. -/
theorem exists_later_of_progress {finished : σ → Prop} (left : σ → Nat)
    (progress : ∀ s, I s → ¬ finished s →
      ∃ a s', ok s a ∧ step s a = some s' ∧ I s' ∧ left s' < left s) (holds : I s) :
    ∃ s', Later step ok s s' ∧ I s' ∧ finished s' := by
  induction distance : left s using Nat.strongRecOn generalizing s with
  | ind n ih =>
    by_cases done : finished s
    · exact ⟨s, .refl, holds, done⟩
    · obtain ⟨a, m, allowed, taken, kept, closer⟩ := progress s holds done
      obtain ⟨s', run, kept', done'⟩ := ih (left m) (distance ▸ closer) kept rfl
      exact ⟨s', .head allowed taken run, kept', done'⟩

section Pool

variable {τ : Type} {pool : List τ} {c i : Nat} {old new entry : τ} {p : τ → Prop}

/-- When one call of a pool moves, a count over the pool changes by that call. -/
theorem countP_set_add (p : τ → Bool) (new : τ) (current : pool[c]? = some old) :
    (pool.set c new).countP p + (if p old then 1 else 0) =
      pool.countP p + (if p new then 1 else 0) := by
  obtain ⟨inside, rfl⟩ := List.getElem?_eq_some_iff.mp current
  rw [List.countP_set inside]
  split
  next counted =>
    have present : 0 < pool.countP p :=
      List.countP_pos_iff.mpr ⟨pool[c], List.getElem_mem inside, counted⟩
    omega
  next => omega

/-- When one call of a pool moves, a total over the pool changes by that call. -/
theorem sum_set_add (f : τ → Nat) (new : τ) (current : pool[c]? = some old) :
    ((pool.set c new).map f).sum + f old = (pool.map f).sum + f new := by
  induction pool generalizing c with
  | nil => cases current
  | cons head tail ih =>
    cases c with
    | zero =>
      simp only [List.getElem?_cons_zero, Option.some.injEq] at current
      subst current
      simp only [List.set_cons_zero, List.map_cons, List.sum_cons]
      omega
    | succ c =>
      have later := ih (c := c) (by simpa using current)
      simp only [List.set_cons_succ, List.map_cons, List.sum_cons]
      omega

/-- After a move, an entry of the pool is the moved one or stands where it stood. -/
theorem getElem?_set_cases (found : (pool.set c new)[i]? = some entry) :
    i = c ∧ entry = new ∨ i ≠ c ∧ pool[i]? = some entry := by
  by_cases same : c = i
  · subst same
    rw [List.getElem?_set] at found
    simp only [if_true] at found
    obtain ⟨-, found⟩ := of_then found nofun
    exact .inl ⟨rfl, (Option.some.inj found).symm⟩
  · rw [List.getElem?_set_ne same] at found
    exact .inr ⟨Ne.symm same, found⟩

theorem getElem?_of_set
    (other : new ≠ entry) (found : (pool.set c new)[i]? = some entry) : pool[i]? = some entry := by
  rcases getElem?_set_cases found with ⟨_, equal⟩ | ⟨_, stayed⟩
  · exact absurd equal.symm other
  · exact stayed

theorem mem_of_set (other : new ≠ entry) (member : entry ∈ pool.set c new) : entry ∈ pool :=
  (List.mem_or_eq_of_mem_set member).resolve_right other.symm

/-- An entry of the pool stays in its place unless it is the one that moved. -/
theorem getElem?_set_or (new : τ) (current : pool[c]? = some old) (found : pool[i]? = some entry) :
    (pool.set c new)[i]? = some entry ∨
      c = i ∧ entry = old ∧ (pool.set c new)[i]? = some new := by
  by_cases same : c = i
  · subst same
    cases current.symm.trans found
    exact .inr ⟨rfl, rfl, List.getElem?_set_self (List.getElem?_eq_some_iff.mp current).1⟩
  · rw [List.getElem?_set_ne same]
    exact .inl found

theorem mem_set_or_eq (new : τ) (current : pool[c]? = some old) (member : entry ∈ pool) :
    entry ∈ pool.set c new ∨ entry = old := by
  obtain ⟨i, found⟩ := List.mem_iff_getElem?.mp member
  exact (getElem?_set_or new current found).imp List.mem_of_getElem? fun moved => moved.2.1

/-- What holds of every entry of the pool holds of every entry after a move to one it holds of. -/
theorem forall_mem_set (each : ∀ entry ∈ pool, p entry) (moved : p new) :
    ∀ entry ∈ pool.set c new, p entry := by
  intro entry member
  rcases List.mem_or_eq_of_mem_set member with old | rfl
  · exact each entry old
  · exact moved

theorem mem_snoc (member : entry ∈ pool ++ [new]) :
    entry ∈ pool ∨ entry = new :=
  (List.mem_append.mp member).imp_right List.mem_singleton.mp

theorem mem_of_snoc (other : new ≠ entry) (member : entry ∈ pool ++ [new]) : entry ∈ pool :=
  (mem_snoc member).resolve_right other.symm

theorem forall_mem_snoc (each : ∀ entry ∈ pool, p entry) (last : p new) :
    ∀ entry ∈ pool ++ [new], p entry := by
  intro entry member
  rcases mem_snoc member with old | rfl
  · exact each entry old
  · exact last

theorem getElem?_snoc (found : pool[i]? = some entry) : (pool ++ [new])[i]? = some entry := by
  rw [List.getElem?_append_left (List.getElem?_eq_some_iff.mp found).1, found]

/-- A new entry of the pool stands behind the old ones. -/
theorem getElem?_append_cases (found : (pool ++ [new])[i]? = some entry) :
    pool[i]? = some entry ∨ i = pool.length ∧ entry = new := by
  rw [List.getElem?_append] at found
  split at found
  · exact .inl found
  next beyond =>
    obtain ⟨inside, equal⟩ := List.getElem?_eq_some_iff.mp found
    rw [List.length_singleton] at inside
    have only : i - pool.length = 0 := by omega
    simp only [only, List.getElem_cons_zero] at equal
    exact .inr ⟨by omega, equal.symm⟩

theorem getElem?_of_snoc
    (other : new ≠ entry) (found : (pool ++ [new])[i]? = some entry) : pool[i]? = some entry :=
  (getElem?_append_cases found).resolve_right fun last => other last.2.symm

end Pool

end Certctl.Lib

import Mathlib.Data.Finset.Max

/-!
Clients that take locks one at a time, each in increasing order. A client waits for the
one that holds its next lock. Along a chain of waiting clients the awaited lock grows, so
no chain closes, and among finitely many clients one can go on.
-/
namespace Certctl.Lib

/-- What each client holds and which lock it asks for next. -/
structure LockView (ι κ : Type) where
  held : ι → Set κ
  next : ι → Option κ

namespace LockView

variable {ι κ : Type} [LinearOrder κ] {v : LockView ι κ}

def Waits (v : LockView ι κ) (c d : ι) : Prop := ∃ k, v.next c = some k ∧ k ∈ v.held d

/-- The lock a client asks for, below all others when it asks for none. -/
def awaited (v : LockView ι κ) (c : ι) : WithBot κ := (v.next c).elim ⊥ (fun k => (k : WithBot κ))

/-- Every client asks for a lock above all it holds. -/
def Ordered (v : LockView ι κ) : Prop := ∀ c k, v.next c = some k → ∀ j ∈ v.held c, j < k

/-- Along a chain of waiting clients the awaited lock grows. -/
theorem next_lt_of_chain (ordered : v.Ordered) {c d : ι} (chain : Relation.TransGen v.Waits c d) :
    ∃ k, v.next c = some k ∧ ∀ k', v.next d = some k' → k < k' := by
  induction chain with
  | single waits =>
    obtain ⟨k, asked, held⟩ := waits
    exact ⟨k, asked, fun k' next => ordered _ k' next k held⟩
  | tail _ waits ih =>
    obtain ⟨k, asked, grows⟩ := ih
    obtain ⟨m, asked', held⟩ := waits
    exact ⟨k, asked, fun k' next => lt_trans (grows m asked') (ordered _ k' next m held)⟩

theorem waits_acyclic (ordered : v.Ordered) (c : ι) : ¬ Relation.TransGen v.Waits c c := by
  intro cycle
  obtain ⟨k, asked, grows⟩ := next_lt_of_chain ordered cycle
  exact lt_irrefl k (grows k asked)

/-- Among finitely many clients that wait only for each other, one waits for nobody. -/
theorem exists_unblocked (ordered : v.Ordered) (active : Finset ι) (nonempty : active.Nonempty)
    (closed : ∀ c ∈ active, ∀ d, v.Waits c d → d ∈ active) :
    ∃ c ∈ active, ∀ d, ¬ v.Waits c d := by
  by_contra blocked
  push Not at blocked
  -- The client with the greatest awaited lock waits for one whose awaited lock is greater.
  obtain ⟨c, member, greatest⟩ := active.exists_max_image v.awaited nonempty
  obtain ⟨d, k, asked, held⟩ := blocked c member
  have inside := closed c member d ⟨k, asked, held⟩
  obtain ⟨_, k', asked', _⟩ := blocked d inside
  have above : k < k' := ordered d k' asked' k held
  have below := greatest d inside
  simp only [awaited, asked, asked', Option.elim_some] at below
  exact absurd (WithBot.coe_le_coe.mp below) (not_le.mpr above)

end LockView

end Certctl.Lib

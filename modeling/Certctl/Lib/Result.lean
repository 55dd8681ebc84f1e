import Mathlib.Logic.Basic

/-!
Fallible computations in `Except`: the primitive guards a service function is
written with, and the inversion of a sequence that succeeded or failed.
-/
namespace Certctl.Lib

variable {ε α β : Type}

/-- Continue only when `p` holds. -/
def ensure (p : Prop) [Decidable p] (e : ε) : Except ε Unit := if p then .ok () else .error e

/-- A lookup whose miss is the error `e`. -/
def orFail (x : Option α) (e : ε) : Except ε α :=
  match x with
  | some a => .ok a
  | none => .error e

/-- The result of a call: nothing when it fails or finds nothing. -/
def lookup (fails : Bool) (found : Option α) : Option α := if fails then none else found

/-- A call that fails with the given text, if any. -/
def attempt (fault : Option String) (wrap : String → ε) : Except ε Unit :=
  match fault with
  | some cause => .error (wrap cause)
  | none => .ok ()

variable {x : Except ε α} {f : α → Except ε β} {found : Option α} {a : α} {e : ε} {fails : Bool}

theorem bind_eq_ok {b : β} :
    (x >>= f) = .ok b ↔ ∃ a, x = .ok a ∧ f a = .ok b := by
  cases x with
  | error e => simp [bind, Except.bind]
  | ok a => simp [bind, Except.bind]

theorem bind_eq_error : (x >>= f) = .error e ↔ x = .error e ∨ ∃ a, x = .ok a ∧ f a = .error e := by
  cases x with
  | error e => simp [bind, Except.bind]
  | ok a => simp [bind, Except.bind]

theorem eq_of_ensure_eq_error {p : Prop} [Decidable p] {e' : ε} (failed : ensure p e = .error e') :
    e' = e := by
  unfold ensure at failed
  split at failed
  · cases failed
  · exact (Except.error.inj failed).symm

@[simp] theorem ensure_eq_ok {p : Prop} [Decidable p] {u : Unit} : ensure p e = .ok u ↔ p := by
  unfold ensure
  split <;> simp_all

@[simp] theorem orFail_eq_ok {x : Option α} {a : α} : orFail x e = .ok a ↔ x = some a := by
  cases x <;> simp [orFail]

@[simp] theorem attempt_eq_ok {fault : Option String} {wrap : String → ε} {u : Unit} :
    attempt fault wrap = .ok u ↔ fault = none := by
  cases fault <;> simp [attempt]

theorem lookup_eq_none : lookup fails found = none ↔ fails = true ∨ found = none := by
  cases fails <;> simp [lookup]

theorem eq_some_of_lookup (result : lookup fails found = some a) : found = some a := by
  unfold lookup at result
  split at result
  · cases result
  · exact result

section Conditional

variable {p : Prop} [Decidable p] {x y z : α}

/-- A conditional that yields what its second branch does not. -/
theorem of_then (yields : (if p then x else y) = z) (other : y ≠ z) : p ∧ x = z := by
  split at yields
  next holds => exact ⟨holds, yields⟩
  · exact absurd yields other

theorem of_else (yields : (if p then x else y) = z) (other : x ≠ z) : ¬p ∧ y = z := by
  split at yields
  · exact absurd yields other
  next fails => exact ⟨fails, yields⟩

end Conditional

theorem mapError_eq_ok {δ : Type} (translate : ε → δ) :
    x.mapError translate = .ok a ↔ x = .ok a := by
  unfold Except.mapError
  cases x with
  | error e => simp
  | ok value => simp

theorem forall_except {p : Except ε α → Prop} :
    (∀ r, p r) ↔ (∀ e, p (.error e)) ∧ ∀ a, p (.ok a) :=
  ⟨fun all => ⟨fun e => all (.error e), fun a => all (.ok a)⟩, fun parts r => by
    cases r with
    | error e => exact parts.1 e
    | ok a => exact parts.2 a⟩

theorem isOk_iff : x.isOk = true ↔ ∃ a, x = .ok a := by
  cases x <;> simp [Except.isOk, Except.toBool]

theorem toOption_eq_some : x.toOption = some a ↔ x = .ok a := by
  cases x <;> simp [Except.toOption]

end Certctl.Lib

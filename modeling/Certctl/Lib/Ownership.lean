import Certctl.Lib.Program

/-!
Calls that each tend a part of the store of their own. While one runs, the others leave its
part alone, so that what it has found out about the part stays true between its operations.
Which part that is may change along the way: a relation for each owner says of two stores
that the owner's part is the same in both.
-/
namespace Certctl.Lib

variable {Op : Type} {Res : Op → Type} {σ α γ ε ι : Type}

section Calls

variable (exec : σ → (o : Op) → ε → σ × Res o) (mine : ι → σ → σ → Prop)
  (may : σ → Op → ε → Prop) (I : σ → Prop)

/-- The operation touches nothing that is anyone's. -/
def Neutral (o : Op) : Prop :=
  ∀ s choice, I s → may s o choice → I (exec s o choice).1 ∧ ∀ i, mine i s (exec s o choice).1

/-- From the store on, as long as the others leave alone what is the owner's, every operation
of the call keeps the invariant and leaves alone what is the others'. -/
def Keeps (me : ι) : Program Res α → σ → Prop
  | .done _, _ => True
  | .op o next, s => ∀ s₁ choice, mine me s s₁ → I s₁ → may s₁ o choice →
      I (exec s₁ o choice).1 ∧ (∀ other, other ≠ me → mine other s₁ (exec s₁ o choice).1) ∧
      Keeps me (next (exec s₁ o choice).2) (exec s₁ o choice).1
  | .fork child next, s => child.All (Neutral exec mine may I) ∧ Keeps me next s

variable {exec mine may I}

theorem Keeps.stable (trans : ∀ i s t u, mine i s t → mine i t u → mine i s u) {me : ι}
    {p : Program Res α} {s t : σ} (keeps : Keeps exec mine may I me p s) (moved : mine me s t) :
    Keeps exec mine may I me p t := by
  induction p with
  | done => trivial
  | op o next => exact fun s₁ choice later => keeps s₁ choice (trans me s t s₁ moved later)
  | fork child next _ ih => exact ⟨keeps.1, ih keeps.2⟩

section Rules

variable {me : ι} {J : σ → Prop} (stable : ∀ s t, mine me s t → J s → J t)
include stable

/-- An operation that touches nothing keeps a fact about the owner's part. -/
theorem keeps_neutral {o : Op} {next : Res o → Program Res α}
    (neutral : Neutral exec mine may I o)
    (rest : ∀ s₁ choice, J s₁ → I s₁ → may s₁ o choice → J (exec s₁ o choice).1 →
      Keeps exec mine may I me (next (exec s₁ o choice).2) (exec s₁ o choice).1)
    {s : σ} (fact : J s) : Keeps exec mine may I me (.op o next) s := by
  intro s₁ choice moved good met
  obtain ⟨good', frames⟩ := neutral s₁ choice good met
  have fact₁ : J s₁ := stable s s₁ moved fact
  exact ⟨good', fun other _ => frames other,
    rest s₁ choice fact₁ good met (stable s₁ _ (frames me) fact₁)⟩

end Rules

end Calls

section Interleaving

/-- Of two calls of one owner at least one is idle. -/
def Apart (who : γ → ι) (idle : Program Res α → Prop) (tasks : List (Task Res α γ)) : Prop :=
  ∀ (i j : Nat) (task other : Task Res α γ), i ≠ j → tasks[i]? = some task →
    tasks[j]? = some other → who task.call = who other.call →
    idle task.rest ∨ idle other.rest

section Apart

variable {who : γ → ι} {idle : Program Res α → Prop} {tasks : List (Task Res α γ)}
  {old new : Task Res α γ}

/-- A call goes on; an idle one stays idle. -/
theorem Apart.set (apart : Apart who idle tasks) {i : Nat}
    (current : tasks[i]? = some old) (same : new.call = old.call)
    (goesOn : idle old.rest → idle new.rest) : Apart who idle (tasks.set i new) := by
  intro j k task other distinct found found' owner
  rcases getElem?_set_cases found with ⟨rfl, rfl⟩ | ⟨-, stayed⟩
  · rcases getElem?_set_cases found' with ⟨equal, -⟩ | ⟨-, found'⟩
    · exact absurd equal.symm distinct
    · exact (apart j k old other distinct current found' (same ▸ owner)).imp_left goesOn
  · rcases getElem?_set_cases found' with ⟨rfl, rfl⟩ | ⟨-, found'⟩
    · exact (apart j k task old distinct stayed current (same ▸ owner)).imp_right goesOn
    · exact apart j k task other distinct stayed found' owner

/-- A further call is idle, or of an owner that has none. -/
theorem Apart.snoc (apart : Apart who idle tasks)
    (fits : idle new.rest ∨ ∀ task ∈ tasks, who task.call ≠ who new.call) :
    Apart who idle (tasks ++ [new]) := by
  intro j k task other distinct found found' owner
  rcases getElem?_append_cases found with stayed | ⟨atEnd, rfl⟩
  · rcases getElem?_append_cases found' with found' | ⟨-, rfl⟩
    · exact apart j k task other distinct stayed found' owner
    · exact fits.elim .inr fun free =>
        absurd owner (free task (List.mem_of_getElem? stayed))
  · rcases getElem?_append_cases found' with found' | ⟨atEnd', -⟩
    · exact fits.elim .inl fun free =>
        absurd owner.symm (free other (List.mem_of_getElem? found'))
    · exact absurd (atEnd.trans atEnd'.symm) distinct

theorem free_of_set {i : Nat} {owner : ι}
    (free : ∀ task ∈ tasks.set i new, who task.call ≠ owner) (current : tasks[i]? = some old)
    (same : new.call = old.call) :
    ∀ task ∈ tasks, who task.call ≠ owner := by
  intro task member
  rcases mem_set_or_eq new current member with other | rfl
  · exact free task other
  · rw [← same]
    exact free new (List.mem_set (List.getElem?_eq_some_iff.mp current).1 new)

end Apart

variable (exec : σ → (o : Op) → ε → σ × Res o) (body : γ → Program Res α) (mine : ι → σ → σ → Prop)
  (may : σ → Op → ε → Prop) (I : σ → Prop) (who : γ → ι) (ready : ι → σ → Prop)
  (ok : Pool Res σ α γ → Move γ ε → Prop)

/-- Each owner has one call under way at most, besides calls that touch nothing; an owner
without a call finds its part ready. -/
structure Tended (s : Pool Res σ α γ) : Prop where
  store : I s.store
  tasks : ∀ task ∈ s.tasks, task.rest.All (Neutral exec mine may I) ∨
    Keeps exec mine may I (who task.call) task.rest s.store
  apart : Apart who (Program.All (Neutral exec mine may I)) s.tasks
  waiting : ∀ i, (∀ task ∈ s.tasks, who task.call ≠ i) → ready i s.store

/-- What the calls owe: one that begins touches nothing, or it is its owner's only one and
keeps to the rules in a store that is ready for it; a step the discipline lets through meets
`may`. -/
structure Tenure : Prop where
  refl : ∀ i s, mine i s s
  trans : ∀ i s t u, mine i s t → mine i t u → mine i s u
  stays : ∀ i s t, mine i s t → ready i s → ready i t
  opens : ∀ (s : Pool Res σ α γ) call, ok s (.start call) →
    (body call).All (Neutral exec mine may I) ∨
    (∀ task ∈ s.tasks, who task.call ≠ who call) ∧
      (ready (who call) s.store → Keeps exec mine may I (who call) (body call) s.store)
  meets : ∀ (s : Pool Res σ α γ) i choice call log o next, ok s (.step i choice) →
    s.tasks[i]? = some ⟨call, log, .op o next⟩ → may s.store o choice

section Steps

variable {exec body mine may I who ready ok} {s : Pool Res σ α γ} {log : List (Event Res)}
  {call : γ}

theorem Tended.fork (tended : Tended exec mine may I who ready s) {i : Nat}
    {child next : Program Res α} (current : s.tasks[i]? = some ⟨call, log, .fork child next⟩) :
    Tended exec mine may I who ready
      { s with tasks := s.tasks.set i ⟨call, log, next⟩ ++ [⟨call, [], child⟩] } := by
  have before := tended.tasks _ (List.mem_of_getElem? current)
  have beside : child.All (Neutral exec mine may I) := before.elim And.left And.left
  refine ⟨tended.store, ?_, ?_, ?_⟩
  · exact forall_mem_snoc (forall_mem_set tended.tasks (before.imp And.right And.right))
      (.inl beside)
  · refine Apart.snoc ?_ (.inl beside)
    exact tended.apart.set current rfl And.right
  · intro owner free
    have rest := fun task old => free task (List.mem_append_left _ old)
    exact tended.waiting owner (free_of_set rest current rfl)

variable (tenure : Tenure exec body mine may I who ready ok)
include tenure

theorem Tended.start (tended : Tended exec mine may I who ready s)
    (allowed : ok s (.start call)) : Tended exec mine may I who ready
      { s with tasks := s.tasks ++ [⟨call, [], body call⟩] } := by
  have opens := tenure.opens s call allowed
  refine ⟨tended.store, ?_, tended.apart.snoc (opens.imp_right And.left), ?_⟩
  · refine forall_mem_snoc tended.tasks ?_
    exact opens.imp_right fun ⟨once, keeps⟩ => keeps (tended.waiting _ once)
  · intro owner free
    exact tended.waiting owner fun task old => free task (List.mem_append_left _ old)

theorem Tended.op (tended : Tended exec mine may I who ready s) {i : Nat} {choice : ε} {o : Op}
    {next : Res o → Program Res α}
    (allowed : ok s (.step i choice)) (current : s.tasks[i]? = some ⟨call, log, .op o next⟩) :
    Tended exec mine may I who ready ⟨(exec s.store o choice).1, s.tasks.set i
      ⟨call, ⟨o, (exec s.store o choice).2⟩ :: log, next (exec s.store o choice).2⟩⟩ := by
  have met := tenure.meets s i choice call log o next allowed current
  have before := tended.tasks _ (List.mem_of_getElem? current)
  -- the parts of all other owners stay, whichever kind of call has moved
  have after : I (exec s.store o choice).1 ∧
      (∀ other, other ≠ who call → mine other s.store (exec s.store o choice).1) ∧
      ((next (exec s.store o choice).2).All (Neutral exec mine may I) ∨
        Keeps exec mine may I (who call) (next (exec s.store o choice).2)
          (exec s.store o choice).1) := by
    rcases before with neutral | keeps
    · obtain ⟨good, frames⟩ := neutral.1 s.store choice tended.store met
      exact ⟨good, fun other _ => frames other, .inl (neutral.2 _)⟩
    · obtain ⟨good, frames, rest⟩ := keeps s.store choice (tenure.refl _ _) tended.store met
      exact ⟨good, frames, .inr rest⟩
  obtain ⟨good, frames, rest⟩ := after
  refine ⟨good, ?_, tended.apart.set current rfl fun neutral => neutral.2 _, ?_⟩
  · intro task member
    obtain ⟨j, found⟩ := List.mem_iff_getElem?.mp member
    rcases getElem?_set_cases found with ⟨-, rfl⟩ | ⟨own, found⟩
    · exact rest
    · rcases tended.tasks task (List.mem_of_getElem? found) with neutral | keeps
      · exact .inl neutral
      · by_cases same : who call = who task.call
        · -- the owner's other call touches nothing, so it is this one that has moved
          rcases tended.apart i j _ task own.symm current found same with neutral | neutral
          · exact .inr (keeps.stable tenure.trans
              ((neutral.1 s.store choice tended.store met).2 _))
          · exact .inl neutral
        · exact .inr (keeps.stable tenure.trans (frames _ (Ne.symm same)))
  · intro owner free
    have others : ∀ task ∈ s.tasks, who task.call ≠ owner := free_of_set free current rfl
    exact tenure.stays owner s.store _
      (frames owner (others _ (List.mem_of_getElem? current)).symm) (tended.waiting owner others)

/-- The rule: from a store that is ready for every owner, and with no call under way, every
state of a disciplined run is tended. -/
theorem tended_of_reachable {init : Pool Res σ α γ → Prop} (idle : ∀ s, init s → s.tasks = [])
    (good : ∀ s, init s → I s.store) (able : ∀ s, init s → ∀ i, ready i s.store)
    (reached : ReachableUnder (poolStep exec body) init ok s) :
    Tended exec mine may I who ready s := by
  refine reached.invariant ?_ ?_
  · intro s initial
    have none := idle s initial
    refine ⟨good s initial, ?_, ?_, fun i _ => able s initial i⟩
    · intro task member
      rw [none] at member
      cases member
    · intro i j task other _ found
      rw [none] at found
      cases found
  · intro s m s' tended allowed taken
    cases poolStep_effect taken with
    | start => exact tended.start tenure allowed
    | op _ current => exact tended.op tenure allowed current
    | fork _ current => exact tended.fork current

end Steps

end Interleaving

end Certctl.Lib

import Certctl.Lib.Transition

/-!
Calls over a shared store, interleaved at their operations. A call is a tree: it asks for
one operation after another and goes on with what each returns; it may also start another
call beside itself. The operations are carried out one at a time, each with a choice of the
surroundings, and which call goes next is open. A rely relation bounds what may happen to
the store between two operations of a call. Once every operation of every call is seen to
stay within the relation, each call may be looked at alone.
-/
namespace Certctl.Lib

inductive Program {Op : Type} (Res : Op → Type) (α : Type) where
  | done (reply : α)
  | op (o : Op) (next : Res o → Program Res α)
  | fork (child next : Program Res α)

/-- An operation with what it returned. -/
structure Event {Op : Type} (Res : Op → Type) where
  op : Op
  result : Res op

/-- A call under way: what it was asked for, what it has done, the latest first, and what
is left of it. -/
structure Task {Op : Type} (Res : Op → Type) (α γ : Type) where
  call : γ
  log : List (Event Res)
  rest : Program Res α

structure Pool {Op : Type} (Res : Op → Type) (σ α γ : Type) where
  store : σ
  tasks : List (Task Res α γ)

inductive Move (γ ε : Type) where
  | start (call : γ)
  | step (i : Nat) (choice : ε)

namespace Program

variable {Op : Type} {Res : Op → Type} {σ α γ ε : Type}

/-- Every operation the call may ask for, whatever the results. -/
def All (p : Op → Prop) : Program Res α → Prop
  | .done _ => True
  | .op o next => p o ∧ ∀ r, All p (next r)
  | .fork child next => All p child ∧ All p next

/-- Every operation the call may ask for, with what it has done before. -/
def AllFrom (p : List (Event Res) → Op → Prop) : List (Event Res) → Program Res α → Prop
  | _, .done _ => True
  | log, .op o next => p log o ∧ ∀ r, AllFrom p (⟨o, r⟩ :: log) (next r)
  | log, .fork child next => AllFrom p [] child ∧ AllFrom p log next

/-- The operations of a call without forks, whatever the results, go as an automaton has
it. -/
def Conforms {S : Type} (δ : S → Op → Option S) : S → Program Res α → Prop
  | _, .done _ => True
  | a, .op o next => ∃ b, δ a o = some b ∧ ∀ r, Conforms δ b (next r)
  | _, .fork _ _ => False

/-- The call comes to a program in `k`, and until then its operations meet `p`. -/
inductive UpTo (p : Op → Prop) (k : Program Res α → Prop) : Program Res α → Prop where
  | here {body : Program Res α} (arrived : k body) : UpTo p k body
  | op {o : Op} {next : Res o → Program Res α} (holds : p o) (rest : ∀ r, UpTo p k (next r)) :
      UpTo p k (.op o next)
  | fork {child next : Program Res α} (beside : child.All p) (rest : UpTo p k next) :
      UpTo p k (.fork child next)

/-- The call has returned. -/
def isDone : Program Res α → Bool
  | .done _ => true
  | _ => false

/-- The call alone, with the choices in their order. -/
def run (exec : σ → (o : Op) → ε → σ × Res o) (choices : Nat → ε) :
    Nat → Program Res α → σ → σ × α
  | _, .done reply, s => (s, reply)
  | n, .op o next, s =>
    run exec choices (n + 1) (next (exec s o (choices n)).2) (exec s o (choices n)).1
  | n, .fork child next, s => run exec choices n next (run exec choices n child s).1

/-- The call alone: whatever the surroundings choose within `may`, it ends with `post`. -/
def Ensures (exec : σ → (o : Op) → ε → σ × Res o) (may : σ → Op → ε → Bool) :
    Program Res α → (α → σ → Prop) → σ → Prop
  | .done reply, post, s => post reply s
  | .op o next, post, s => ∀ choice, may s o choice = true →
      Ensures exec may (next (exec s o choice).2) post (exec s o choice).1
  | .fork child next, post, s =>
      Ensures exec may child (fun _ s' => Ensures exec may next post s') s

/-- The choices of a run are all within `may`. -/
def meets (exec : σ → (o : Op) → ε → σ × Res o) (may : σ → Op → ε → Bool) (choices : Nat → ε) :
    Nat → Program Res α → σ → Bool
  | _, .done _, _ => true
  | n, .op o next, s =>
    may s o (choices n) && meets exec may choices (n + 1) (next (exec s o (choices n)).2)
      (exec s o (choices n)).1
  | n, .fork child next, s =>
    meets exec may choices n child s &&
      meets exec may choices n next (run exec choices n child s).1

variable {body : Program Res α} {p : Op → Prop} {exec : σ → (o : Op) → ε → σ × Res o}
  {may : σ → Op → ε → Bool} {choices : Nat → ε}

theorem isDone_iff : body.isDone = true ↔ ∃ reply, body = .done reply := by
  cases body with
  | done reply => exact ⟨fun _ => ⟨reply, rfl⟩, fun _ => rfl⟩
  | op o next => exact ⟨fun done => (by cases done), fun ⟨_, same⟩ => (by cases same)⟩
  | fork child next => exact ⟨fun done => (by cases done), fun ⟨_, same⟩ => (by cases same)⟩

theorem All.mono {p q : Op → Prop} (weaker : ∀ o, p o → q o) {body : Program Res α}
    (all : body.All p) : body.All q := by
  induction body with
  | done => trivial
  | op o next ih => exact ⟨weaker o all.1, fun r => ih r (all.2 r)⟩
  | fork child next ihc ihn => exact ⟨ihc all.1, ihn all.2⟩

theorem all_of_forall (always : ∀ o, p o) (body : Program Res α) : body.All p := by
  induction body with
  | done => trivial
  | op o next ih => exact ⟨always o, ih⟩
  | fork child next ihc ihn => exact ⟨ihc, ihn⟩

theorem AllFrom.mono {p q : List (Event Res) → Op → Prop} (weaker : ∀ log o, p log o → q log o)
    {log : List (Event Res)} (all : body.AllFrom p log) : body.AllFrom q log := by
  induction body generalizing log with
  | done => trivial
  | op o next ih => exact ⟨weaker log o all.1, fun r => ih r (all.2 r)⟩
  | fork child next ihc ihn => exact ⟨ihc all.1, ihn all.2⟩

theorem All.allFrom {q : List (Event Res) → Op → Prop} (weaker : ∀ log o, p o → q log o)
    (all : body.All p) (log : List (Event Res)) : body.AllFrom q log := by
  induction body generalizing log with
  | done => trivial
  | op o next ih => exact ⟨weaker log o all.1, fun r => ih r (all.2 r) _⟩
  | fork child next ihc ihn => exact ⟨ihc all.1 _, ihn all.2 _⟩

/-- A relation that every operation of a call keeps holds between the ends of its run. -/
theorem All.run {R : σ → σ → Prop} (refl : ∀ s, R s s) (trans : ∀ s t u, R s t → R t u → R s u)
    (steps : ∀ s o choice, p o → R s (exec s o choice).1) (choices : Nat → ε) (all : body.All p)
    (n : Nat) (s : σ) : R s (body.run exec choices n s).1 := by
  induction body generalizing n s with
  | done => exact refl s
  | op o next ih => exact trans _ _ _ (steps s o (choices n) all.1) (ih _ (all.2 _) _ _)
  | fork child next ihc ihn => exact trans _ _ _ (ihc all.1 n s) (ihn all.2 n _)

theorem Ensures.mono {post post' : α → σ → Prop} (weaker : ∀ reply s, post reply s → post' reply s)
    {s : σ} (ensures : body.Ensures exec may post s) : body.Ensures exec may post' s := by
  induction body generalizing post post' s with
  | done reply => exact weaker reply s ensures
  | op o next ih => exact fun choice allowed => ih _ weaker (ensures choice allowed)
  | fork child next ihc ihn => exact ihc (fun _ _ ensured => ihn weaker ensured) ensures

/-- What a call ensures holds at the end of a run within `may`. -/
theorem Ensures.run {post : α → σ → Prop} {n : Nat} {s : σ} (ensures : body.Ensures exec may post s)
    (within : body.meets exec may choices n s = true) :
    post (body.run exec choices n s).2 (body.run exec choices n s).1 := by
  induction body generalizing post n s with
  | done reply => exact ensures
  | op o next ih =>
    simp only [meets, Bool.and_eq_true] at within
    exact ih _ (ensures (choices n) within.1) within.2
  | fork child next ihc ihn =>
    simp only [meets, Bool.and_eq_true] at within
    exact ihn (ihc ensures within.1) within.2

/-- What every operation keeps is there at the end. -/
theorem All.ensures {I : σ → Prop}
    (keeps : ∀ s o choice, p o → may s o choice = true → I s → I (exec s o choice).1)
    (all : body.All p) {s : σ} (holds : I s) : body.Ensures exec may (fun _ => I) s := by
  induction body generalizing s with
  | done => exact holds
  | op o next ih =>
    exact fun choice allowed => ih _ (all.2 _) (keeps s o choice all.1 allowed holds)
  | fork child next ihc ihn =>
    exact (ihc all.1 holds).mono (fun _ s' kept => ihn all.2 kept)

/-- What every operation keeps is there when the call comes to `k`. -/
theorem UpTo.ensures {I : σ → Prop}
    (keeps : ∀ s o choice, p o → may s o choice = true → I s → I (exec s o choice).1)
    {k : Program Res α → Prop} {post : α → σ → Prop}
    (goOn : ∀ rest s, k rest → I s → rest.Ensures exec may post s) (upTo : body.UpTo p k) {s : σ}
    (holds : I s) : body.Ensures exec may post s := by
  induction upTo generalizing s with
  | here arrived => exact goOn _ s arrived holds
  | op met _ ih => exact fun choice allowed => ih _ (keeps s _ choice met allowed holds)
  | fork beside _ ih => exact (beside.ensures keeps holds).mono (fun _ s' kept => ih kept)

theorem UpTo.all (upTo : body.UpTo p (fun rest => rest.All p)) : body.All p := by
  induction upTo with
  | here arrived => exact arrived
  | op holds _ ih => exact ⟨holds, ih⟩
  | fork beside _ ih => exact ⟨beside, ih⟩

theorem meets_of_forall (exec : σ → (o : Op) → ε → σ × Res o)
    (always : ∀ s o i, may s o (choices i) = true) (body : Program Res α) (n : Nat) (s : σ) :
    body.meets exec may choices n s = true := by
  induction body generalizing n s with
  | done => rfl
  | op o next ih => rw [meets, always, ih, Bool.and_self]
  | fork child next ihc ihn => rw [meets, ihc, ihn, Bool.and_self]

/-- What every move of the automaton tells of the operation holds of all operations. -/
theorem Conforms.all {S : Type} {δ : S → Op → Option S} (gives : ∀ a b o, δ a o = some b → p o)
    {a : S} (conforms : body.Conforms δ a) : body.All p := by
  induction body generalizing a with
  | done => trivial
  | op o next ih =>
    obtain ⟨b, moves, rest⟩ := conforms
    exact ⟨gives a b o moves, fun r => ih r (rest r)⟩
  | fork child next ihc ihn => exact conforms.elim

/-- The same with a fact about the log that the moves keep. -/
theorem Conforms.allFrom {S : Type} {δ : S → Op → Option S} {p : List (Event Res) → Op → Prop}
    {J : S → List (Event Res) → Prop} (gives : ∀ a b o log, δ a o = some b → J a log → p log o)
    (keeps : ∀ a b o log r, δ a o = some b → J a log → J b (⟨o, r⟩ :: log)) {a : S}
    (conforms : body.Conforms δ a) {log : List (Event Res)} (fact : J a log) :
    body.AllFrom p log := by
  induction body generalizing a log with
  | done => trivial
  | op o next ih =>
    obtain ⟨b, moves, rest⟩ := conforms
    exact ⟨gives a b o log moves fact, fun r => ih r (rest r) (keeps a b o log r moves fact)⟩
  | fork child next ihc ihn => exact conforms.elim

end Program

section Interleaving

variable {Op : Type} {Res : Op → Type} {σ α γ ε : Type}
  (exec : σ → (o : Op) → ε → σ × Res o) (body : γ → Program Res α)

/-- A call begins, or one call takes its next operation. -/
def poolStep (s : Pool Res σ α γ) : Move γ ε → Option (Pool Res σ α γ)
  | .start call => some { s with tasks := s.tasks ++ [⟨call, [], body call⟩] }
  | .step i choice =>
    match s.tasks[i]? with
    | some ⟨call, log, .op o next⟩ =>
      let (store, result) := exec s.store o choice
      some ⟨store, s.tasks.set i ⟨call, ⟨o, result⟩ :: log, next result⟩⟩
    | some ⟨call, log, .fork child next⟩ =>
      some { s with tasks := s.tasks.set i ⟨call, log, next⟩ ++ [⟨call, [], child⟩] }
    | _ => none

/-- A discipline that looks at the next operation of the call that moves: what the call has
done so far, and the store before the step. -/
def disciplined (may : γ → List (Event Res) → σ → Op → ε → Bool) (s : Pool Res σ α γ) :
    Move γ ε → Bool
  | .start _ => true
  | .step i choice =>
    match s.tasks[i]? with
    | some ⟨call, log, .op o _⟩ => may call log s.store o choice
    | _ => true

/-- The three shapes of a step. -/
inductive PoolEffect (s : Pool Res σ α γ) : Move γ ε → Pool Res σ α γ → Prop where
  | start (call : γ) :
      PoolEffect s (.start call) { s with tasks := s.tasks ++ [⟨call, [], body call⟩] }
  | op {i call log o next} (choice : ε)
      (current : s.tasks[i]? = some ⟨call, log, .op o next⟩) :
      PoolEffect s (.step i choice) ⟨(exec s.store o choice).1, s.tasks.set i
        ⟨call, ⟨o, (exec s.store o choice).2⟩ :: log, next (exec s.store o choice).2⟩⟩
  | fork {i call log child next} (choice : ε)
      (current : s.tasks[i]? = some ⟨call, log, .fork child next⟩) :
      PoolEffect s (.step i choice)
        { s with tasks := s.tasks.set i ⟨call, log, next⟩ ++ [⟨call, [], child⟩] }

variable {exec body} {s : Pool Res σ α γ}

theorem may_of_disciplined {may : γ → List (Event Res) → σ → Op → ε → Bool} {i : Nat} {choice : ε}
    {call : γ} {log : List (Event Res)} {o : Op} {next : Res o → Program Res α}
    (allowed : disciplined may s (.step i choice) = true)
    (current : s.tasks[i]? = some ⟨call, log, .op o next⟩) :
    may call log s.store o choice = true := by
  simpa only [disciplined, current] using allowed

theorem poolStep_effect {s' : Pool Res σ α γ} {m : Move γ ε}
    (taken : poolStep exec body s m = some s') : PoolEffect exec body s m s' := by
  cases m with
  | start call =>
    cases taken
    exact .start call
  | step i choice =>
    simp only [poolStep] at taken
    split at taken
    next current =>
      cases taken
      exact .op choice current
    next current =>
      cases taken
      exact .fork choice current
    · cases taken

/-- A call with a fact for every operation it may still ask for, and a fact for every result
it has seen. -/
structure Grounded (ahead : γ → List (Event Res) → Op → Prop) (seen : Event Res → σ → Prop)
    (s : σ) (task : Task Res α γ) : Prop where
  rest : task.rest.AllFrom (ahead task.call) task.log
  log : ∀ event ∈ task.log, seen event s

/-- What was seen stays so if no operation undoes it. -/
theorem grounded_of_disciplined {ahead : γ → List (Event Res) → Op → Prop}
    {seen : Event Res → σ → Prop} {init : Pool Res σ α γ → Prop}
    {ok : Pool Res σ α γ → Move γ ε → Prop} (opens : ∀ call, (body call).AllFrom (ahead call) [])
    (fresh : ∀ (s : Pool Res σ α γ) i choice call log o next, ok s (.step i choice) →
      s.tasks[i]? = some ⟨call, log, .op o next⟩ →
      seen ⟨o, (exec s.store o choice).2⟩ (exec s.store o choice).1)
    (stays : ∀ s o choice event, seen event s → seen event (exec s o choice).1)
    (idle : ∀ s, init s → s.tasks = []) (reached : ReachableUnder (poolStep exec body) init ok s) :
    ∀ task ∈ s.tasks, Grounded ahead seen s.store task := by
  refine reached.invariant (I := fun s => ∀ task ∈ s.tasks, Grounded ahead seen s.store task) ?_ ?_
  · intro s initial task member
    rw [idle s initial] at member
    cases member
  · intro s m s' holds allowed taken
    cases poolStep_effect taken with
    | start call => exact forall_mem_snoc holds ⟨opens call, fun _ absent => by cases absent⟩
    | op choice current =>
      intro task member
      rcases List.mem_or_eq_of_mem_set member with old | rfl
      · have before := holds task old
        exact ⟨before.rest, fun event past => stays _ _ choice event (before.log event past)⟩
      · have before := holds _ (List.mem_of_getElem? current)
        refine ⟨before.rest.2 _, fun event past => ?_⟩
        rcases List.mem_cons.mp past with rfl | past
        · exact fresh _ _ _ _ _ _ _ allowed current
        · exact stays _ _ choice event (before.log event past)
    | fork _ current =>
      have before := holds _ (List.mem_of_getElem? current)
      exact forall_mem_snoc (forall_mem_set holds ⟨before.rest.2, before.log⟩)
        ⟨before.rest.1, fun _ absent => by cases absent⟩

end Interleaving

section Rely

variable {Op : Type} {Res : Op → Type} {σ α γ ε : Type}
  (exec : σ → (o : Op) → ε → σ × Res o)
  (rely : σ → σ → Prop) (may : γ → List (Event Res) → σ → (o : Op) → ε → Prop)
  (post : γ → α → List (Event Res) → σ → Prop)

/-- From the store on, whatever happens within the rely relation, every operation of the
call that meets `may` stays within it too, and the reply comes with `post`. -/
def Within (call : γ) : Program Res α → List (Event Res) → σ → Prop
  | .done reply, log, s => post call reply log s
  | .op o next, log, s => ∀ s₁ choice, rely s s₁ → may call log s₁ o choice →
      rely s₁ (exec s₁ o choice).1 ∧
      Within call (next (exec s₁ o choice).2) (⟨o, (exec s₁ o choice).2⟩ :: log)
        (exec s₁ o choice).1
  | .fork child next, log, s => Within call child [] s ∧ Within call next log s

variable {exec rely may post} {p : Program Res α} {log : List (Event Res)} {call : γ}

/-- Operations that stay within the relation wherever they are allowed need no look at the
results. -/
theorem within_of_allFrom (all : p.AllFrom (fun log o => ∀ s choice, may call log s o choice →
      rely s (exec s o choice).1) log) (ends : ∀ reply log s, post call reply log s) (s : σ) :
    Within exec rely may post call p log s := by
  induction p generalizing log s with
  | done reply => exact ends reply log s
  | op o next ih =>
    intro s₁ choice _ allowed
    exact ⟨all.1 s₁ choice allowed, ih _ (all.2 _) _⟩
  | fork child next ihc ihn => exact ⟨ihc all.1 s, ihn all.2 s⟩

theorem within_of_all
    (all : p.All (fun o => ∀ log s choice, may call log s o choice → rely s (exec s o choice).1))
    (ends : ∀ reply log s, post call reply log s) (log : List (Event Res)) (s : σ) :
    Within exec rely may post call p log s :=
  within_of_allFrom (all.allFrom (fun log _ stays => stays log) log) ends s

/-- A fact that the relation keeps is there at every operation. -/
theorem Within.given {K : σ → Prop} (stable : ∀ s t, rely s t → K s → K t) {s : σ} (fact : K s)
    (within : Within exec rely (fun call log s o choice => may call log s o choice ∧ K s) post
      call p log s) : Within exec rely may post call p log s := by
  induction p generalizing log s with
  | done reply => exact within
  | op o next ih =>
    intro s₁ choice moved allowed
    have fact₁ := stable s s₁ moved fact
    obtain ⟨stays, rest⟩ := within s₁ choice moved ⟨allowed, fact₁⟩
    exact ⟨stays, ih _ (stable _ _ stays fact₁) rest⟩
  | fork child next ihc ihn => exact ⟨ihc fact within.1, ihn fact within.2⟩

/-- What others do within the relation takes nothing away. -/
theorem Within.stable (trans : ∀ s t u, rely s t → rely t u → rely s u)
    (settled : ∀ call reply log s t, post call reply log s → rely s t → post call reply log t)
    {s t : σ} (within : Within exec rely may post call p log s)
    (moved : rely s t) : Within exec rely may post call p log t := by
  induction p generalizing log with
  | done reply => exact settled call reply log s t within moved
  | op o next =>
    intro s₁ choice later allowed
    exact within s₁ choice (trans s t s₁ moved later) allowed
  | fork child next ihc ihn => exact ⟨ihc within.1, ihn within.2⟩

section Rules

variable {body : γ → Program Res α} {init : Pool Res σ α γ → Prop}
  {ok : Pool Res σ α γ → Move γ ε → Prop} {I : σ → Prop}

variable (exec rely may post I) in
/-- All calls of the pool are within the relation, and the store is as it should be. -/
structure Covered (s : Pool Res σ α γ) : Prop where
  store : I s.store
  tasks : ∀ task ∈ s.tasks, Within exec rely may post task.call task.rest task.log s.store

/-- What the calls owe: a call is within the relation when it begins, and a step the
discipline lets through meets `may`. -/
structure Obligations (exec : σ → (o : Op) → ε → σ × Res o) (body : γ → Program Res α)
    (rely : σ → σ → Prop) (may : γ → List (Event Res) → σ → (o : Op) → ε → Prop)
    (post : γ → α → List (Event Res) → σ → Prop) (I : σ → Prop)
    (ok : Pool Res σ α γ → Move γ ε → Prop) : Prop where
  refl : ∀ s, rely s s
  trans : ∀ s t u, rely s t → rely t u → rely s u
  settled : ∀ call reply log s t, post call reply log s → rely s t → post call reply log t
  keeps : ∀ s t, rely s t → I s → I t
  opens : ∀ (s : Pool Res σ α γ) call, I s.store → ok s (.start call) →
    Within exec rely may post call (body call) [] s.store
  meets : ∀ (s : Pool Res σ α γ) i choice call log o next, ok s (.step i choice) →
    s.tasks[i]? = some ⟨call, log, .op o next⟩ → may call log s.store o choice

variable (owed : Obligations exec body rely may post I ok)
include owed

variable {s s' : Pool Res σ α γ}

/-- A disciplined step stays within the relation. -/
theorem Covered.rely_step {m : Move γ ε} (covered : Covered exec rely may post I s)
    (allowed : ok s m) (taken : poolStep exec body s m = some s') : rely s.store s'.store := by
  cases poolStep_effect taken with
  | start | fork => exact owed.refl _
  | op choice current =>
    have within := covered.tasks _ (List.mem_of_getElem? current)
    exact (within s.store choice (owed.refl _) (owed.meets _ _ _ _ _ _ _ allowed current)).1

theorem Covered.step {m : Move γ ε} (covered : Covered exec rely may post I s) (allowed : ok s m)
    (taken : poolStep exec body s m = some s') : Covered exec rely may post I s' := by
  have moved := covered.rely_step owed allowed taken
  refine ⟨owed.keeps _ _ moved covered.store, ?_⟩
  cases poolStep_effect taken with
  | start call => exact forall_mem_snoc covered.tasks (owed.opens s call covered.store allowed)
  | op choice current =>
    have within := covered.tasks _ (List.mem_of_getElem? current)
    refine forall_mem_set (fun task old => ?_) (within s.store choice (owed.refl _)
      (owed.meets _ _ _ _ _ _ _ allowed current)).2
    exact (covered.tasks task old).stable owed.trans owed.settled moved
  | fork _ current =>
    have within := covered.tasks _ (List.mem_of_getElem? current)
    exact forall_mem_snoc (forall_mem_set covered.tasks within.2) within.1

/-- The rule: from a good store and with no call under way every state of a disciplined run
is covered. -/
theorem covered_of_reachable (idle : ∀ s, init s → s.tasks = []) (good : ∀ s, init s → I s.store)
    (reached : ReachableUnder (poolStep exec body) init ok s) : Covered exec rely may post I s := by
  refine reached.invariant ?_ ?_
  · intro s initial
    refine ⟨good s initial, fun task member => ?_⟩
    rw [idle s initial] at member
    cases member
  · intro s m s' covered allowed taken
    exact covered.step owed allowed taken

/-- Along a disciplined run the store moves within the relation. -/
theorem Covered.rely_later (covered : Covered exec rely may post I s)
    (run : Later (poolStep exec body) ok s s') :
    Covered exec rely may post I s' ∧ rely s.store s'.store := by
  induction run with
  | refl => exact ⟨covered, owed.refl _⟩
  | next _ allowed taken ih =>
    exact ⟨ih.1.step owed allowed taken,
      owed.trans _ _ _ ih.2 (ih.1.rely_step owed allowed taken)⟩

/-- One call of the run may be followed to its reply with a promise of its own. -/
theorem Covered.task_later {promise : γ → α → List (Event Res) → σ → Prop}
    (settled : ∀ call reply log s t, promise call reply log s → rely s t → promise call reply log t)
    (covered : Covered exec rely may post I s) (run : Later (poolStep exec body) ok s s') {i : Nat}
    {task : Task Res α γ} (found : s.tasks[i]? = some task)
    (within : Within exec rely may promise task.call task.rest task.log s.store) :
    ∃ task', s'.tasks[i]? = some task' ∧ task'.call = task.call ∧
      Within exec rely may promise task'.call task'.rest task'.log s'.store := by
  induction run with
  | refl => exact ⟨task, found, rfl, within⟩
  | @next m s' move before allowed taken ih =>
    obtain ⟨task', found', same, within'⟩ := ih
    have there := (covered.rely_later owed before).1
    have moved := there.rely_step owed allowed taken
    have kept := within'.stable owed.trans settled moved
    cases poolStep_effect taken with
    | start call => exact ⟨task', getElem?_snoc found', same, kept⟩
    | op choice current =>
      rcases getElem?_set_or _ current found' with stays | ⟨-, rfl, moves⟩
      · exact ⟨task', stays, same, kept⟩
      · refine ⟨_, moves, same, ?_⟩
        exact (within' m.store choice (owed.refl _) (owed.meets _ _ _ _ _ _ _ allowed current)).2
    | fork _ current =>
      rcases getElem?_set_or _ current found' with stays | ⟨-, rfl, moves⟩
      · exact ⟨task', getElem?_snoc stays, same, kept⟩
      · exact ⟨_, getElem?_snoc moves, same, within'.2⟩

end Rules

end Rely

end Certctl.Lib

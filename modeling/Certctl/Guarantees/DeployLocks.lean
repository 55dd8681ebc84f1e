import Certctl.Lib.LockOrder
import Certctl.Source.Deploy.Locks

/-!
The lock discipline of the deploy package, for any number of calls and every
interleaving. A mutex has at most one holder, so two calls never have a destination
locked at once; each call asks for paths above those it has, so no cycle of waiting calls
closes; and from every state reached, the calls under way can all run to their end.
-/
namespace Certctl.Guarantees.DeployLocks

open Lib Source.Deploy

/-- Who has the mutex of a path locked. -/
def holderOf (s : LockSys) (p : String) : Option Nat := (s.mutexes.get? p).bind Mutex.holder

/-- A call waits for another: it asks for a path the other has locked. -/
def Waits (s : LockSys) (c d : Nat) : Prop :=
  ∃ a b p, s.calls[c]? = some a ∧ a.next = some p ∧ s.calls[d]? = some b ∧ p ∈ b.held

def AllReturned (s : LockSys) : Prop := ∀ call ∈ s.calls, call.stage = .returned

/-- A step of a call under way. -/
def ofRunningCall : LockAction → Bool
  | .call _ => false
  | _ => true

/-- Stages stay within the paths of the call, and the mutex a call has loaded is there. -/
def StageSound (s : LockSys) (call : DeployCall) : Prop :=
  match call.stage with
  | .locking taken false => taken ≤ call.paths.length
  | .locking taken true => ∃ p, call.paths[taken]? = some p ∧ (s.mutexes.get? p).isSome = true
  | .unlocking left => left ≤ call.paths.length
  | _ => True

structure Sound (s : LockSys) : Prop where
  sorted : ∀ (c : Nat) (call : DeployCall), s.calls[c]? = some call → call.paths.Pairwise (· < ·)
  stages : ∀ (c : Nat) (call : DeployCall), s.calls[c]? = some call → StageSound s call
  holders : ∀ (p : String) (c : Nat),
    holderOf s p = some c ↔ ∃ call, s.calls[c]? = some call ∧ p ∈ call.held

section Steps

variable {workingDir : Except String String} {s s' : LockSys} {a : LockAction}

/-- A mutex once stored stays. -/
def Grown (s : LockSys) (mutexes : Table Mutex.path) : Prop :=
  ∀ p, (s.mutexes.get? p).isSome = true → (mutexes.get? p).isSome = true

theorem Sound.held_iff {c : Nat} {call : DeployCall} (sound : Sound s)
    (current : s.calls[c]? = some call) (p : String) : holderOf s p = some c ↔ p ∈ call.held := by
  rw [sound.holders]
  constructor
  · rintro ⟨other, found, member⟩
    rw [current] at found
    cases found
    exact member
  · intro member
    exact ⟨call, current, member⟩

theorem grown_insertOrIgnore (m : Mutex) : Grown s (s.mutexes.insertOrIgnore m) := by
  intro p present
  rw [Table.get?_insertOrIgnore]
  split
  · rfl
  · exact present

theorem grown_upsert (m : Mutex) : Grown s (s.mutexes.upsert m) := by
  intro p present
  rw [Table.get?_upsert]
  split
  · rfl
  · exact present

variable {call : DeployCall} {mutexes : Table Mutex.path} {stage : Stage} {c : Nat} {p : String}

theorem holderOf_upsert (m : Mutex) (p : String) :
    holderOf (s.move c call stage (s.mutexes.upsert m)) p =
      if p = m.path then m.holder else holderOf s p := by
  simp only [holderOf, LockSys.move, Table.get?_upsert]
  split <;> rfl

section

variable (sound : Sound s) (current : s.calls[c]? = some call) (grown : Grown s mutexes)
  (own : StageSound (s.move c call stage mutexes) { call with stage := stage })

include sound current grown own

/-- What is left to show when one call moves on: its own stage, and that exactly its own
locks changed hands. -/
theorem sound_move (mine : ∀ p, holderOf (s.move c call stage mutexes) p = some c ↔
      p ∈ ({ call with stage := stage } : DeployCall).held)
    (others : ∀ p d, d ≠ c → (holderOf (s.move c call stage mutexes) p = some d ↔
      holderOf s p = some d)) : Sound (s.move c call stage mutexes) where
  sorted := by
    intro i entry found
    rcases getElem?_set_cases found with ⟨_, rfl⟩ | ⟨_, stayed⟩
    · exact sound.sorted c call current
    · exact sound.sorted i entry stayed
  stages := by
    intro i entry found
    rcases getElem?_set_cases found with ⟨_, rfl⟩ | ⟨_, stayed⟩
    · exact own
    · have before := sound.stages i entry stayed
      unfold StageSound at before ⊢
      split
      next kind =>
        rw [kind] at before
        exact before
      next kind =>
        rw [kind] at before
        obtain ⟨p, wanted, present⟩ := before
        exact ⟨p, wanted, grown p present⟩
      next kind =>
        rw [kind] at before
        exact before
      · trivial
  holders := by
    intro p d
    by_cases same : d = c
    · subst same
      rw [mine]
      have inside := (List.getElem?_eq_some_iff.mp current).1
      simp [LockSys.move, inside]
    · rw [others p d same, sound.holders]
      simp [LockSys.move, Ne.symm same]

theorem sound_keep (same : ∀ p, holderOf (s.move c call stage mutexes) p = holderOf s p)
    (held : ({ call with stage := stage } : DeployCall).held = call.held) :
    Sound (s.move c call stage mutexes) := by
  refine sound_move sound current grown own (fun p => ?_) (fun p d _ => by rw [same])
  rw [same, sound.held_iff current, held]

end

theorem called_sound {entry : Entry} (sound : Sound s) :
    Sound { s with calls := s.calls ++ [newCall workingDir entry] } where
  sorted := by
    intro c call found
    rcases getElem?_append_cases found with old | ⟨_, rfl⟩
    · exact sound.sorted c call old
    · unfold newCall
      split
      · exact List.Pairwise.nil
      next paths locks => exact (lockPaths_spec locks).1
  stages := by
    intro c call found
    rcases getElem?_append_cases found with old | ⟨_, rfl⟩
    · exact sound.stages c call old
    · unfold newCall
      split
      · trivial
      · exact Nat.zero_le _
  holders := by
    intro p c
    have idle : (newCall workingDir entry).held = [] := by
      unfold newCall
      split <;> rfl
    change holderOf s p = some c ↔ _
    rw [sound.holders]
    constructor
    · rintro ⟨call, found, member⟩
      exact ⟨call, getElem?_snoc found, member⟩
    · rintro ⟨call, found, member⟩
      rcases getElem?_append_cases found with old | ⟨_, rfl⟩
      · exact ⟨call, old, member⟩
      · rw [idle] at member
        cases member

theorem locked_sound {taken : Nat} (sound : Sound s) (current : s.calls[c]? = some call)
    (stage : call.stage = .locking taken true) (wanted : call.paths[taken]? = some p)
    (free : s.mutexes.get? p = some ⟨p, none⟩) :
    Sound (s.move c call (.locking (taken + 1) false) (s.mutexes.upsert ⟨p, some c⟩)) := by
  have unlocked : holderOf s p = none := by
    simp [holderOf, free]
  obtain ⟨inside, isP⟩ := List.getElem?_eq_some_iff.mp wanted
  refine sound_move sound current (grown_upsert _) inside (fun q => ?_) (fun q d other => ?_)
  · have own := sound.held_iff current q
    simp only [DeployCall.held, stage] at own
    rw [holderOf_upsert]
    simp only [DeployCall.held, List.take_succ_eq_append_getElem inside, isP, List.mem_append,
      List.mem_singleton]
    rw [← own]
    split
    next same => simp [same]
    next different => simp [different]
  · rw [holderOf_upsert]
    split
    next same =>
      rw [same, unlocked]
      simp [Ne.symm other]
    · rfl

theorem unlocked_sound {left : Nat} (sound : Sound s) (current : s.calls[c]? = some call)
    (stage : call.stage = .unlocking (left + 1)) (given : call.paths[left]? = some p) :
    Sound (s.move c call (.unlocking left) (s.mutexes.upsert ⟨p, none⟩)) := by
  obtain ⟨inside, isP⟩ := List.getElem?_eq_some_iff.mp given
  have heldBefore : call.held = call.paths.take left ++ [p] := by
    simp only [DeployCall.held, stage, List.take_succ_eq_append_getElem inside, isP]
  have own := sound.held_iff current
  rw [heldBefore] at own
  have distinct : p ∉ call.paths.take left := by
    have nodup := (sound.sorted c call current).sublist
      (List.take_sublist (left + 1) call.paths)
    rw [List.take_succ_eq_append_getElem inside, isP] at nodup
    intro again
    exact lt_irrefl p ((List.pairwise_append.mp nodup).2.2 p again p (List.mem_singleton.mpr rfl))
  refine sound_move sound current (grown_upsert _) (Nat.le_of_lt inside) (fun q => ?_)
    (fun q d other => ?_)
  · rw [holderOf_upsert]
    simp only [DeployCall.held]
    split
    next same =>
      subst same
      simp [distinct]
    next different =>
      rw [own]
      simp [different]
  · rw [holderOf_upsert]
    split
    next same =>
      have mine : holderOf s p = some c := (own p).mpr (by simp)
      rw [same, mine]
      simp [Ne.symm other]
    · rfl

theorem step_sound (sound : Sound s) (effect : LockSys.Effect workingDir s a s') : Sound s' := by
  cases effect with
  | called => exact called_sound sound
  | @loaded c taken call p current stage wanted =>
    refine sound_keep sound current (grown_insertOrIgnore _) ⟨p, wanted, ?_⟩ (fun q => ?_) ?_
    · simp [LockSys.move, Table.get?_insertOrIgnore]
    · simp only [holderOf, LockSys.move, Table.get?_insertOrIgnore]
      split
      · cases s.mutexes.get? q <;> rfl
      · rfl
    · simp [DeployCall.held, stage]
  | locked current stage wanted free => exact locked_sound sound current stage wanted free
  | entered current stage | worked current stage | returned current stage =>
    refine sound_keep sound current (fun _ present => present) trivial (fun _ => rfl) ?_
    simp [DeployCall.held, stage]
  | left current stage =>
    refine sound_keep sound current (fun _ present => present) (Nat.le_refl _) (fun _ => rfl) ?_
    simp [DeployCall.held, stage]
  | unlocked current stage given => exact unlocked_sound sound current stage given

/-- The locks of a call under way are those of its destinations. -/
def Linked (workingDir : Except String String) (s : LockSys) : Prop :=
  ∀ call ∈ s.calls, call.stage ≠ .returned →
    ∀ p, p ∈ call.paths ↔ p ∈ destinations workingDir call.entry

theorem linked_step (linked : Linked workingDir s) (effect : LockSys.Effect workingDir s a s') :
    Linked workingDir s' := by
  cases effect with
  | called =>
    refine forall_mem_snoc linked fun busy => ?_
    unfold newCall at busy ⊢
    split
    next none =>
      simp [none] at busy
    next paths locks => exact (lockPaths_spec locks).2
  | loaded current stage _ | locked current stage _ _ | entered current stage
  | worked current stage | left current stage | unlocked current stage _ | returned current stage =>
    have before := linked _ (List.mem_of_getElem? current) (by simp [stage])
    exact forall_mem_set linked fun _ => before

theorem initial_sound (initial : LockSys.Initial s) : Sound s := by
  obtain ⟨mutexes, calls⟩ := initial
  constructor
  case sorted | stages =>
    intro c call found
    rw [calls] at found
    cases found
  case holders =>
    intro p c
    simp [holderOf, mutexes, calls]

end Steps

section Waiting

variable {workingDir : Except String String} {s : LockSys}

/-- The calls as clients that take locks. -/
def lockView (s : LockSys) : LockView Nat String where
  held c := {p | ∃ call, s.calls[c]? = some call ∧ p ∈ call.held}
  next c := (s.calls[c]?).bind DeployCall.next

theorem lockView_waits {c d : Nat} : (lockView s).Waits c d ↔ Waits s c d := by
  constructor
  · rintro ⟨p, asked, b, found, member⟩
    obtain ⟨a, current, next⟩ := Option.bind_eq_some_iff.mp asked
    exact ⟨a, b, p, current, next, found, member⟩
  · rintro ⟨a, b, p, current, next, found, member⟩
    exact ⟨p, Option.bind_eq_some_iff.mpr ⟨a, current, next⟩, b, found, member⟩

/-- What a call asks for lies above what it has. -/
theorem lockView_ordered (sound : Sound s) : (lockView s).Ordered := by
  rintro c k asked j ⟨call, current, member⟩
  obtain ⟨call', current', next⟩ := Option.bind_eq_some_iff.mp asked
  rw [current] at current'
  cases current'
  unfold DeployCall.next at next
  unfold DeployCall.held at member
  split at next
  next taken loaded stage =>
    simp only [stage] at member
    obtain ⟨inside, rfl⟩ := List.getElem?_eq_some_iff.mp next
    obtain ⟨i, below, rfl⟩ := List.mem_take_iff_getElem.mp member
    exact List.pairwise_iff_getElem.mp (sound.sorted c call current) i taken _ inside (by omega)
  · cases next

theorem waits_acyclic (sound : Sound s) (c : Nat) : ¬ Relation.TransGen (Waits s) c c := by
  intro cycle
  refine LockView.waits_acyclic (lockView_ordered sound) c ?_
  exact Relation.TransGen.mono (fun _ _ waits => lockView_waits.mpr waits) c c cycle

/-- Steps a call still has to take when its work is cut short. -/
def remaining (call : DeployCall) : Nat :=
  match call.stage with
  | .locking taken false => 2 * (call.paths.length - taken) + call.paths.length + 3
  | .locking taken true => 2 * (call.paths.length - taken) + call.paths.length + 2
  | .working left => left + call.paths.length + 2
  | .unlocking left => left + 1
  | .returned => 0

def totalRemaining (s : LockSys) : Nat := (s.calls.map remaining).sum

/-- A call that nobody keeps waiting can take a step that brings it closer to its end. -/
theorem exists_step_of_unblocked (workingDir : Except String String) {c : Nat} {call : DeployCall}
    (sound : Sound s) (current : s.calls[c]? = some call) (unfinished : call.stage ≠ .returned)
    (free : ∀ d, ¬ Waits s c d) :
    ∃ a stage mutexes, ofRunningCall a = true ∧
      s.step workingDir a = some (s.move c call stage mutexes) ∧
      remaining { call with stage := stage } < remaining call := by
  have fits := sound.stages c call current
  unfold StageSound at fits
  cases stage : call.stage with
  | returned => exact absurd stage unfinished
  | locking taken loaded =>
    cases loaded with
    | false =>
      simp only [stage] at fits
      by_cases all : taken = call.paths.length
      · refine ⟨.enter c 0, .working 0, s.mutexes, rfl, ?_, ?_⟩
        · simp [LockSys.step, current, stage, all]
        · simp only [remaining, stage]
          omega
      · have inside : taken < call.paths.length := by omega
        refine ⟨.loadOrStore c, .locking taken true,
          s.mutexes.insertOrIgnore ⟨call.paths[taken], none⟩, rfl, ?_, ?_⟩
        · simp [LockSys.step, current, stage, List.getElem?_eq_getElem inside]
        · simp only [remaining, stage]
          omega
    | true =>
      simp only [stage] at fits
      obtain ⟨p, wanted, present⟩ := fits
      obtain ⟨m, found⟩ := Option.isSome_iff_exists.mp present
      have unheld : m.holder = none := by
        cases holder : m.holder with
        | none => rfl
        | some d =>
          have held : holderOf s p = some d := by simp [holderOf, found, holder]
          obtain ⟨b, found', member⟩ := (sound.holders p d).mp held
          refine absurd ?_ (free d)
          exact ⟨call, b, p, current, by simp [DeployCall.next, stage, wanted], found', member⟩
      have isFree : s.mutexes.get? p = some ⟨p, none⟩ := by
        have path : m.path = p := Table.get?_key found
        rw [found, ← path, ← unheld]
      have inside := (List.getElem?_eq_some_iff.mp wanted).1
      refine ⟨.lock c, .locking (taken + 1) false, s.mutexes.upsert ⟨p, some c⟩, rfl, ?_, ?_⟩
      · simp [LockSys.step, current, stage, wanted, isFree]
      · simp only [remaining, stage]
        omega
  | working left =>
    cases left with
    | zero =>
      refine ⟨.leave c, .unlocking call.paths.length, s.mutexes, rfl, ?_, ?_⟩
      · simp [LockSys.step, current, stage]
      · simp only [remaining, stage]
        omega
    | succ left =>
      refine ⟨.work c, .working left, s.mutexes, rfl, ?_, ?_⟩
      · simp [LockSys.step, current, stage]
      · simp only [remaining, stage]
        omega
  | unlocking left =>
    simp only [stage] at fits
    cases left with
    | zero =>
      refine ⟨.finish c, .returned, s.mutexes, rfl, ?_, ?_⟩
      · simp [LockSys.step, current, stage]
      · simp only [remaining, stage]
        omega
    | succ left =>
      refine ⟨.unlock c, .unlocking left, s.mutexes.upsert ⟨call.paths[left], none⟩, rfl, ?_, ?_⟩
      · simp [LockSys.step, current, stage, List.getElem?_eq_getElem fits]
      · simp only [remaining, stage]
        omega

/-- The call at a place is under way. -/
def running (s : LockSys) (c : Nat) : Bool :=
  (s.calls[c]?).any (fun call => decide (call.stage ≠ .returned))

theorem running_iff {c : Nat} :
    running s c = true ↔ ∃ call, s.calls[c]? = some call ∧ call.stage ≠ .returned := by
  unfold running
  cases s.calls[c]? <;> simp

/-- Some call under way is not kept waiting. -/
theorem exists_unblocked (sound : Sound s) (unfinished : ¬ AllReturned s) :
    ∃ (c : Nat) (call : DeployCall), s.calls[c]? = some call ∧ call.stage ≠ .returned ∧
      ∀ d, ¬ Waits s c d := by
  let active := (Finset.range s.calls.length).filter (fun c => running s c = true)
  have active_iff : ∀ c, c ∈ active ↔ running s c = true := by
    intro c
    simp only [active, Finset.mem_filter, Finset.mem_range, and_iff_right_iff_imp]
    intro busy
    obtain ⟨call, current, _⟩ := running_iff.mp busy
    exact (List.getElem?_eq_some_iff.mp current).1
  have nonempty : active.Nonempty := by
    unfold AllReturned at unfinished
    push Not at unfinished
    obtain ⟨call, member, busy⟩ := unfinished
    obtain ⟨c, current⟩ := List.mem_iff_getElem?.mp member
    exact ⟨c, (active_iff c).mpr (running_iff.mpr ⟨call, current, busy⟩)⟩
  have closed : ∀ c ∈ active, ∀ d, (lockView s).Waits c d → d ∈ active := by
    intro c _ d waits
    obtain ⟨_, b, p, _, _, found, member⟩ := lockView_waits.mp waits
    refine (active_iff d).mpr (running_iff.mpr ⟨b, found, fun idle => ?_⟩)
    simp [DeployCall.held, idle] at member
  obtain ⟨c, member, free⟩ :=
    LockView.exists_unblocked (lockView_ordered sound) active nonempty closed
  obtain ⟨call, current, busy⟩ := running_iff.mp ((active_iff c).mp member)
  exact ⟨c, call, current, busy, fun d waits => free d (lockView_waits.mpr waits)⟩

theorem exists_completion (sound : Sound s) :
    ∃ s', Later (LockSys.step workingDir) (fun _ a => ofRunningCall a = true) s s' ∧
      s'.calls.length = s.calls.length ∧ AllReturned s' := by
  have progress : ∀ m, (Sound m ∧ m.calls.length = s.calls.length) → ¬ AllReturned m →
      ∃ a m', ofRunningCall a = true ∧ m.step workingDir a = some m' ∧
        (Sound m' ∧ m'.calls.length = s.calls.length) ∧ totalRemaining m' < totalRemaining m := by
    rintro m ⟨known, sameCalls⟩ busy
    obtain ⟨c, call, current, unfinished, free⟩ := exists_unblocked known busy
    obtain ⟨a, stage, mutexes, running, taken, fewer⟩ :=
      exists_step_of_unblocked workingDir known current unfinished free
    have total := sum_set_add remaining { call with stage := stage } current
    refine ⟨a, _, running, taken, ⟨step_sound known (LockSys.step_effect taken), ?_⟩, ?_⟩
    · rw [← sameCalls]
      simp [LockSys.move]
    · unfold totalRemaining LockSys.move
      simp only
      omega
  obtain ⟨s', run, ⟨_, sameCalls⟩, done⟩ :=
    exists_later_of_progress totalRemaining progress ⟨sound, rfl⟩
  exact ⟨s', run, sameCalls, done⟩

end Waiting

theorem sound_of_reachable {workingDir : Except String String} {s : LockSys}
    (reached : Reachable (LockSys.step workingDir) LockSys.Initial s) : Sound s :=
  reached.invariant (fun _ initial => initial_sound initial)
    (fun _ _ _ sound _ taken => step_sound sound (LockSys.step_effect taken))

theorem lock_discipline (workingDir : Except String String) {s : LockSys}
    (reached : Reachable (LockSys.step workingDir) LockSys.Initial s) :
    (∀ call ∈ s.calls, ∀ left, call.stage = .working left →
      ∀ p, p ∈ call.held ↔ p ∈ destinations workingDir call.entry) ∧
    (∀ (c d : Nat) (a b : DeployCall) (p : String), c ≠ d → s.calls[c]? = some a →
      s.calls[d]? = some b → p ∈ a.held → p ∉ b.held) ∧
    (∀ c, ¬ Relation.TransGen (Waits s) c c) ∧
    ∃ s', Later (LockSys.step workingDir) (fun _ a => ofRunningCall a = true) s s' ∧
      s'.calls.length = s.calls.length ∧ AllReturned s' := by
  have sound := sound_of_reachable reached
  have linked : Linked workingDir s := by
    refine reached.invariant (fun s initial call member => ?_)
      (fun _ _ _ linked _ taken => linked_step linked (LockSys.step_effect taken))
    rw [initial.2] at member
    cases member
  refine ⟨?_, ?_, waits_acyclic sound, exists_completion sound⟩
  · intro call member left stage p
    simpa [DeployCall.held, stage] using linked call member (by simp [stage]) p
  intro c d a b p distinct first second mine theirs
  have isC := (sound.holders p c).mpr ⟨a, first, mine⟩
  have isD := (sound.holders p d).mpr ⟨b, second, theirs⟩
  rw [isC] at isD
  exact distinct (Option.some.inj isD)

/-- A plan that writes the given paths and runs no hook. -/
def samplePlan (paths : List String) : Plan where
  files := paths.map (fun p => ⟨p, [], 0, "", ""⟩)
  defaults := ⟨0, "", ""⟩
  preCommit := false
  postCommit := false
  backupRetention := 0
  skipIdempotent := false

/-- Two plans over the same paths in opposite order and a write to one of them, named
differently; the first has both locks, the others wait. -/
def overlappingRun : List LockAction :=
  [.call (.apply (samplePlan ["/b", "/a"])), .call (.apply (samplePlan ["/a", "/b"])),
    .call (.atomicWriteFile "/x/../a"), .loadOrStore 0, .lock 0, .loadOrStore 1, .loadOrStore 2,
    .loadOrStore 0, .lock 0, .enter 0 1]

theorem noCalls_initial : LockSys.Initial ⟨.empty _, []⟩ := ⟨rfl, rfl⟩

theorem lock_discipline_overlappingRun :
    ∃ s, Reachable (LockSys.step (.ok "/")) LockSys.Initial s ∧
      s.calls.map (fun call => (call.held, call.next)) =
        [(["/a", "/b"], none), ([], some "/a"), ([], some "/a")] ∧
      (∀ call ∈ s.calls, ∀ left, call.stage = .working left →
        ∀ p, p ∈ call.held ↔ p ∈ destinations (.ok "/") call.entry) ∧
      (∀ (c d : Nat) (a b : DeployCall) (p : String), c ≠ d → s.calls[c]? = some a →
        s.calls[d]? = some b → p ∈ a.held → p ∉ b.held) ∧
      (∀ c, ¬ Relation.TransGen (Waits s) c c) ∧
      ∃ s', Later (LockSys.step (.ok "/")) (fun _ a => ofRunningCall a = true) s s' ∧
        s'.calls.length = s.calls.length ∧ AllReturned s' := by
  obtain ⟨s, reached, shown⟩ := exists_reached_of_replay (LockSys.step (.ok "/"))
    noCalls_initial overlappingRun
    (fun s => s.calls.map (fun call => (call.held, call.next)) =
      [(["/a", "/b"], none), ([], some "/a"), ([], some "/a")]) (by decide +kernel)
  exact ⟨s, reached, shown, lock_discipline (.ok "/") reached⟩

/-- No lock outlives the calls. -/
theorem holderOf_of_allReturned {workingDir : Except String String} {s : LockSys}
    (reached : Reachable (LockSys.step workingDir) LockSys.Initial s) (done : AllReturned s)
    (p : String) : holderOf s p = none := by
  by_contra locked
  obtain ⟨c, holds⟩ := Option.ne_none_iff_exists'.mp locked
  obtain ⟨call, found, member⟩ := ((sound_of_reachable reached).holders p c).mp holds
  simp [DeployCall.held, done call (List.mem_of_getElem? found)] at member

theorem holderOf_oneWrite : ∃ s : LockSys, s.mutexes.rows ≠ [] ∧ ∀ p, holderOf s p = none := by
  obtain ⟨s, reached, stored, done⟩ := exists_reached_of_replay (LockSys.step (.ok "/"))
    noCalls_initial [.call (.atomicWriteFile "/a"), .loadOrStore 0, .lock 0, .enter 0 0, .leave 0,
      .unlock 0, .finish 0]
    (fun s => s.mutexes.rows ≠ [] ∧ ∀ call ∈ s.calls, call.stage = .returned) (by decide +kernel)
  exact ⟨s, stored, holderOf_of_allReturned reached done⟩

end Certctl.Guarantees.DeployLocks

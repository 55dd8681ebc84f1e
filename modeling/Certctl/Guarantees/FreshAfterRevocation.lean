import Certctl.Guarantees.RevocationAnswers
import Certctl.Source.ResponseCache

/-!
OCSP answers after a revocation. The invalidation deletes the cached response, but a
regeneration that read the revocation table before the commit may still be in flight:
it stores its response behind the delete, and later requests join it. When the row is
stored and no such regeneration is in flight at the delete, every `Get` that starts
after the revocation returned is answered from a state with the revocation row.
-/
namespace Certctl.Guarantees.FreshAfterRevocation

open Lib Source Source.ResponseCache
open RevocationAnswers (wiredServices webDatabase webRevocation)

/-- The signer of the response saw a revocation of the key. -/
def Sees (key : Key) (response : Response) : Prop := ∃ rev, response.basis.get? key = some rev

/-- Every late `Get` that is answered is answered from a state with the row. -/
def FreshAnswers (s : Sys) : Prop :=
  ∀ key response, .done key true (some response) ∈ s.calls → Sees key response

def unseen (key : Key) (response : Response) : Bool := (response.basis.get? key).isNone

/-- A regeneration in flight under the key's flight that read the table too early. -/
def staleFlight (key : Key) : Call → Bool
  | .signed k _ response => decide (flightKey k = flightKey key) && unseen key response
  | .closing k _ (some response) => decide (flightKey k = flightKey key) && unseen key response
  | .unregistering k _ (some response) =>
    decide (flightKey k = flightKey key) && unseen key response
  | _ => false

/-- At the delete of an invalidation the row is stored, and no regeneration in flight
for the key has read the table before it was. -/
def settledDelete (s : Sys) : Action → Bool
  | .invalidate c false => (s.calls[c]?).all (fun call => match call with
      | .revokeCommitted key => (s.revocations.get? key).isSome &&
          s.calls.all (fun other => !staleFlight key other)
      | _ => true)
  | _ => true

variable {s s' : Sys} {a : Action} {key : Key} {response : Response}

theorem sees_of_seen (seen : unseen key response = false) :
    Sees key response := by
  unfold unseen at seen
  exact Option.isSome_iff_exists.mp (by simpa using seen)

/-- What a waiter for the key may expect from the call it waits for: it has not read
the table yet, or its response sees the revocation. -/
def Promises (key : Key) : Call → Prop
  | .leading k _ => flightKey k = flightKey key
  | .signed _ _ response => Sees key response
  | .closing _ _ result => ∀ response, result = some response → Sees key response
  | .unregistering _ _ result => ∀ response, result = some response → Sees key response
  | .done _ _ result => ∀ response, result = some response → Sees key response
  | _ => False

/-- The leader of the flight stands at a position that is registered. -/
def Flying (calls : List Call) (str : String) (c : Nat) : Prop :=
  ∃ call key, calls[c]? = some call ∧ call.registered = some key ∧ flightKey key = str

structure Sound (s : Sys) : Prop where
  flights : ∀ str c, (str, c) ∈ s.flights → Flying s.calls str c
  recorded : ∀ key, .revokeReturned key true ∈ s.calls → ∃ rev, s.revocations.get? key = some rev
  cached : ∀ key, .revokeReturned key true ∈ s.calls → ∀ entry, s.cache.get? key = some entry →
    Sees key entry.response
  settled : ∀ key, .revokeReturned key true ∈ s.calls → ∀ call ∈ s.calls,
    staleFlight key call = false
  late : ∀ call ∈ s.calls, ∀ key, call.lateKey = some key → .revokeReturned key true ∈ s.calls
  waiting : ∀ key leader, .waiting key true leader ∈ s.calls →
    ∃ call, s.calls[leader]? = some call ∧ Promises key call
  done : ∀ key response, .done key true (some response) ∈ s.calls → Sees key response

theorem invalidated_iff : s.invalidated key = true ↔ .revokeReturned key true ∈ s.calls := by
  unfold Sys.invalidated
  rw [List.any_eq_true]
  constructor
  · rintro ⟨call, member, returned⟩
    unfold Call.isInvalidated at returned
    split at returned
    · rw [← of_decide_eq_true returned]
      exact member
    · cases returned
  · intro member
    exact ⟨_, member, by simp [Call.isInvalidated]⟩

theorem revocations_grow (effect : Effect s a s')
    (recorded : ∃ rev, s.revocations.get? key = some rev) :
    ∃ rev, s'.revocations.get? key = some rev := by
  cases effect with
  | @revoke row _ _ written =>
    rcases written with rfl | rfl
    · obtain ⟨rev, found⟩ := recorded
      have after := Table.get?_insertOrIgnore s.revocations row key
      refine ⟨rev, ?_⟩
      simp only [Sys.spawn, Revocations.create]
      rw [after, found]
      simp
    · exact recorded
  | _ => exact recorded

section Crossing

variable {s : Sys} {old new : Call} {key : Key}

theorem lateKey_crosses (crossing : Crosses s old new) (late : new.lateKey = some key) :
    old.lateKey = some key := by
  cases crossing with
  | quiet crossing =>
    cases crossing with
    | invalidateFailed => cases late
    | _ => exact late
  | invalidated => cases late
  | _ => exact late

/-- Once the row is recorded, a promise is kept across the boundaries. -/
theorem promises_crosses (recorded : ∃ rev, s.revocations.get? key = some rev)
    (crossing : Crosses s old new) (promise : Promises key old) : Promises key new := by
  cases crossing with
  | quiet crossing =>
    cases crossing with
    | signed => exact recorded
    | signFailed =>
      intro response none
      cases none
    | closed => exact promise
    | _ => cases promise
  | put =>
    intro response same
    cases same
    exact promise
  | unregistered => exact promise
  | _ => cases promise

/-- Once the row is recorded, no regeneration becomes stale. -/
theorem staleFlight_crosses (recorded : ∃ rev, s.revocations.get? key = some rev)
    (crossing : Crosses s old new) (settled : staleFlight key old = false) :
    staleFlight key new = false := by
  cases crossing with
  | quiet crossing =>
    cases crossing with
    | signed =>
      obtain ⟨rev, found⟩ := recorded
      simp [staleFlight, unseen, found]
    | @closed k late result =>
      cases result with
      | none => rfl
      | some response => exact settled
    | _ => rfl
  | put => exact settled
  | _ => rfl

theorem registered_quiet (crossing : Quiet s old new) (registered : old.registered = some key) :
    new.registered = some key := by
  cases crossing with
  | signed | signFailed | closed => exact registered
  | _ => cases registered

end Crossing

variable {call : Call}

/-- The regeneration a late request joins keeps its promise. -/
theorem promises_of_registered {k : Key} (registered : call.registered = some k)
    (same : flightKey k = flightKey key) (settled : staleFlight key call = false) :
    Promises key call := by
  have seen {response : Response}
      (fine : (decide (flightKey k = flightKey key) && unseen key response) = false) :
      Sees key response := by
    rw [decide_eq_true same, Bool.true_and] at fine
    exact sees_of_seen fine
  cases call with
  | leading =>
    cases registered
    exact same
  | signed =>
    cases registered
    exact seen settled
  | closing _ _ result | unregistering _ _ result =>
    cases registered
    intro response isResult
    subst isResult
    exact seen settled
  | _ => cases registered

/-- After the step the same revocations are done, or the one whose delete it made. -/
theorem returned_step (effect : Effect s a s') (returned : .revokeReturned key true ∈ s'.calls) :
    .revokeReturned key true ∈ s.calls ∨
      ∃ c, a = .invalidate c false ∧ s.calls[c]? = some (.revokeCommitted key) ∧
        s' = { s with cache := s.cache.delete key }.setCall c (.revokeReturned key true) := by
  have spawned {call : Call} (among : .revokeReturned key true ∈ s.calls ++ [call])
      (other : call ≠ .revokeReturned key true) : .revokeReturned key true ∈ s.calls :=
    (mem_snoc among).resolve_right other.symm
  have moved {c : Nat} {call : Call} (among : .revokeReturned key true ∈ s.calls.set c call)
      (other : call ≠ .revokeReturned key true) : .revokeReturned key true ∈ s.calls :=
    (List.mem_or_eq_of_mem_set among).resolve_right other.symm
  cases effect with
  | tick => exact .inl returned
  | get => exact .inl (spawned returned (by simp))
  | revoke => exact .inl (spawned returned (by simp))
  | quiet _ crossing => exact .inl (moved returned (by cases crossing <;> simp))
  | leads | put | unregistered => exact .inl (moved returned (by simp))
  | @invalidated c k current =>
    by_cases same : k = key
    · subst same
      exact .inr ⟨c, rfl, current, rfl⟩
    · exact .inl (moved returned (by simp [same]))

variable {c leader : Nat} {str : String} {calls : List Call}

theorem settledDelete_iff (current : s.calls[c]? = some (.revokeCommitted key)) :
    settledDelete s (.invalidate c false) = true ↔ (∃ rev, s.revocations.get? key = some rev) ∧
        ∀ call ∈ s.calls, staleFlight key call = false := by
  simp [settledDelete, current, Option.isSome_iff_exists]

theorem flying_spawn (flying : Flying calls str c)
    (call : Call) : Flying (calls ++ [call]) str c := by
  obtain ⟨leader, key, current, registered⟩ := flying
  exact ⟨leader, key, getElem?_snoc current, registered⟩

theorem flying_set {i : Nat} {old new : Call}
    (flying : Flying calls str c) (current : calls[i]? = some old)
    (keeps : ∀ key, flightKey key = str → old.registered = some key → new.registered = some key) :
    Flying (calls.set i new) str c := by
  obtain ⟨leader, key, leads, registered, named⟩ := flying
  rcases getElem?_set_or new current leads with stays | ⟨-, rfl, moves⟩
  · exact ⟨leader, key, stays, registered, named⟩
  · exact ⟨new, key, moves, keeps key named registered, named⟩

/-- A promise made before the step holds after it. -/
theorem promised_step (effect : Effect s a s') (recorded : ∃ rev, s.revocations.get? key = some rev)
    (current : s.calls[leader]? = some call)
    (promise : Promises key call) : ∃ call, s'.calls[leader]? = some call ∧ Promises key call := by
  rcases pool_at (pool_effect effect) current with stayed | ⟨new, moved, crossing⟩
  · exact ⟨call, stayed, promise⟩
  · exact ⟨new, moved, promises_crosses recorded crossing promise⟩

/-- What a waiter takes from a published result. -/
theorem sees_of_published (promise : Promises key call)
    (published : call.published = some (some response)) : Sees key response := by
  cases call with
  | unregistering | done =>
    cases published
    exact promise response rfl
  | _ => cases published

section Step

variable (inv : Sound s) (effect : Effect s a s')

include inv effect

section

variable (ok : settledDelete s a = true) (returned : .revokeReturned key true ∈ s'.calls)

include ok returned

theorem recorded_step :
    ∃ rev, s'.revocations.get? key = some rev := by
  rcases returned_step effect returned with before | ⟨c, rfl, current, rfl⟩
  · exact revocations_grow effect (inv.recorded key before)
  · exact ((settledDelete_iff current).mp ok).1

theorem settled_step :
    ∀ call ∈ s'.calls, staleFlight key call = false := by
  intro call member
  rcases returned_step effect returned with before | ⟨c, rfl, current, rfl⟩
  · rcases pool_member (pool_effect effect) member with stayed | ⟨_, _, rfl⟩ | ⟨_, rfl⟩ |
      ⟨old, was, crossing⟩
    · exact inv.settled key before call stayed
    · rfl
    · rfl
    · exact staleFlight_crosses (inv.recorded key before) crossing (inv.settled key before old was)
  · rcases List.mem_or_eq_of_mem_set member with stayed | rfl
    · exact ((settledDelete_iff current).mp ok).2 call stayed
    · rfl

end

theorem cached_step (returned : .revokeReturned key true ∈ s'.calls) {entry : CacheEntry}
    (found : s'.cache.get? key = some entry) : Sees key entry.response := by
  rcases returned_step effect returned with before | ⟨c, _, _, rfl⟩
  · have kept := inv.cached key before
    cases effect with
    | @put c fails k late response cache current stored =>
      rcases stored with rfl | rfl
      · exact kept entry found
      · have written := Table.get?_upsert s.cache ⟨k.1, k.2, response, s.now + hour⟩ key
        simp only [Sys.setCall, cachePut] at found
        rw [written] at found
        split at found
        next same =>
          cases found
          have settled := inv.settled key before _ (List.mem_of_getElem? current)
          have own : k = key := same.symm
          subst own
          exact promises_of_registered rfl rfl settled
        next => exact kept entry found
    | invalidated =>
      simp only [Sys.setCall, Table.get?_delete] at found
      split at found
      · cases found
      · exact kept entry found
    | _ => exact kept entry found
  · simp only [Sys.setCall, Table.get?_delete, ↓reduceIte] at found
    cases found

theorem flights_step (member : (str, c) ∈ s'.flights) : Flying s'.calls str c := by
  cases effect with
  | tick => exact inv.flights str c member
  | get | revoke => exact flying_spawn (inv.flights str c member) _
  | quiet current crossing =>
    exact flying_set (inv.flights str c member) current (fun _ _ => registered_quiet crossing)
  | @leads i key late current =>
    rcases List.mem_cons.mp member with isNew | before
    · cases isNew
      obtain ⟨inside, _⟩ := List.getElem?_eq_some_iff.mp current
      exact ⟨_, key, List.getElem?_set_self inside, rfl, rfl⟩
    · refine flying_set (inv.flights str c before) current ?_
      intro key _ registered
      cases registered
  | put current => exact flying_set (inv.flights str c member) current (fun _ _ same => same)
  | unregistered current =>
    obtain ⟨before, other⟩ := List.mem_filter.mp member
    refine flying_set (inv.flights str c before) current ?_
    intro key named registered
    cases registered
    exact absurd named.symm (of_decide_eq_true other)
  | invalidated current =>
    refine flying_set (inv.flights str c member) current ?_
    intro key _ registered
    cases registered

theorem late_step (member : call ∈ s'.calls)
    (late : call.lateKey = some key) : .revokeReturned key true ∈ s'.calls := by
  have pool := pool_effect effect
  rcases pool_member pool member with stayed | ⟨k, _, rfl⟩ | ⟨_, rfl⟩ | ⟨old, was, crossing⟩
  · exact returned_stays pool (inv.late call stayed key late)
  · simp only [Call.lateKey] at late
    split at late
    next since =>
      cases late
      exact returned_stays pool (invalidated_iff.mp since)
    next => cases late
  · cases late
  · exact returned_stays pool (inv.late old was key (lateKey_crosses crossing late))

theorem waiting_step (member : .waiting key true leader ∈ s'.calls) :
    ∃ call, s'.calls[leader]? = some call ∧ Promises key call := by
  rcases pool_member (pool_effect effect) member with stayed | ⟨_, _, arrived⟩ | ⟨_, arrived⟩ |
    ⟨old, was, crossing⟩
  · obtain ⟨call, current, promise⟩ := inv.waiting key leader stayed
    exact promised_step effect (inv.recorded key (inv.late _ stayed key rfl)) current promise
  · cases arrived
  · cases arrived
  · cases crossing with
    | quiet crossing =>
      cases crossing with
      | joined flying =>
        have returned := inv.late _ was key rfl
        obtain ⟨call, k, current, registered, named⟩ := inv.flights _ leader flying
        have settled := inv.settled key returned call (List.mem_of_getElem? current)
        exact promised_step effect (inv.recorded key returned) current
          (promises_of_registered registered named settled)

theorem done_step (member : .done key true (some response) ∈ s'.calls) : Sees key response := by
  rcases pool_member (pool_effect effect) member with stayed | ⟨_, _, arrived⟩ | ⟨_, arrived⟩ |
    ⟨old, was, crossing⟩
  · exact inv.done key response stayed
  · cases arrived
  · cases arrived
  · cases crossing with
    | quiet crossing =>
      cases crossing with
      | hit found => exact inv.cached key (inv.late _ was key rfl) _ found
      | woken current published =>
        obtain ⟨call, leads, promise⟩ := inv.waiting key _ was
        cases current.symm.trans leads
        exact sees_of_published promise published
    | unregistered =>
      have settled := inv.settled key (inv.late _ was key rfl) _ was
      exact promises_of_registered rfl rfl settled response rfl

end Step

theorem sound_initial (initial : Initial s) : Sound s where
  flights _ _ member := by simp [initial.2] at member
  recorded _ member := by simp [initial.1] at member
  cached _ member := by simp [initial.1] at member
  settled _ member := by simp [initial.1] at member
  late _ member := by simp [initial.1] at member
  waiting _ _ member := by simp [initial.1] at member
  done _ _ member := by simp [initial.1] at member

theorem sound_step (inv : Sound s) (ok : settledDelete s a = true) (effect : Effect s a s') :
    Sound s' where
  flights _ _ member := flights_step inv effect member
  recorded _ returned := recorded_step inv effect ok returned
  cached _ returned _ found := cached_step inv effect returned found
  settled _ returned := settled_step inv effect ok returned
  late _ member _ late := late_step inv effect member late
  waiting _ _ member := waiting_step inv effect member
  done _ _ member := done_step inv effect member

theorem freshAnswers_of_settled (svc : CAServices) {s : Sys}
    (reached : ReachableUnder (step svc) Initial (fun s a => settledDelete s a = true) s) :
    FreshAnswers s := by
  have sound : Sound s := reached.invariant (fun _ initial => sound_initial initial)
    (fun _ _ _ inv ok taken => sound_step inv ok (step_effect taken))
  intro key response answered
  exact sound.done key response answered

def emptyCaches : Sys := ⟨10, .empty _, .empty _, [], []⟩

theorem emptyCaches_initial : Initial emptyCaches := ⟨rfl, rfl⟩

def webKey : Key := webRevocation.key

def signsWeb (c : Nat) : Action :=
  .sign c webDatabase.inventory webDatabase.profiles ⟨false, false, false, false, false⟩ false

/-- A late `Get` has an answer of this status, which sees the row or not. -/
def answeredLate (status : CertStatus) (blind : Bool) (s : Sys) : Bool :=
  s.calls.any (fun call => match call with
    | .done key true (some response) =>
      decide (unseen key response = blind) && decide (response.request.certStatus = status)
    | _ => false)

/-- The regeneration signs after the commit; a request after the revocation hits what
it stored. -/
def settledRun : List Action :=
  [.get webKey, .read 0 false, .join 0, .revoke webRevocation true, .invalidate 1 false,
    signsWeb 0, .put 0 false, .close 0, .unregister 0, .get webKey, .read 2 false]

theorem freshAnswers_settledRun :
    ∃ s, ReachableUnder (step wiredServices) Initial (fun s a => settledDelete s a = true) s ∧
      answeredLate .revoked false s = true ∧ FreshAnswers s := by
  obtain ⟨s, reached, answered⟩ := exists_reachable_of_replay (step wiredServices) settledDelete
    emptyCaches_initial settledRun (fun s => answeredLate .revoked false s) (by decide +kernel)
  exact ⟨s, reached, answered, freshAnswers_of_settled wiredServices reached⟩

/-- The regeneration signs before the commit and stores its response behind the
delete; a request after the revocation hits it. -/
def overtakenRun : List Action :=
  [.get webKey, .read 0 false, .join 0, signsWeb 0, .revoke webRevocation true,
    .invalidate 1 false, .put 0 false, .close 0, .unregister 0, .get webKey, .read 2 false]

theorem good_after_revocation :
    ∃ s, Reachable (step wiredServices) Initial s ∧ answeredLate .good true s = true ∧
      ¬ FreshAnswers s := by
  obtain ⟨s, reached, answered⟩ := exists_reached_of_replay (step wiredServices)
    emptyCaches_initial overtakenRun (fun s => answeredLate .good true s) (by decide +kernel)
  refine ⟨s, reached, answered, fun fresh => ?_⟩
  obtain ⟨call, member, stale⟩ := List.any_eq_true.mp answered
  split at stale
  next key response =>
    obtain ⟨rev, found⟩ := fresh key response member
    simp [unseen, found] at stale
  next => cases stale

end Certctl.Guarantees.FreshAfterRevocation

import Certctl.Source.CAOperations
import Certctl.Lib.Transition

/-!
The OCSP response cache as an interleaving of its calls. A `Get` reads the cache, and
on a miss joins the regeneration in flight for its key or leads one: sign, store the
response, publish the result, deregister. A revocation commits its row and then
deletes the cached response; without a transactor it goes on when the insert of the
row fails. Each of these is a step of its own; inventory, profiles and faults of a
signature are arguments of its step, and a signature stands at the lookup that
decides it.

A response remembers the revocation table its signer read, and a `Get` whether it
started after a completed invalidation of its key. Both are history: no step reads
them.

Source: internal/service/ca_operations.go, ocsp_response_cache.go;
internal/domain/ocsp_response_cache.go.
-/
namespace Certctl.Source.ResponseCache

open Lib

/-- Issuer and serial. -/
abbrev Key := String × String

/-- The key of the map of regenerations in flight. -/
def flightKey (key : Key) : String := key.1 ++ "|" ++ key.2

structure Response where
  request : OCSPSignRequest
  basis : Revocations

structure CacheEntry where
  issuerID : String
  serialHex : String
  response : Response
  nextUpdate : Time

def CacheEntry.key (e : CacheEntry) : Key := (e.issuerID, e.serialHex)

def CacheEntry.isStale (e : CacheEntry) (now : Time) : Bool := !decide (now < e.nextUpdate)

/-- A call between two boundaries. `closing` and later positions carry the result of
a regeneration, `none` for an error. -/
inductive Call where
  | opened (key : Key) (late : Bool) (now : Time)
  | missed (key : Key) (late : Bool)
  | waiting (key : Key) (late : Bool) (leader : Nat)
  | leading (key : Key) (late : Bool)
  | signed (key : Key) (late : Bool) (response : Response)
  | closing (key : Key) (late : Bool) (result : Option Response)
  | unregistering (key : Key) (late : Bool) (result : Option Response)
  | done (key : Key) (late : Bool) (result : Option Response)
  | revokeCommitted (key : Key)
  | revokeReturned (key : Key) (invalidated : Bool)

namespace Call

/-- The key under which the call stands in the map of regenerations. -/
def registered : Call → Option Key
  | leading key _ => some key
  | signed key _ _ => some key
  | closing key _ _ => some key
  | unregistering key _ _ => some key
  | _ => none

/-- The key of a `Get` that started after an invalidation of it. -/
def lateKey : Call → Option Key
  | opened key late _ => if late then some key else none
  | missed key late => if late then some key else none
  | waiting key late _ => if late then some key else none
  | leading key late => if late then some key else none
  | signed key late _ => if late then some key else none
  | closing key late _ => if late then some key else none
  | unregistering key late _ => if late then some key else none
  | done key late _ => if late then some key else none
  | _ => none

/-- The result a waiter of this leader gets, once it is published. -/
def published : Call → Option (Option Response)
  | unregistering _ _ result => some result
  | done _ _ result => some result
  | _ => none

def isInvalidated (key : Key) : Call → Bool
  | revokeReturned k true => decide (k = key)
  | _ => false

end Call

structure Sys where
  now : Time
  revocations : Revocations
  cache : Table CacheEntry.key
  flights : List (String × Nat)
  calls : List Call

namespace Sys

def setCall (s : Sys) (c : Nat) (call : Call) : Sys := { s with calls := s.calls.set c call }

def spawn (s : Sys) (call : Call) : Sys := { s with calls := s.calls ++ [call] }

/-- A revocation of the key has returned after a successful invalidation. -/
def invalidated (s : Sys) (key : Key) : Bool := s.calls.any (Call.isInvalidated key)

end Sys

inductive Action where
  | tick (elapsed : Nat)
  | get (key : Key)
  | read (c : Nat) (fails : Bool)
  | join (c : Nat)
  | sign (c : Nat) (inventory : Inventory) (profiles : Table CertificateProfile.id)
      (faults : SignFaults) (connectorFails : Bool)
  | put (c : Nat) (fails : Bool)
  | close (c : Nat)
  | unregister (c : Nat)
  | wake (c : Nat)
  | revoke (row : CertificateRevocation) (recorded : Bool)
  | invalidate (c : Nat) (fails : Bool)

def hour : Time := 3600000000000

def cacheRead (s : Sys) (key : Key) (now : Time) : Option Response :=
  (s.cache.get? key).bind (fun entry => if entry.isStale now then none else some entry.response)

def cachePut (s : Sys) (key : Key) (response : Response) : Table CacheEntry.key :=
  s.cache.upsert ⟨key.1, key.2, response, s.now + hour⟩

def liveSign (svc : CAServices) (s : Sys) (key : Key) (inventory : Inventory)
    (profiles : Table CertificateProfile.id) (faults : SignFaults) (connectorFails : Bool) :
    Option Response :=
  if connectorFails then none
  else (liveSignOCSPResponse svc ⟨s.revocations, inventory, profiles⟩ faults s.now key.1
    key.2).toOption.map (fun request => ⟨request, s.revocations⟩)

/-- One boundary crossing of call `c`. -/
def stepCall (svc : CAServices) (s : Sys) (c : Nat) : Call → Action → Option Sys
  | .opened key late now, .read _ fails =>
    if fails then some (s.setCall c (.done key late none))
    else match cacheRead s key now with
      | some response => some (s.setCall c (.done key late (some response)))
      | none => some (s.setCall c (.missed key late))
  | .missed key late, .join _ =>
    match s.flights.lookup (flightKey key) with
    | some leader => some (s.setCall c (.waiting key late leader))
    | none => some ({ s with flights := (flightKey key, c) :: s.flights }.setCall c
        (.leading key late))
  | .leading key late, .sign _ inventory profiles faults connectorFails =>
    match liveSign svc s key inventory profiles faults connectorFails with
    | some response => some (s.setCall c (.signed key late response))
    | none => some (s.setCall c (.closing key late none))
  | .signed key late response, .put _ fails =>
    let cache := if fails then s.cache else cachePut s key response
    some ({ s with cache }.setCall c (.closing key late (some response)))
  | .closing key late result, .close _ => some (s.setCall c (.unregistering key late result))
  | .unregistering key late result, .unregister _ =>
    let flights := s.flights.filter (fun flight => decide (flight.1 ≠ flightKey key))
    some ({ s with flights }.setCall c (.done key late result))
  | .waiting key late leader, .wake _ =>
    ((s.calls[leader]?).bind Call.published).map (fun result => s.setCall c (.done key late result))
  | .revokeCommitted key, .invalidate _ fails =>
    if fails then some (s.setCall c (.revokeReturned key false))
    else some ({ s with cache := s.cache.delete key }.setCall c (.revokeReturned key true))
  | _, _ => none

def Action.call : Action → Option Nat
  | .read c _ => some c
  | .join c => some c
  | .sign c _ _ _ _ => some c
  | .put c _ => some c
  | .close c => some c
  | .unregister c => some c
  | .wake c => some c
  | .invalidate c _ => some c
  | _ => none

def step (svc : CAServices) (s : Sys) : Action → Option Sys
  | .tick elapsed => some { s with now := s.now + elapsed }
  | .get key => some (s.spawn (.opened key (s.invalidated key) s.now))
  | .revoke row recorded =>
    let revocations := if recorded then s.revocations.create row else s.revocations
    some ({ s with revocations }.spawn (.revokeCommitted row.key))
  | a => a.call.bind (fun c => (s.calls[c]?).bind (fun call => stepCall svc s c call a))

/-- A started server over any tables. -/
def Initial (s : Sys) : Prop := s.calls = [] ∧ s.flights = []

/-- The crossings that change nothing but the call. -/
inductive Quiet (s : Sys) : Call → Call → Prop where
  | readFailed {key : Key} {late : Bool} {now : Time} :
      Quiet s (.opened key late now) (.done key late none)
  | hit {key : Key} {late : Bool} {now : Time} {entry : CacheEntry}
      (cached : s.cache.get? key = some entry) :
      Quiet s (.opened key late now) (.done key late (some entry.response))
  | missed {key : Key} {late : Bool} {now : Time} :
      Quiet s (.opened key late now) (.missed key late)
  | joined {key : Key} {late : Bool} {leader : Nat} (flying : (flightKey key, leader) ∈ s.flights) :
      Quiet s (.missed key late) (.waiting key late leader)
  | signed {key : Key} {late : Bool} (request : OCSPSignRequest) :
      Quiet s (.leading key late) (.signed key late ⟨request, s.revocations⟩)
  | signFailed {key : Key} {late : Bool} : Quiet s (.leading key late) (.closing key late none)
  | closed {key : Key} {late : Bool} {result : Option Response} :
      Quiet s (.closing key late result) (.unregistering key late result)
  | woken {key : Key} {late : Bool} {leader : Nat} {call : Call} {result : Option Response}
      (current : s.calls[leader]? = some call) (published : call.published = some result) :
      Quiet s (.waiting key late leader) (.done key late result)
  | invalidateFailed {key : Key} : Quiet s (.revokeCommitted key) (.revokeReturned key false)

/-- What a step can do. -/
inductive Effect (s : Sys) : Action → Sys → Prop where
  | tick (elapsed : Nat) : Effect s (.tick elapsed) { s with now := s.now + elapsed }
  | get (key : Key) : Effect s (.get key) (s.spawn (.opened key (s.invalidated key) s.now))
  | revoke {row : CertificateRevocation} {recorded : Bool} {revocations : Revocations}
      (written : revocations = s.revocations.create row ∨ revocations = s.revocations) :
      Effect s (.revoke row recorded)
        ({ s with revocations }.spawn (.revokeCommitted row.key))
  | quiet {a : Action} {c : Nat} {old new : Call} (current : s.calls[c]? = some old)
      (crossing : Quiet s old new) : Effect s a (s.setCall c new)
  | leads {c : Nat} {key : Key} {late : Bool} (current : s.calls[c]? = some (.missed key late)) :
      Effect s (.join c) ({ s with flights := (flightKey key, c) :: s.flights }.setCall c
        (.leading key late))
  | put {c : Nat} {fails : Bool} {key : Key} {late : Bool} {response : Response}
      {cache : Table CacheEntry.key} (current : s.calls[c]? = some (.signed key late response))
      (stored : cache = s.cache ∨ cache = cachePut s key response) :
      Effect s (.put c fails) ({ s with cache }.setCall c (.closing key late (some response)))
  | unregistered {c : Nat} {key : Key} {late : Bool} {result : Option Response}
      (current : s.calls[c]? = some (.unregistering key late result)) :
      Effect s (.unregister c)
        ({ s with flights := s.flights.filter (fun flight =>
          decide (flight.1 ≠ flightKey key)) }.setCall c (.done key late result))
  | invalidated {c : Nat} {key : Key} (current : s.calls[c]? = some (.revokeCommitted key)) :
      Effect s (.invalidate c false)
        ({ s with cache := s.cache.delete key }.setCall c (.revokeReturned key true))

variable {s s' : Sys} {call : Call} {a : Action} {svc : CAServices}

theorem stepCall_effect {c : Nat} (current : s.calls[c]? = some call) (named : a.call = some c)
    (taken : stepCall svc s c call a = some s') : Effect s a s' := by
  unfold stepCall at taken
  split at taken
  next =>
    split at taken
    · cases taken
      exact .quiet current .readFailed
    · split at taken
      next response cached =>
        cases taken
        obtain ⟨entry, found, fresh⟩ := Option.bind_eq_some_iff.mp cached
        obtain ⟨-, ⟨⟩⟩ := of_else fresh nofun
        exact .quiet current (.hit found)
      next =>
        cases taken
        exact .quiet current .missed
  next =>
    split at taken
    next leader found =>
      cases taken
      obtain ⟨front, back, flights, _⟩ := List.lookup_eq_some_iff.mp found
      exact .quiet current (.joined (by simp [flights]))
    next =>
      cases taken
      cases named
      exact .leads current
  next =>
    split at taken
    next response signed =>
      cases taken
      obtain ⟨-, signed⟩ := of_else signed nofun
      obtain ⟨request, _, rfl⟩ := Option.map_eq_some_iff.mp signed
      exact .quiet current (.signed request)
    next =>
      cases taken
      exact .quiet current .signFailed
  next =>
    cases taken
    cases named
    refine .put current ?_
    split
    · exact .inl rfl
    · exact .inr rfl
  next =>
    cases taken
    exact .quiet current .closed
  next =>
    cases taken
    cases named
    exact .unregistered current
  next =>
    obtain ⟨result, found, rfl⟩ := Option.map_eq_some_iff.mp taken
    obtain ⟨call, leads, published⟩ := Option.bind_eq_some_iff.mp found
    exact .quiet current (.woken leads published)
  next =>
    split at taken
    · cases taken
      exact .quiet current .invalidateFailed
    next success =>
      cases taken
      cases named
      rw [Bool.not_eq_true] at success
      rw [success]
      exact .invalidated current
  next => cases taken

theorem step_effect (taken : step svc s a = some s') : Effect s a s' := by
  have crossing {c : Nat} (named : a.call = some c)
      (moved : a.call.bind (fun c => (s.calls[c]?).bind (fun call => stepCall svc s c call a)) =
        some s') : Effect s a s' := by
    rw [named, Option.bind_some] at moved
    obtain ⟨call, current, rest⟩ := Option.bind_eq_some_iff.mp moved
    exact stepCall_effect current named rest
  cases a with
  | tick elapsed =>
    cases taken
    exact .tick elapsed
  | get key =>
    cases taken
    exact .get key
  | revoke row recorded =>
    cases taken
    refine .revoke ?_
    split
    · exact .inl rfl
    · exact .inr rfl
  | read | join | sign | put | close | unregister | wake | invalidate => exact crossing rfl taken

/-- One call crossing a boundary, whatever else the step writes. -/
inductive Crosses (s : Sys) : Call → Call → Prop where
  | quiet {old new : Call} (crossing : Quiet s old new) : Crosses s old new
  | leads {key : Key} {late : Bool} : Crosses s (.missed key late) (.leading key late)
  | put {key : Key} {late : Bool} {response : Response} :
      Crosses s (.signed key late response) (.closing key late (some response))
  | unregistered {key : Key} {late : Bool} {result : Option Response} :
      Crosses s (.unregistering key late result) (.done key late result)
  | invalidated {key : Key} : Crosses s (.revokeCommitted key) (.revokeReturned key true)

/-- What a step does to the pool of calls. -/
inductive PoolEffect (s s' : Sys) : Prop where
  | same (calls : s'.calls = s.calls)
  | opened {key : Key} {late : Bool} {now : Time} (since : late = s.invalidated key)
      (calls : s'.calls = s.calls ++ [.opened key late now])
  | committed {key : Key} (calls : s'.calls = s.calls ++ [.revokeCommitted key])
  | crossed {c : Nat} {old new : Call} (current : s.calls[c]? = some old)
      (crossing : Crosses s old new) (calls : s'.calls = s.calls.set c new)

theorem pool_effect (effect : Effect s a s') : PoolEffect s s' := by
  cases effect with
  | tick => exact .same rfl
  | get key => exact .opened rfl rfl
  | revoke => exact .committed rfl
  | quiet current crossing => exact .crossed current (.quiet crossing) rfl
  | leads current => exact .crossed current .leads rfl
  | put current => exact .crossed current .put rfl
  | unregistered current => exact .crossed current .unregistered rfl
  | invalidated current => exact .crossed current .invalidated rfl

/-- A call of the pool after a step was there before, has just arrived, or is the one
that crossed. -/
theorem pool_member (effect : PoolEffect s s') (member : call ∈ s'.calls) :
    call ∈ s.calls ∨ (∃ key now, call = .opened key (s.invalidated key) now) ∨
      (∃ key, call = .revokeCommitted key) ∨ ∃ old ∈ s.calls, Crosses s old call := by
  cases effect with
  | same calls => exact .inl (calls ▸ member)
  | opened since calls =>
    rcases mem_snoc (calls ▸ member) with stayed | rfl
    · exact .inl stayed
    · exact .inr (.inl ⟨_, _, by rw [since]⟩)
  | committed calls =>
    rcases mem_snoc (calls ▸ member) with stayed | rfl
    · exact .inl stayed
    · exact .inr (.inr (.inl ⟨_, rfl⟩))
  | crossed current crossing calls =>
    rw [calls] at member
    rcases List.mem_or_eq_of_mem_set member with stayed | rfl
    · exact .inl stayed
    · exact .inr (.inr (.inr ⟨_, List.mem_of_getElem? current, crossing⟩))

/-- Position by position: a call stays or crosses. -/
theorem pool_at (effect : PoolEffect s s') {i : Nat} (current : s.calls[i]? = some call) :
    s'.calls[i]? = some call ∨ ∃ new, s'.calls[i]? = some new ∧ Crosses s call new := by
  cases effect with
  | same calls => exact .inl (by rw [calls]; exact current)
  | opened _ calls | committed calls => exact .inl (by rw [calls]; exact getElem?_snoc current)
  | crossed moved crossing calls =>
    rw [calls]
    rcases getElem?_set_or _ moved current with stays | ⟨-, rfl, moves⟩
    · exact .inl stays
    · exact .inr ⟨_, moves, crossing⟩

theorem returned_stays (effect : PoolEffect s s') {key : Key} {invalidated : Bool}
    (member : .revokeReturned key invalidated ∈ s.calls) :
    .revokeReturned key invalidated ∈ s'.calls := by
  obtain ⟨i, current⟩ := List.mem_iff_getElem?.mp member
  rcases pool_at effect current with stayed | ⟨new, _, crossing⟩
  · exact List.mem_of_getElem? stayed
  · cases crossing with
    | quiet crossing => cases crossing

end Certctl.Source.ResponseCache

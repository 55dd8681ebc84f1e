import Certctl.Source.Scep.ReplayCache

/-!
One nonce of the replay cache seen by itself: where each thread stands with it, and the
expiry stored for it. A call for the nonce starts only while no other is under way and
no sweep is about to delete it; then two calls that are told the nonce is fresh are a
TTL apart. What protects an accepted reading is the stored expiry, or, once that has
been dropped, that every call which can still miss it has a reading a TTL later.
-/
namespace Certctl.Source.Scep

open Lib

inductive View where
  | elsewhere
  | loading (now : Time)
  | dropping (now : Time)
  | clearing (now : Time)
  | accepted (now : Time)
  | sweeping (now : Time) (doomed : Bool)

/-- The clock reading of a call for the nonce that is under way. -/
def View.busy : View → Option Time
  | .loading now => some now
  | .dropping now => some now
  | .clearing now => some now
  | _ => none

structure Track where
  views : List View
  expiry : Option Time

/-- A call for the nonce may start: none is under way, no sweep is about to delete the
nonce, and no sweep has a later clock reading. -/
def View.admits (now : Time) : View → Bool
  | .sweeping reading doomed => !doomed && decide (reading ≤ now)
  | view => view.busy.isNone

inductive Track.Step (ttl : Time) (k : Track) : Track → Prop where
  | same : Track.Step ttl k k
  | entered {view : View} (idle : view = .elsewhere ∨ ∃ now, view = .sweeping now false) :
      Track.Step ttl k ⟨k.views ++ [view], k.expiry⟩
  | began {now : Time} (admitted : ∀ view ∈ k.views, view.admits now = true) :
      Track.Step ttl k ⟨k.views ++ [.loading now], k.expiry⟩
  | refused {t : Nat} {now e : Time} (current : k.views[t]? = some (.loading now))
      (stored : k.expiry = some e) (alive : now < e) :
      Track.Step ttl k ⟨k.views.set t .elsewhere, k.expiry⟩
  | outdated {t : Nat} {now e : Time} (current : k.views[t]? = some (.loading now))
      (stored : k.expiry = some e) (expired : e ≤ now) :
      Track.Step ttl k ⟨k.views.set t (.dropping now), k.expiry⟩
  | missed {t : Nat} {now : Time} (current : k.views[t]? = some (.loading now))
      (absent : k.expiry = none) :
      Track.Step ttl k ⟨k.views.set t (.clearing now), k.expiry⟩
  | dropped {t : Nat} {now : Time} (current : k.views[t]? = some (.dropping now)) :
      Track.Step ttl k ⟨k.views.set t (.clearing now), none⟩
  | stored {t : Nat} {now : Time} (current : k.views[t]? = some (.clearing now)) :
      Track.Step ttl k ⟨k.views.set t (.accepted now), some (now + ttl)⟩
  | condemned {t : Nat} {now e : Time} {doomed : Bool}
      (current : k.views[t]? = some (.sweeping now doomed)) (stored : k.expiry = some e)
      (expired : e ≤ now) (quiet : ∀ view ∈ k.views, view.busy = none) :
      Track.Step ttl k ⟨k.views.set t (.sweeping now true), k.expiry⟩
  | swept {t : Nat} {now : Time} {doomed : Bool}
      (current : k.views[t]? = some (.sweeping now true)) :
      Track.Step ttl k ⟨k.views.set t (.sweeping now doomed), none⟩

/-- An accepted reading is protected: by the stored expiry, or because every call that
can still miss it has a reading a TTL later. -/
def Guarded (ttl : Time) (k : Track) (a : Time) : Prop :=
  (∃ e, k.expiry = some e ∧ a + ttl ≤ e) ∨
    (∀ view ∈ k.views, ∀ now, view.busy = some now → a + ttl ≤ now) ∧
      ((∃ now doomed, .sweeping now doomed ∈ k.views ∧ a + ttl ≤ now) ∨
        ∃ view ∈ k.views, view.busy.isSome = true)

structure Track.Sound (ttl : Time) (k : Track) : Prop where
  alone : ∀ (i j : Nat) (v w : View), k.views[i]? = some v → v.busy.isSome = true →
    k.views[j]? = some w → w.busy.isSome = true → i = j
  spared : ∀ now, .sweeping now true ∈ k.views → ∀ view ∈ k.views, view.busy = none
  doomed : ∀ now, .sweeping now true ∈ k.views → ∀ e, k.expiry = some e → e ≤ now
  cleared : ∀ now, .clearing now ∈ k.views → k.expiry = none
  passed : 0 ≤ ttl → ∀ now a, .dropping now ∈ k.views ∨ .clearing now ∈ k.views →
    .accepted a ∈ k.views → a + ttl ≤ now
  guarded : 0 ≤ ttl → ∀ a, .accepted a ∈ k.views → Guarded ttl k a
  once : 0 ≤ ttl → ∀ (i j : Nat) (a b : Time), i ≠ j → k.views[i]? = some (.accepted a) →
    k.views[j]? = some (.accepted b) → a + ttl ≤ b ∨ b + ttl ≤ a

namespace Track

variable {ttl : Time} {k : Track} {expiry : Option Time}

/-- With no call under way there is less to show. -/
theorem sound_of_idle {views : List View} (idle : ∀ view ∈ views, view.busy = none)
    (doomed : ∀ now, .sweeping now true ∈ views → ∀ e, expiry = some e → e ≤ now)
    (guarded : 0 ≤ ttl → ∀ a, .accepted a ∈ views → Guarded ttl ⟨views, expiry⟩ a)
    (once : 0 ≤ ttl → ∀ (i j : Nat) (a b : Time), i ≠ j → views[i]? = some (.accepted a) →
      views[j]? = some (.accepted b) → a + ttl ≤ b ∨ b + ttl ≤ a) :
    Sound ttl ⟨views, expiry⟩ := by
  have notFlying : ∀ view ∈ views, view.busy.isSome = true → False := by
    intro view member flying
    rw [idle view member] at flying
    cases flying
  refine ⟨?_, fun _ _ => idle, doomed, ?_, ?_, guarded, once⟩
  · intro i j v w found flying
    exact (notFlying v (List.mem_of_getElem? found) flying).elim
  · intro reading member
    exact (notFlying _ member rfl).elim
  · intro lasting reading a flying
    rcases flying with flying | flying <;> exact (notFlying _ flying rfl).elim

theorem sound_nil : Sound ttl ⟨[], none⟩ := by
  refine sound_of_idle ?_ ?_ ?_ ?_ <;> simp

/-- A thread that has nothing to do with the nonce yet changes nothing. -/
theorem Sound.entered (sound : Sound ttl k) {view : View}
    (idle : view = .elsewhere ∨ ∃ now, view = .sweeping now false) :
    Sound ttl ⟨k.views ++ [view], k.expiry⟩ := by
  have quiet : view.busy = none := by
    rcases idle with rfl | ⟨now, rfl⟩ <;> rfl
  have notBusy {other : View} (flying : other.busy.isSome = true) : view ≠ other := by
    rintro rfl
    simp [quiet] at flying
  have notAccepted (a : Time) : view ≠ .accepted a := by
    rcases idle with rfl | ⟨now, rfl⟩ <;> simp
  have notDoomed (now : Time) : view ≠ .sweeping now true := by
    rcases idle with rfl | ⟨now, rfl⟩ <;> simp
  constructor
  case alone =>
    intro i j v w found flying found' flying'
    exact sound.alone i j v w (getElem?_of_snoc (notBusy flying) found) flying
      (getElem?_of_snoc (notBusy flying') found') flying'
  case spared =>
    intro now member
    exact forall_mem_snoc (sound.spared now (mem_of_snoc (notDoomed now) member)) quiet
  case doomed =>
    intro now member
    exact sound.doomed now (mem_of_snoc (notDoomed now) member)
  case cleared =>
    intro now member
    exact sound.cleared now (mem_of_snoc (notBusy rfl) member)
  case passed =>
    intro lasting now a flying member
    refine sound.passed lasting now a ?_ (mem_of_snoc (notAccepted a) member)
    exact flying.imp (mem_of_snoc (notBusy rfl)) (mem_of_snoc (notBusy rfl))
  case guarded =>
    intro lasting a member
    rcases sound.guarded lasting a (mem_of_snoc (notAccepted a) member) with
      covered | ⟨late, since⟩
    · exact .inl covered
    · right
      refine ⟨?_, ?_⟩
      · refine forall_mem_snoc late fun now flying => ?_
        rw [quiet] at flying
        cases flying
      · rcases since with ⟨now, doomed, sweeping, later⟩ | ⟨other, member', flying⟩
        · exact .inl ⟨now, doomed, List.mem_append_left _ sweeping, later⟩
        · exact .inr ⟨other, List.mem_append_left _ member', flying⟩
  case once =>
    intro lasting i j a b apart found found'
    exact sound.once lasting i j a b apart (getElem?_of_snoc (notAccepted a) found)
      (getElem?_of_snoc (notAccepted b) found')

variable {now : Time}

theorem Sound.began (sound : Sound ttl k) (admitted : ∀ view ∈ k.views, view.admits now = true) :
    Sound ttl ⟨k.views ++ [.loading now], k.expiry⟩ := by
  have quiet : ∀ view ∈ k.views, view.busy = none := by
    intro view member
    have admits := admitted view member
    cases view <;> first | rfl | cases admits
  have notDoomed : ∀ reading, .sweeping reading true ∉ k.views ++ [.loading now] := by
    intro reading member
    exact absurd (admitted _ (mem_of_snoc (by simp) member)) Bool.false_ne_true
  have only : ∀ (i : Nat) (view : View), (k.views ++ [.loading now])[i]? = some view →
      view.busy.isSome = true → i = k.views.length ∧ view = .loading now := by
    intro i view found flying
    rcases getElem?_append_cases found with stayed | new
    · rw [quiet view (List.mem_of_getElem? stayed)] at flying
      cases flying
    · exact new
  have onlyMem : ∀ view ∈ k.views ++ [.loading now], view.busy.isSome = true →
      view = .loading now := by
    intro view member flying
    obtain ⟨i, found⟩ := List.mem_iff_getElem?.mp member
    exact (only i view found flying).2
  constructor
  case alone =>
    intro i j v w found flying found' flying'
    rw [(only i v found flying).1, (only j w found' flying').1]
  case spared | doomed =>
    intro reading member
    exact absurd member (notDoomed reading)
  case cleared =>
    intro reading member
    cases onlyMem _ member rfl
  case passed =>
    intro lasting reading a flying
    rcases flying with flying | flying <;> cases onlyMem _ flying rfl
  case guarded =>
    intro lasting a member
    rcases sound.guarded lasting a (mem_of_snoc (by simp) member) with covered | ⟨_, since⟩
    · exact .inl covered
    · -- With no call under way, a sweep with an earlier reading stands for the drop.
      have later : a + ttl ≤ now := by
        rcases since with ⟨reading, doomed, sweeping, later⟩ | ⟨view, member', flying⟩
        · have admits := admitted _ sweeping
          simp only [View.admits, Bool.and_eq_true, decide_eq_true_eq] at admits
          exact Int.le_trans later admits.2
        · rw [quiet view member'] at flying
          cases flying
      right
      refine ⟨?_, .inr ⟨.loading now, List.mem_concat_self, rfl⟩⟩
      intro view member' reading flying
      obtain rfl := onlyMem view member' (by rw [flying]; rfl)
      cases flying
      exact later
  case once =>
    intro lasting i j a b apart found found'
    exact sound.once lasting i j a b apart (getElem?_of_snoc (by simp) found)
      (getElem?_of_snoc (by simp) found')

/-! A call for the nonce moves on; it is the only one under way. -/

section Moved

variable {t : Nat} {old new : View} {now : Time} (sound : Sound ttl k)
  (current : k.views[t]? = some old) (flying : old.busy = some now)

include sound current flying

theorem busy_of_set {other : View} (member : other ∈ k.views.set t new)
    (busy : other.busy.isSome = true) : other = new := by
  obtain ⟨i, found⟩ := List.mem_iff_getElem?.mp member
  rcases getElem?_set_cases found with ⟨_, rfl⟩ | ⟨elsewhere, stayed⟩
  · rfl
  · have alone := sound.alone i t other old stayed busy current (by rw [flying]; rfl)
    exact absurd alone elsewhere

/-- While a call is under way no sweep is about to delete the nonce. -/
theorem not_doomed (reading : Time) : .sweeping reading true ∉ k.views := by
  intro member
  have quiet := sound.spared reading member old (List.mem_of_getElem? current)
  rw [quiet] at flying
  cases flying

/-- What is left to show when a call moves on from one stage to the next. -/
theorem Sound.moved (stays : ∀ reading, new.busy = some reading → reading = now)
    (sweeps : ∀ reading doomed, new ≠ .sweeping reading doomed)
    (cleared : ∀ reading, new = .clearing reading → expiry = none)
    (passed : 0 ≤ ttl → ∀ a, .accepted a ∈ k.views → (∀ reading, new ≠ .loading reading) →
      new.busy.isSome = true → a + ttl ≤ now)
    (guarded : 0 ≤ ttl → ∀ a, .accepted a ∈ k.views → Guarded ttl ⟨k.views.set t new, expiry⟩ a)
    (accepts : ∀ a, new ≠ .accepted a) : Sound ttl ⟨k.views.set t new, expiry⟩ := by
  have busy : old.busy.isSome = true := by
    rw [flying]
    rfl
  have notDoomed : ∀ reading, .sweeping reading true ∉ k.views.set t new := fun reading member =>
    not_doomed sound current flying reading (mem_of_set (sweeps reading true) member)
  constructor
  case alone =>
    intro i j v w found flying' found' flying''
    have place : ∀ (i : Nat) (v : View), (k.views.set t new)[i]? = some v →
        v.busy.isSome = true → i = t := by
      intro i v found flying'
      rcases getElem?_set_cases found with ⟨here, _⟩ | ⟨_, stayed⟩
      · exact here
      · exact sound.alone i t v old stayed flying' current busy
    rw [place i v found flying', place j w found' flying'']
  case spared | doomed =>
    intro reading member
    exact absurd member (notDoomed reading)
  case cleared =>
    intro reading member
    exact cleared reading (busy_of_set sound current flying member rfl).symm
  case passed =>
    intro lasting reading a flying' member
    have before := passed lasting a (mem_of_set (accepts a) member)
    rcases flying' with dropping | clearing
    · obtain rfl := busy_of_set sound current flying dropping rfl
      rw [stays reading rfl]
      exact before (fun _ equal => nomatch equal) rfl
    · obtain rfl := busy_of_set sound current flying clearing rfl
      rw [stays reading rfl]
      exact before (fun _ equal => nomatch equal) rfl
  case guarded =>
    intro lasting a member
    exact guarded lasting a (mem_of_set (accepts a) member)
  case once =>
    intro lasting i j a b apart found found'
    exact sound.once lasting i j a b apart (getElem?_of_set (accepts a) found)
      (getElem?_of_set (accepts b) found')

/-- A call that is still under way at a reading a TTL later guards an accepted one. -/
theorem guarded_by_busy (flying' : new.busy = some now) {a : Time}
    (later : a + ttl ≤ now) : Guarded ttl ⟨k.views.set t new, expiry⟩ a := by
  have busy : new.busy.isSome = true := by
    rw [flying']
    rfl
  right
  refine ⟨?_, .inr ⟨new, List.mem_set (List.getElem?_eq_some_iff.mp current).1 new, busy⟩⟩
  intro view member reading flying''
  have only := busy_of_set sound current flying member (by rw [flying'']; rfl)
  rw [only, flying'] at flying''
  cases flying''
  exact later

/-- A call that goes on to the next stage at a reading a TTL after every accepted one. -/
theorem Sound.advanced (flying' : new.busy = some now)
    (cleared : ∀ reading, new = .clearing reading → expiry = none)
    (later : 0 ≤ ttl → ∀ a, .accepted a ∈ k.views → a + ttl ≤ now) :
    Sound ttl ⟨k.views.set t new, expiry⟩ := by
  refine sound.moved current flying ?_ ?_ cleared
    (fun lasting a member _ _ => later lasting a member)
    (fun lasting a member =>
      guarded_by_busy sound current flying flying' (later lasting a member)) ?_
  · intro reading busy
    exact Option.some.inj (busy.symm.trans flying')
  · rintro reading doomed rfl
    cases flying'
  · rintro a rfl
    cases flying'

end Moved

variable {t : Nat}

section

variable (sound : Sound ttl k) {e : Time}

include sound

section

variable (current : k.views[t]? = some (.loading now))

include current

theorem Sound.refused (stored : k.expiry = some e) (alive : now < e) :
    Sound ttl ⟨k.views.set t .elsewhere, k.expiry⟩ := by
  apply sound.moved current rfl
  case guarded =>
    intro lasting a member
    rcases sound.guarded lasting a member with covered | ⟨late, _⟩
    · exact .inl covered
    · have later := late _ (List.mem_of_getElem? current) now rfl
      exact .inl ⟨e, stored, Int.le_of_lt (Int.lt_of_le_of_lt later alive)⟩
  all_goals simp [View.busy]

theorem Sound.outdated (stored : k.expiry = some e) (expired : e ≤ now) :
    Sound ttl ⟨k.views.set t (.dropping now), k.expiry⟩ := by
  refine sound.advanced current rfl rfl (by simp) fun lasting a member => ?_
  rcases sound.guarded lasting a member with ⟨e', stored', covered⟩ | ⟨late, _⟩
  · rw [stored] at stored'
    cases stored'
    exact Int.le_trans covered expired
  · exact late _ (List.mem_of_getElem? current) now rfl

theorem Sound.missed (absent : k.expiry = none) :
    Sound ttl ⟨k.views.set t (.clearing now), k.expiry⟩ := by
  refine sound.advanced current rfl rfl (fun _ _ => absent) fun lasting a member => ?_
  rcases sound.guarded lasting a member with ⟨e, stored, _⟩ | ⟨late, _⟩
  · rw [absent] at stored
    cases stored
  · exact late _ (List.mem_of_getElem? current) now rfl

end

theorem Sound.dropped (current : k.views[t]? = some (.dropping now)) :
    Sound ttl ⟨k.views.set t (.clearing now), none⟩ := by
  refine sound.advanced current rfl rfl (fun _ _ => rfl) fun lasting a member => ?_
  exact sound.passed lasting now a (.inl (List.mem_of_getElem? current)) member

/-- The call stores its reading: every accepted one is now covered by the new expiry. -/
theorem Sound.stored (current : k.views[t]? = some (.clearing now)) :
    Sound ttl ⟨k.views.set t (.accepted now), some (now + ttl)⟩ := by
  have idle : ∀ other ∈ k.views.set t (.accepted now), other.busy = none := by
    intro other member
    by_contra flying
    have only := busy_of_set sound current rfl member (Option.isSome_iff_ne_none.mpr flying)
    rw [only] at flying
    exact flying rfl
  have later : 0 ≤ ttl → ∀ a, .accepted a ∈ k.views → a + ttl ≤ now := by
    intro lasting a member
    exact sound.passed lasting now a (.inr (List.mem_of_getElem? current)) member
  apply sound_of_idle idle
  case doomed =>
    intro reading member
    exact absurd (mem_of_set (by simp) member) (not_doomed sound current rfl reading)
  case guarded =>
    intro lasting a member
    refine .inl ⟨now + ttl, rfl, ?_⟩
    rcases List.mem_or_eq_of_mem_set member with stayed | equal
    · exact Int.le_trans (later lasting a stayed) (Int.le_add_of_nonneg_right lasting)
    · cases equal
      exact Int.le_refl _
  case once =>
    intro lasting i j a b apart found found'
    rcases getElem?_set_cases found with ⟨here, equal⟩ | ⟨_, stayed⟩
    · cases equal
      rcases getElem?_set_cases found' with ⟨here', _⟩ | ⟨_, stayed'⟩
      · exact absurd (here.trans here'.symm) apart
      · exact .inr (later lasting b (List.mem_of_getElem? stayed'))
    · rcases getElem?_set_cases found' with ⟨_, equal⟩ | ⟨_, stayed'⟩
      · cases equal
        exact .inl (later lasting a (List.mem_of_getElem? stayed))
      · exact sound.once lasting i j a b apart stayed stayed'

/-- A sweep moves on while no call for the nonce is under way. -/
theorem Sound.swung {before after : Bool} (current : k.views[t]? = some (.sweeping now before))
    (quiet : ∀ view ∈ k.views, view.busy = none)
    (doomed : ∀ reading, .sweeping reading true ∈ k.views.set t (.sweeping now after) →
      ∀ e, expiry = some e → e ≤ reading)
    (covered : ∀ a e, k.expiry = some e → a + ttl ≤ e → expiry = some e ∨ a + ttl ≤ now) :
    Sound ttl ⟨k.views.set t (.sweeping now after), expiry⟩ := by
  have idle : ∀ view ∈ k.views.set t (.sweeping now after), view.busy = none :=
    forall_mem_set quiet rfl
  have self : .sweeping now after ∈ k.views.set t (.sweeping now after) :=
    List.mem_set (List.getElem?_eq_some_iff.mp current).1 _
  apply sound_of_idle idle doomed
  case guarded =>
    intro lasting a member
    have late : ∀ view ∈ k.views.set t (.sweeping now after), ∀ reading,
        view.busy = some reading → a + ttl ≤ reading := by
      intro view member' reading flying
      rw [idle view member'] at flying
      cases flying
    rcases sound.guarded lasting a (mem_of_set (by simp) member) with
      ⟨e, stored, inside⟩ | ⟨_, since⟩
    · rcases covered a e stored inside with kept | later
      · exact .inl ⟨e, kept, inside⟩
      · exact .inr ⟨late, .inl ⟨now, after, self, later⟩⟩
    · refine .inr ⟨late, .inl ?_⟩
      rcases since with ⟨reading, doomed', sweeping, later⟩ | ⟨view, member', flying⟩
      · rcases mem_set_or_eq (.sweeping now after) current sweeping with stayed | equal
        · exact ⟨reading, doomed', stayed, later⟩
        · cases equal
          exact ⟨now, after, self, later⟩
      · rw [quiet view member'] at flying
        cases flying
  case once =>
    intro lasting i j a b apart found found'
    exact sound.once lasting i j a b apart (getElem?_of_set (by simp) found)
      (getElem?_of_set (by simp) found')

theorem Sound.step {k' : Track} (step : Step ttl k k') :
    Sound ttl k' := by
  cases step with
  | same => exact sound
  | entered idle => exact sound.entered idle
  | began admitted => exact sound.began admitted
  | refused current stored alive => exact sound.refused current stored alive
  | outdated current stored expired => exact sound.outdated current stored expired
  | missed current absent => exact sound.missed current absent
  | dropped current => exact sound.dropped current
  | stored current => exact sound.stored current
  | @condemned t now e doomed current stored expired quiet =>
    refine sound.swung current quiet ?_ (fun a e' found _ => .inl found)
    intro reading member e' found
    rcases List.mem_or_eq_of_mem_set member with stayed | equal
    · exact sound.doomed reading stayed e' found
    · cases equal
      rw [stored] at found
      cases found
      exact expired
  | @swept t now doomed current =>
    have doomedHere := List.mem_of_getElem? current
    refine sound.swung current (sound.spared now doomedHere) (fun _ _ e found => nomatch found) ?_
    intro a e stored inside
    exact .inr (Int.le_trans inside (sound.doomed now doomedHere e stored))

end

end Track

/-! The threads of the cache seen from one nonce, and the calls kept apart. -/

def Progress.view (now : Time) : Progress → View
  | .load => .loading now
  | .drop => .dropping now
  | .uncount => .clearing now
  | .count => .clearing now
  | .store => .clearing now
  | .returned true => .accepted now
  | .returned false => .elsewhere

def Thread.view (n : String) : Thread → View
  | .check nonce now progress => if nonce = n then progress.view now else .elsewhere
  | .sweep now _ expired _ _ => .sweeping now (decide (n ∈ expired))

def CacheSys.track (n : String) (s : CacheSys) : Track :=
  ⟨s.threads.map (Thread.view n), (s.cache.entries.get? n).map Entry.expiry⟩

/-- The map is not full when an entry is counted. -/
def belowCapacity (s : CacheSys) : CacheAction → Bool
  | .count _ _ => decide (s.cache.size < s.cache.cap)
  | _ => true

/-- The sweep at a place finds the entry of the nonce alive. -/
def spares (s : CacheSys) (t : Nat) (n : String) : Bool :=
  match s.threads[t]?, s.cache.entries.get? n with
  | some (.sweep now _ _ _ _), some e => decide (now < e.expiry)
  | _, _ => false

/-- Calls for the nonce are kept apart: a call starts when no other is under way, no sweep
is about to delete the nonce and none has a later reading; and no sweep finds the nonce
expired while a call for it is under way. -/
def apart (n : String) (s : CacheSys) : CacheAction → Bool
  | .checkAndInsert nonce now =>
    decide (nonce ≠ n) || s.threads.all (fun thread => (thread.view n).admits now)
  | .observe t nonce =>
    decide (nonce ≠ n) || s.threads.all (fun thread => (thread.view n).busy.isNone) || spares s t n
  | _ => true

/-- The calls for every nonce are kept apart; only the nonce an action names matters. -/
def allApart (s : CacheSys) : CacheAction → Bool
  | .checkAndInsert nonce now => decide (nonce = "") || apart nonce s (.checkAndInsert nonce now)
  | .observe t nonce => apart nonce s (.observe t nonce)
  | _ => true

section Simulation

variable {s s' : CacheSys} {a : CacheAction} {n : String} {ttl now : Time} {t : Nat}

theorem view_at {thread : Thread} (current : s.threads[t]? = some thread) :
    (s.track n).views[t]? = some (thread.view n) := by
  simp only [CacheSys.track, List.getElem?_map, current, Option.map_some]

theorem view_check {progress : Progress} (current : s.threads[t]? = some (.check n now progress)) :
    (s.track n).views[t]? = some (progress.view now) := by
  simp only [view_at current, Thread.view, if_true]

theorem track_move (t : Nat) (thread : Thread) (cache : ReplayCache) :
    (s.move t thread cache).track n =
      ⟨(s.track n).views.set t (thread.view n), (cache.entries.get? n).map Entry.expiry⟩ := by
  simp only [CacheSys.track, CacheSys.move, List.map_set]

theorem track_start (thread : Thread) :
    CacheSys.track n { s with threads := s.threads ++ [thread] } =
      ⟨(s.track n).views ++ [thread.view n], (s.track n).expiry⟩ := by
  simp only [CacheSys.track, List.map_append, List.map_cons, List.map_nil]

/-- A move that neither the view nor the stored expiry shows. -/
theorem track_unseen {old new : Thread} {cache : ReplayCache}
    (current : s.threads[t]? = some old) (unseen : new.view n = old.view n)
    (kept : cache.entries.get? n = s.cache.entries.get? n) :
    Track.Step ttl (s.track n) ((s.move t new cache).track n) := by
  have same : (s.move t new cache).track n = s.track n := by
    obtain ⟨inside, found⟩ := List.getElem?_eq_some_iff.mp (view_at (n := n) current)
    rw [track_move, kept, unseen, ← found, List.set_getElem_self]
    rfl
  rw [same]
  exact .same

theorem track_loaded (current : s.threads[t]? = some (.check n now .load)) :
    Track.Step ttl (s.track n)
      ((s.move t (.check n now (s.cache.afterLoad n now)) s.cache).track n) := by
  have loading : (s.track n).views[t]? = some (.loading now) := view_check current
  rw [track_move]
  unfold ReplayCache.afterLoad
  cases present : s.cache.entries.get? n with
  | none =>
    have absent : (s.track n).expiry = none := by simp [CacheSys.track, present]
    have missed : Track.Step ttl (s.track n) _ := .missed loading absent
    rw [absent] at missed
    simpa [Thread.view, Progress.view] using missed
  | some e =>
    have stored : (s.track n).expiry = some e.expiry := by simp [CacheSys.track, present]
    by_cases alive : now < e.expiry
    · have refused : Track.Step ttl (s.track n) _ := .refused loading stored alive
      rw [stored] at refused
      simpa [Thread.view, Progress.view, alive] using refused
    · have outdated : Track.Step ttl (s.track n) _ :=
        .outdated loading stored (Int.not_lt.mp alive)
      rw [stored] at outdated
      simpa [Thread.view, Progress.view, alive] using outdated

/-- A sweep that finds the nonce expired meets no call for it. -/
theorem track_observed {evicted : Nat} {visited expired : List String}
    {uncounting : Bool} {e : Entry} (separate : apart n s (.observe t n) = true)
    (current : s.threads[t]? = some (.sweep now visited expired uncounting evicted))
    (found : s.cache.entries.get? n = some e) :
    Track.Step ttl (s.track n)
      ((s.move t (.sweep now (n :: visited) (if now < e.expiry then expired else expired ++ [n])
        uncounting evicted) s.cache).track n) := by
  by_cases alive : now < e.expiry
  · rw [if_pos alive]
    exact track_unseen current rfl rfl
  · rw [if_neg alive, track_move]
    have stored : (s.track n).expiry = some e.expiry := by simp [CacheSys.track, found]
    have quiet : ∀ view ∈ (s.track n).views, view.busy = none := by
      simp only [apart, spares, current, found, alive, ne_eq, not_true_eq_false, decide_false,
        Bool.false_or, Bool.or_false, List.all_eq_true, Option.isNone_iff_eq_none] at separate
      intro view member
      obtain ⟨thread, member', rfl⟩ := List.mem_map.mp member
      exact separate thread member'
    have condemned : Track.Step ttl (s.track n) _ :=
      .condemned (view_at current) stored (Int.not_lt.mp alive) quiet
    rw [stored] at condemned
    simpa [Thread.view, found] using condemned

/-- Every step of the cache below capacity is a step of the nonce's track, when its calls
are kept apart. -/
theorem track_step (named : n ≠ "") (below : belowCapacity s a = true)
    (separate : apart n s a = true) (effect : Effect s a s') :
    Track.Step s.cache.ttl (s.track n) (s'.track n) := by
  cases effect with
  | @started nonce now =>
    rw [track_start]
    by_cases same : nonce = n
    · subst same
      rw [if_neg named]
      simp only [Thread.view, if_true, Progress.view]
      apply Track.Step.began
      intro view member
      obtain ⟨thread, member', rfl⟩ := List.mem_map.mp member
      simp only [apart, ne_eq, not_true_eq_false, decide_false, Bool.false_or,
        List.all_eq_true] at separate
      exact separate thread member'
    · apply Track.Step.entered
      simp [Thread.view, same]
  | sweepStarted =>
    rw [track_start]
    apply Track.Step.entered
    simp [Thread.view]
  | @loaded t nonce now current =>
    by_cases same : nonce = n
    · subst same
      exact track_loaded current
    · apply track_unseen current _ rfl
      simp [Thread.view, same]
  | @dropped t nonce now current =>
    by_cases same : nonce = n
    · subst same
      rw [track_move, get?_drop_self]
      have dropped : Track.Step s.cache.ttl (s.track nonce) _ := .dropped (view_check current)
      split <;> simpa [Thread.view, Progress.view] using dropped
    · apply track_unseen current _ (get?_drop_ne same)
      simp [Thread.view, same]
  | @swept t evicted nonce now visited expired current =>
    by_cases same : nonce = n
    · subst same
      have doomed : (s.track nonce).views[t]? = some (.sweeping now true) := by
        rw [view_at current]
        simp [Thread.view]
      rw [track_move, get?_drop_self]
      exact Track.Step.swept doomed
    · apply track_unseen current _ (get?_drop_ne same)
      have other : ¬ n = nonce := fun equal => same equal.symm
      simp [Thread.view, other]
  | @uncounted t nonce now current =>
    apply track_unseen current
    · simp [Thread.view, Progress.view]
    · rw [uncount_entries]
  | sweepUncounted current =>
    apply track_unseen current
    · rfl
    · rw [uncount_entries]
  | counted current made =>
    rw [count_below (of_decide_eq_true below) made]
    apply track_unseen current _ rfl
    simp [Thread.view, Progress.view]
  | @stored t nonce now current =>
    by_cases same : nonce = n
    · subst same
      have stored : Track.Step s.cache.ttl (s.track nonce) _ := .stored (view_check current)
      rw [track_move]
      simpa [Thread.view, Progress.view, ReplayCache.store, Table.get?_upsert] using stored
    · apply track_unseen current
      · simp [Thread.view, same]
      · have other : ¬ n = nonce := fun equal => same equal.symm
        simp [ReplayCache.store, Table.get?_upsert, other]
  | @observed t evicted nonce now visited expired uncounting e current found =>
    by_cases same : nonce = n
    · subst same
      exact track_observed separate current found
    · apply track_unseen current _ rfl
      have other : ¬ n = nonce := fun equal => same equal.symm
      split <;> simp [Thread.view, other]

theorem apart_of_allApart (named : n ≠ "") (separate : allApart s a = true) :
    apart n s a = true := by
  cases a with
  | checkAndInsert nonce now =>
    by_cases same : nonce = n
    · subst same
      simpa [allApart, named] using separate
    · simp [apart, same]
  | observe t nonce =>
    by_cases same : nonce = n
    · subst same
      exact separate
    · simp [apart, same]
  | _ => rfl

theorem step_ttl (effect : Effect s a s') : s'.cache.ttl = s.cache.ttl := by
  cases effect with
  | counted current made =>
    unfold ReplayCache.count at made
    split at made
    · obtain ⟨evicted, chosen, rfl⟩ := Option.map_eq_some_iff.mp made
      unfold ReplayCache.evictOldest at chosen
      split at chosen
      · cases chosen
        rfl
      · obtain ⟨oldest, _, chosen⟩ := Option.bind_eq_some_iff.mp chosen
        obtain ⟨-, ⟨⟩⟩ := of_then chosen (by simp)
        exact uncount_ttl _
    · cases made
      rfl
  | uncounted => exact uncount_ttl _
  | sweepUncounted => exact uncount_ttl _
  | _ => rfl

end Simulation

end Certctl.Source.Scep

import Certctl.Source.Scep.IntuneDispatch

/-!
The per-device limiter over whole runs. The bucket key joins subject and issuer with a bar
that either may contain, so two devices can share a bucket and use up each other's budget.
Keys are the same only for devices that differ by a bar moved across. While the map is below
its capacity, calls under other keys do not change the answers.
-/
namespace Certctl.Guarantees.DeviceLimiter

open Lib Source Source.RateLimit Source.Scep

abbrev Device := String × String

def bucketKey (d : Device) : String := d.1 ++ "|" ++ d.2

/-- A bar of one device's subject stands in the other's issuer. -/
def BarMoved (d e : Device) : Prop :=
  ∃ t : String, (d.1 = e.1 ++ "|" ++ t ∧ e.2 = t ++ "|" ++ d.2) ∨
    (e.1 = d.1 ++ "|" ++ t ∧ d.2 = t ++ "|" ++ e.2)

theorem bucketKey_eq_iff {d e : Device} : bucketKey d = bucketKey e ↔ d = e ∨ BarMoved d e := by
  have split : bucketKey d = bucketKey e ↔
      d.1.toList ++ '|' :: d.2.toList = e.1.toList ++ '|' :: e.2.toList := by
    simp [bucketKey, ← String.toList_inj]
  rw [split, append_cons_eq_append_cons, Prod.ext_iff, ← String.toList_inj,
    ← String.toList_inj, BarMoved]
  refine or_congr_right ⟨?_, ?_⟩
  · rintro ⟨t, moved⟩
    exact ⟨String.ofList t, by simpa [← String.toList_inj] using moved⟩
  · rintro ⟨t, moved⟩
    exact ⟨t.toList, by simpa [← String.toList_inj] using moved⟩

structure DeviceCall where
  device : Device
  now : Time
  order : List Bucket

def DeviceCall.allow (c : DeviceCall) (l : SlidingWindowLimiter) :
    SlidingWindowLimiter × Option LimiterError :=
  perDeviceAllow l c.device.1 c.device.2 c.now c.order

/-- The answers a device gets in a run. -/
def answersTo (d : Device) (l : SlidingWindowLimiter) :
    List DeviceCall → List (Option LimiterError)
  | [] => []
  | c :: rest =>
    if c.device = d then (c.allow l).2 :: answersTo d (c.allow l).1 rest
    else answersTo d (c.allow l).1 rest

/-- Every call of the run finds the map below its capacity. -/
def BelowCapacity (l : SlidingWindowLimiter) : List DeviceCall → Prop
  | [] => True
  | c :: rest => (l.buckets.rows.length : Int) < l.cap ∧ BelowCapacity (c.allow l).1 rest

/-- The limiters treat the key alike. -/
structure Alike (key : String) (l l' : SlidingWindowLimiter) : Prop where
  maxN : l'.maxN = l.maxN
  window : l'.window = l.window
  disabled : l'.disabled = l.disabled
  bucket : bucketOf l'.buckets key = bucketOf l.buckets key

variable {key : String} {l l' : SlidingWindowLimiter}

theorem afterEviction_below (below : (l.buckets.rows.length : Int) < l.cap) (order : List Bucket) :
    l.afterEviction order = l.buckets :=
  if_neg (Int.not_le.mpr below)

theorem Alike.allow (alike : Alike key l l') (below : (l.buckets.rows.length : Int) < l.cap)
    (below' : (l'.buckets.rows.length : Int) < l'.cap) (now : Time) (order : List Bucket) :
    (l'.allow key now order).2 = (l.allow key now order).2 ∧
      Alike key (l.allow key now order).1 (l'.allow key now order).1 := by
  simp only [SlidingWindowLimiter.allow, alike.maxN, alike.window, alike.disabled, alike.bucket,
    afterEviction_below below, afterEviction_below below']
  split
  · exact ⟨rfl, alike⟩
  split
  · exact ⟨rfl, alike⟩
  split
  · exact ⟨rfl, rfl, rfl, rfl, by simp [bucketOf_upsert]⟩
  · exact ⟨rfl, rfl, rfl, rfl, by simp [bucketOf_upsert]⟩

theorem Alike.other (alike : Alike key l l') (below : (l.buckets.rows.length : Int) < l.cap)
    {other : String} (apart : other ≠ key) (now : Time) (order : List Bucket) :
    Alike key (l.allow other now order).1 l' := by
  have config := allow_config l other now order
  refine ⟨alike.maxN.trans config.1.symm, alike.window.trans config.2.1.symm,
    alike.disabled.trans config.2.2.2.symm, alike.bucket.trans ?_⟩
  have effect := allow_effect l other now order
  generalize l.allow other now order = result at effect
  cases effect with
  | skipped => rfl
  | rejected | recorded =>
    rw [afterEviction_below below, bucketOf_upsert, if_neg (Ne.symm apart)]

theorem answersTo_alike {d e : Device} (named : d.1 ≠ "") (apart : bucketKey e ≠ bucketKey d)
    {calls : List DeviceCall} (two : ∀ c ∈ calls, c.device = d ∨ c.device = e)
    (alike : Alike (bucketKey d) l l') (below : BelowCapacity l calls)
    (below' : BelowCapacity l' (calls.filter (fun c => c.device = d))) :
    answersTo d l calls = answersTo d l' (calls.filter (fun c => c.device = d)) := by
  induction calls generalizing l l' with
  | nil => rfl
  | cons c rest ih =>
    obtain ⟨here, later⟩ := List.forall_mem_cons.mp two
    by_cases own : c.device = d
    · rw [List.filter_cons_of_pos (by simpa using own)] at below' ⊢
      have keyed : ∀ l, c.allow l = l.allow (bucketKey d) c.now c.order := by
        intro l
        rw [DeviceCall.allow, own, perDeviceAllow, if_neg named]
        rfl
      obtain ⟨same, after⟩ := alike.allow below.1 below'.1 c.now c.order
      rw [← keyed, ← keyed] at same after
      rw [answersTo, answersTo, if_pos own, if_pos own, same, ih later after below.2 below'.2]
    · rw [List.filter_cons_of_neg (by simpa using own)] at below' ⊢
      have after : Alike (bucketKey d) (c.allow l).1 l' := by
        rw [DeviceCall.allow, here.resolve_left own, perDeviceAllow]
        split
        · exact alike
        · exact alike.other below.1 apart c.now c.order
      rw [answersTo, if_neg own, ih later after below.2 below']

/-- In every run of calls of the two devices below the map's capacity, the first is answered
as if it were alone. -/
def Independent (d e : Device) : Prop :=
  ∀ (l : SlidingWindowLimiter) (calls : List DeviceCall),
    (∀ c ∈ calls, c.device = d ∨ c.device = e) → BelowCapacity l calls →
    BelowCapacity l (calls.filter (fun c => c.device = d)) →
    answersTo d l calls = answersTo d l (calls.filter (fun c => c.device = d))

/-- One call an hour, for a thousand devices. -/
def sampleLimiter : SlidingWindowLimiter := newSlidingWindowLimiter 1 hour 1000

/-- The second device calls, then the first. -/
def crossing (d e : Device) : List DeviceCall := [⟨e, 0, []⟩, ⟨d, 1, []⟩]

/-- What the first call leaves. -/
def calledOnce (key : String) (now : Time) : SlidingWindowLimiter :=
  { sampleLimiter with buckets := (Table.empty Bucket.key).upsert ⟨key, [now]⟩ }

theorem allow_first (named : key ≠ "") (now : Time) :
    sampleLimiter.allow key now [] = (calledOnce key now, none) := by
  have enabled : sampleLimiter.disabled = false := rfl
  have empty : sampleLimiter.afterEviction [] = Table.empty Bucket.key := rfl
  have unused : bucketOf (Table.empty Bucket.key) key = [] := rfl
  have budget : sampleLimiter.maxN = 1 := rfl
  simp [SlidingWindowLimiter.allow, calledOnce, enabled, named, empty, unused, budget,
    pruneOlderThan]

theorem calledOnce_below (key : String) (now : Time) :
    ((calledOnce key now).buckets.rows.length : Int) < (calledOnce key now).cap := by
  have one : (calledOnce key now).buckets.rows.length = 1 := Table.length_upsert _ _
  have capacity : (calledOnce key now).cap = 1000 := rfl
  rw [one, capacity]
  decide

/-- A second call a nanosecond later is turned away. -/
theorem allow_second (named : key ≠ "") :
    ((calledOnce key 0).allow key 1 []).2 = some .errRateLimited := by
  have enabled : (calledOnce key 0).disabled = false := rfl
  have window : (calledOnce key 0).window = hour := rfl
  have recent : pruneOlderThan [0] (1 - hour) = [0] := by decide
  have budget : (calledOnce key 0).maxN = 1 := rfl
  have used : bucketOf (calledOnce key 0).buckets key = [0] := by
    rw [calledOnce, bucketOf_upsert, if_pos rfl]
  simp [SlidingWindowLimiter.allow, enabled, named, afterEviction_below (calledOnce_below key 0),
    used, window, recent, budget]

/-- Devices that share a key disturb each other. -/
theorem not_independent_of_key {d e : Device} (named : d.1 ≠ "") (named' : e.1 ≠ "")
    (distinct : d ≠ e) (same : bucketKey d = bucketKey e) : ¬ Independent d e := by
  intro independent
  have keyed : bucketKey d ≠ "" := by simp [bucketKey]
  have first : DeviceCall.allow ⟨e, 0, []⟩ sampleLimiter = (calledOnce (bucketKey d) 0, none) := by
    rw [DeviceCall.allow, perDeviceAllow, if_neg named', ← allow_first keyed, same]
    rfl
  have second : ∀ l, DeviceCall.allow ⟨d, 1, []⟩ l = l.allow (bucketKey d) 1 [] := by
    intro l
    rw [DeviceCall.allow, perDeviceAllow, if_neg named]
    rfl
  have alone : (crossing d e).filter (fun c => c.device = d) = [⟨d, 1, []⟩] := by
    simp [crossing, Ne.symm distinct]
  have below : BelowCapacity sampleLimiter (crossing d e) := by
    refine ⟨by decide, ?_, trivial⟩
    rw [first]
    exact calledOnce_below _ 0
  have answered := independent sampleLimiter (crossing d e) (by simp [crossing]) below
    (alone ▸ ⟨by decide, trivial⟩)
  simp [crossing, answersTo, Ne.symm distinct, first, second, allow_second keyed,
    allow_first keyed] at answered

/-- Two devices are independent of each other unless a bar has moved across. -/
theorem independent_iff_not_barMoved {d e : Device} (named : d.1 ≠ "") (named' : e.1 ≠ "")
    (distinct : d ≠ e) : Independent d e ↔ ¬ BarMoved d e := by
  constructor
  · intro independent moved
    exact not_independent_of_key named named' distinct (bucketKey_eq_iff.mpr (.inr moved))
      independent
  · intro still l calls two below below'
    have apart : bucketKey e ≠ bucketKey d := fun same =>
      (bucketKey_eq_iff.mp same.symm).elim distinct still
    exact answersTo_alike named apart two ⟨rfl, rfl, rfl, rfl⟩ below below'

theorem independent_plain : Independent ("a", "c") ("b", "c") :=
  (independent_iff_not_barMoved (by decide) (by decide) (by decide)).mpr (by
    rintro ⟨t, ⟨same, -⟩ | ⟨same, -⟩⟩
    · exact absurd (congrArg (·.toList.head?) same) (by simp)
    · exact absurd (congrArg (·.toList.head?) same) (by simp))

/-- The bar moves from the subject into the issuer: the first device is turned away for the
call of the second. -/
theorem answers_disturbed_bar :
    BelowCapacity sampleLimiter (crossing ("a|b", "c") ("a", "b|c")) ∧
      (("a|b", "c") : Device) ≠ ("a", "b|c") ∧
      answersTo ("a|b", "c") sampleLimiter (crossing ("a|b", "c") ("a", "b|c")) =
        [some .errRateLimited] ∧
      answersTo ("a|b", "c") sampleLimiter [⟨("a|b", "c"), 1, []⟩] = [none] :=
  ⟨⟨by decide, by decide, trivial⟩, by decide +kernel⟩

end Certctl.Guarantees.DeviceLimiter

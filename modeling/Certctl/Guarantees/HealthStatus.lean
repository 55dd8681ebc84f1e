import Certctl.Source.HealthCheck

/-!
The status of an endpoint against its failures in a row. The count is advanced by the service
and once more by the domain function, so that both thresholds take effect one failure early.
-/
namespace Certctl.Guarantees.HealthStatus

open Source

/-- The most recent probes in a row that failed. -/
def failuresInRow (probes : List ProbeResult) : Nat :=
  (probes.reverse.takeWhile fun probe => !probe.success).length

/-- The status says how many of the latest probes in a row have failed; after a success none
has. -/
def Follows (h : EndpointHealthCheck) (probes : List ProbeResult) : Prop :=
  (h.status = .down ↔ h.downThreshold ≤ failuresInRow probes) ∧
  (h.status = .degraded ↔
    h.degradedThreshold ≤ failuresInRow probes ∧ failuresInRow probes < h.downThreshold)

/-- What the row of an endpoint holds after `probes`. -/
structure Counted (h h' : EndpointHealthCheck) (probes : List ProbeResult) : Prop where
  count : h'.consecutiveFailures = failuresInRow probes
  thresholds : h'.degradedThreshold = h.degradedThreshold ∧ h'.downThreshold = h.downThreshold
  down : h'.status = .down ↔ failuresInRow probes ≠ 0 ∧ h.downThreshold ≤ failuresInRow probes + 1
  degraded : h'.status = .degraded ↔ failuresInRow probes ≠ 0 ∧
    h.degradedThreshold ≤ failuresInRow probes + 1 ∧ failuresInRow probes + 1 < h.downThreshold

variable {h h' : EndpointHealthCheck} {probes : List ProbeResult}

theorem process_status (h : EndpointHealthCheck) (probe : ProbeResult) :
    (h.process probe).status =
      ((h.record probe).transitionStatus probe.success probe.fingerprint).1 := by
  unfold EndpointHealthCheck.process
  dsimp only
  split
  · rfl
  next same => exact (of_not_not fun other => same (decide_eq_true other)).symm

theorem process_frame (h : EndpointHealthCheck) (probe : ProbeResult) :
    (h.process probe).id = h.id ∧
      (h.process probe).consecutiveFailures = (h.record probe).consecutiveFailures ∧
      (h.process probe).degradedThreshold = h.degradedThreshold ∧
      (h.process probe).downThreshold = h.downThreshold := by
  unfold EndpointHealthCheck.process EndpointHealthCheck.record
  grind

theorem failuresInRow_snoc (probes : List ProbeResult) (probe : ProbeResult) :
    failuresInRow (probes ++ [probe]) = if probe.success then 0 else failuresInRow probes + 1 := by
  cases outcome : probe.success <;> simp [failuresInRow, outcome]

/-- A success clears the count and a failure advances it; below the thresholds the status stays
what it was. -/
theorem Counted.process (counted : Counted h h' probes) (probe : ProbeResult) :
    Counted h (h'.process probe) (probes ++ [probe]) := by
  obtain ⟨count, ⟨lower, upper⟩, down, degraded⟩ := counted
  obtain ⟨-, failures, lower', upper'⟩ := process_frame h' probe
  have status := process_status h' probe
  simp only [EndpointHealthCheck.transitionStatus, EndpointHealthCheck.record] at status failures
  have count' := failuresInRow_snoc probes probe
  constructor <;> grind

theorem Counted.run (counted : Counted h h' probes) (more : List ProbeResult) :
    Counted h (more.foldl EndpointHealthCheck.process h') (probes ++ more) := by
  induction more generalizing h' probes with
  | nil => simpa using counted
  | cons probe more ih => simpa using ih (counted.process probe)

/-- In a sequence of runs each endpoint goes through its own probes. -/
theorem runs_eq (checks : List EndpointHealthCheck) (rounds : List (String → Option ProbeResult)) :
    rounds.foldl runHealthChecks checks =
      checks.map fun h => (rounds.filterMap (· h.id)).foldl EndpointHealthCheck.process h := by
  induction rounds generalizing checks with
  | nil => simp
  | cons results rounds ih =>
    rw [List.foldl_cons, ih, runHealthChecks, List.map_map]
    refine List.map_congr_left fun h _ => ?_
    cases probed : results h.id with
    | none => simp [probed]
    | some probe => simp [probed, (process_frame h probe).1]

/-- The status follows the failures in a row exactly when there are none, or not one less than
either threshold. -/
theorem status_follows_iff (checks : List EndpointHealthCheck)
    (rounds : List (String → Option ProbeResult)) {i : Nat} (stored : checks[i]? = some h)
    (fresh : h.consecutiveFailures = 0 ∧ (h.status = .unknown ∨ h.status = .healthy))
    (ordered : 1 ≤ h.degradedThreshold ∧ h.degradedThreshold ≤ h.downThreshold)
    (after : (rounds.foldl runHealthChecks checks)[i]? = some h')
    (probed : rounds.filterMap (· h.id) = probes) :
    Follows h' probes ↔ failuresInRow probes = 0 ∨
      failuresInRow probes + 1 ≠ h.degradedThreshold ∧
        failuresInRow probes + 1 ≠ h.downThreshold := by
  rw [runs_eq, List.getElem?_map, stored, Option.map_some, probed, Option.some.injEq] at after
  have none : failuresInRow [] = 0 := rfl
  have begun : Counted h h [] := by constructor <;> grind
  obtain ⟨-, ⟨lower, upper⟩, down, degraded⟩ := after ▸ begun.run probes
  rw [List.nil_append] at down degraded
  rw [Follows, lower, upper, down, degraded]
  omega

/-- An endpoint, and a run in which its probe succeeds or fails. -/
def endpoint (degraded down : Nat) : EndpointHealthCheck :=
  ⟨"hc-1", "", "", .unknown, 0, "", degraded, down, false⟩

def probe (success : Bool) : ProbeResult :=
  ⟨success, "", if success then "" else "connection refused"⟩

def probing (success : Bool) : String → Option ProbeResult := fun _ => some (probe success)

/-- A success starts the count anew, so two of the three failures count. -/
theorem degraded_after_reset :
    ∃ h', ([false, true, false, false].foldl (fun checks success =>
        runHealthChecks checks (probing success)) [endpoint 2 5])[0]? = some h' ∧
      h'.status = .degraded ∧ Follows h' [probe false, probe true, probe false, probe false] :=
  ⟨_, rfl, rfl, (status_follows_iff [endpoint 2 5]
    [probing false, probing true, probing false, probing false] (i := 0) rfl (by decide)
    (by decide) rfl rfl).mpr (by decide)⟩

/-- One failure makes the endpoint degraded, with a threshold of two. -/
theorem degraded_too_soon : ∃ h', (runHealthChecks [endpoint 2 5] (probing false))[0]? = some h' ∧
    h'.status = .degraded ∧ ¬ Follows h' [probe false] :=
  ⟨_, rfl, rfl, by unfold Follows; decide⟩

end Certctl.Guarantees.HealthStatus

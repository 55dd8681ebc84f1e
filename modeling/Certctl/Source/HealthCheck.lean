import Mathlib.Data.List.Basic

/-!
The health of TLS endpoints. `RunHealthChecks` counts the failures of an endpoint in a row, and
`TransitionStatus` reads the count after it has been advanced as if it had not been.

Source: internal/domain/health_check.go; internal/service/health_check.go;
internal/tlsprobe/probe.go.
-/
namespace Certctl.Source

inductive HealthStatus where
  | healthy | degraded | down | certMismatch | unknown
  deriving DecidableEq

structure EndpointHealthCheck where
  id : String
  expectedFingerprint : String
  observedFingerprint : String
  status : HealthStatus
  consecutiveFailures : Nat
  failureReason : String
  degradedThreshold : Nat
  downThreshold : Nat
  acknowledged : Bool

structure ProbeResult where
  success : Bool
  fingerprint : String
  error : String

namespace EndpointHealthCheck

/-- The new status, and whether it is another than before. -/
def transitionStatus (h : EndpointHealthCheck) (probeSuccess : Bool)
    (observedFingerprint : String) : HealthStatus × Bool :=
  let newStatus :=
    if probeSuccess then
      if h.expectedFingerprint ≠ "" ∧ observedFingerprint ≠ h.expectedFingerprint then .certMismatch
      else .healthy
    else
      let failures := h.consecutiveFailures + 1
      if failures ≥ h.downThreshold then .down
      else if failures ≥ h.degradedThreshold then .degraded
      else if h.status = .unknown ∨ h.status = .healthy then .healthy
      else h.status
  (newStatus, decide (newStatus ≠ h.status))

/-- The fields that depend on the outcome alone. -/
def record (check : EndpointHealthCheck) (result : ProbeResult) : EndpointHealthCheck :=
  if result.success then
    { check with
      observedFingerprint := result.fingerprint
      failureReason := ""
      consecutiveFailures := 0 }
  else
    { check with
      consecutiveFailures := check.consecutiveFailures + 1
      failureReason := result.error }

/-- The loop body: the row that is stored for a probe. -/
def process (check : EndpointHealthCheck) (result : ProbeResult) : EndpointHealthCheck :=
  let check := check.record result
  let transition := check.transitionStatus result.success result.fingerprint
  if transition.2 then { check with status := transition.1, acknowledged := false } else check

end EndpointHealthCheck

/-- One run; `results` has the probes of the endpoints that are due. -/
def runHealthChecks (checks : List EndpointHealthCheck) (results : String → Option ProbeResult) :
    List EndpointHealthCheck :=
  checks.map fun check => (results check.id).elim check check.process

end Certctl.Source

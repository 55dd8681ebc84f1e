import Certctl.Source.Auth.Sessions

/-!
The rotation of CSRF tokens for an actor. It reaches the sessions whose stored idle deadline is
still to come, and requests do not move that deadline; a session that is kept alive by requests
past it is accepted with its old token.
-/
namespace Certctl.Guarantees.CSRFRotation

open Lib Source Source.Auth

/-- Sessions of the actor that `Validate` accepts have a new hash; those of others are as
before. -/
structure Rotated (svc : SessionService) (now : Time) (actorID actorType : String)
    (sessions sessions' : Table Session.id) : Prop where
  live : ∀ input row, validate svc sessions now input = .ok row →
    row.ofActor svc.tenantID actorID actorType →
      ∃ row', sessions'.get? row.id = some row' ∧ row'.csrfTokenHash ≠ row.csrfTokenHash
  others : ∀ row ∈ sessions.rows, ¬ row.ofActor svc.tenantID actorID actorType →
    sessions'.get? row.id = some row

theorem validate_ok {svc : SessionService} {sessions : Table Session.id} {now : Time}
    {input : ValidateInput} {row : Session} (accepted : validate svc sessions now input = .ok row) :
    row ∈ sessions.rows ∧ row.revokedAt = none ∧ now < row.absoluteExpiresAt := by
  obtain ⟨sessionID, -, accepted⟩ := bind_eq_ok.mp accepted
  obtain ⟨stored, found, accepted⟩ := bind_eq_ok.mp accepted
  obtain ⟨_, unrevoked, accepted⟩ := bind_eq_ok.mp accepted
  obtain ⟨_, lasting, accepted⟩ := bind_eq_ok.mp accepted
  obtain ⟨_, -, accepted⟩ := bind_eq_ok.mp accepted
  obtain ⟨_, -, accepted⟩ := bind_eq_ok.mp accepted
  obtain ⟨_, -, accepted⟩ := bind_eq_ok.mp accepted
  cases accepted
  exact ⟨Table.get?_mem (orFail_eq_ok.mp found), ensure_eq_ok.mp unrevoked,
    ensure_eq_ok.mp lasting⟩

/-- The rotation is complete exactly if every accepted session of the actor is before its stored
idle deadline and none is a pre-login row. -/
theorem rotated_iff (svc : SessionService) (sessions : Table Session.id) (now : Time)
    (tokens : String → String) (actorID actorType : String)
    (fresh : ∀ row ∈ sessions.rows, svc.hashCSRFToken (tokens row.id) ≠ row.csrfTokenHash) :
    Rotated svc now actorID actorType sessions
        (rotateCSRFTokenForActor svc sessions now tokens actorID actorType).1 ↔
      ∀ input row, validate svc sessions now input = .ok row →
        row.ofActor svc.tenantID actorID actorType →
          row.isPreLogin = false ∧ now ≤ row.idleExpiresAt := by
  constructor
  · intro rotated input row accepted own
    obtain ⟨row', found, changed⟩ := rotated.live input row accepted own
    rw [get?_rotateCSRFTokenForActor (validate_ok accepted).1] at found
    split at found
    next reached => exact ⟨reached.2.2.1, reached.2.2.2.2⟩
    · cases found
      exact absurd rfl changed
  · intro reached
    refine ⟨fun input row accepted own => ?_, fun row stored foreign => ?_⟩
    · obtain ⟨stored, unrevoked, lasting⟩ := validate_ok accepted
      obtain ⟨login, waiting⟩ := reached input row accepted own
      rw [get?_rotateCSRFTokenForActor stored, if_pos ⟨own, unrevoked, login, lasting, waiting⟩]
      exact ⟨_, rfl, fresh row stored⟩
    · rw [get?_rotateCSRFTokenForActor stored, if_neg fun chosen => foreign chosen.1]

/-- One session of half an hour's idleness, last seen after twenty minutes; times in minutes. -/
def lately : Session :=
  ⟨"ses-1", "t-default", "alice", "User", false, "old", 30, 480, 0, 20, "", "", none⟩

def alone : Table Session.id := ⟨[lately], List.nodup_singleton _⟩

def halfHour : SessionService := ⟨"t-default", 30, false, false, fun _ cookie => .ok cookie, id⟩

theorem rotated_in_time : Rotated halfHour 25 "alice" "User" alone
    (rotateCSRFTokenForActor halfHour alone 25 (fun _ => "new") "alice" "User").1 := by
  refine (rotated_iff halfHour alone 25 (fun _ => "new") "alice" "User" (by decide)).mpr ?_
  intro input row accepted own
  obtain rfl := List.mem_singleton.mp (validate_ok accepted).1
  decide

/-- After forty minutes `Validate` accepts the session and the rotation passes it over. -/
theorem live_session_passed_over :
    validate halfHour alone 40 ⟨"ses-1", "", ""⟩ = .ok lately ∧
      ¬ Rotated halfHour 40 "alice" "User" alone
        (rotateCSRFTokenForActor halfHour alone 40 (fun _ => "new") "alice" "User").1 := by
  have accepted : validate halfHour alone 40 ⟨"ses-1", "", ""⟩ = .ok lately := rfl
  refine ⟨accepted, fun rotated => ?_⟩
  obtain ⟨row', found, changed⟩ := rotated.live _ _ accepted rfl
  cases found
  exact changed rfl

end Certctl.Guarantees.CSRFRotation

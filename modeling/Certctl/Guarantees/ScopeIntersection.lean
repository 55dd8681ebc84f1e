import Certctl.Source.Auth.Rbac

/-!
Authorization is scope intersection. Whatever the three tables hold, a check succeeds exactly
when an unexpired grant of the actor in the tenant and a permission of its role have scopes
that both cover the requested one. The actor without an id is refused before the tables are
read, and the empty tenant stands for the default one.
-/
namespace Certctl.Guarantees.ScopeIntersection

open Source Source.Auth

/-- Some unexpired grant of the actor in the tenant, and some entry of its role for the
permission, whose scopes both cover the requested one. -/
def Authorized (t : RbacTables) (now : Time) (actorID : String) (actorType : ActorType)
    (tenantID permission : String) (requested : Scope) : Prop :=
  ∃ ar ∈ t.actorRoles, (ar.actorID = actorID ∧ ar.actorType = actorType ∧
      ar.tenantID = tenantID ∧ ar.unexpired now = true) ∧
    ∃ rp ∈ t.rolePermissions, rp.roleID = ar.roleID ∧
      ∃ p ∈ t.permissions, p.id = rp.permissionID ∧ p.name = permission ∧
        requested ∈ ar.scope.covered ∩ rp.scope.covered

theorem any_grants_iff {t : RbacTables} {now : Time} {actorID : String} {actorType : ActorType}
    {tenantID permission : String} {requested : Scope} :
    (t.effectivePermissions now actorID actorType tenantID).any
        (fun ep => ep.grants permission requested) = true ↔
      Authorized t now actorID actorType tenantID permission requested := by
  simp only [List.any_eq_true, RbacTables.effectivePermissions, List.mem_dedup, grants_iff,
    mem_intersected]
  constructor
  · rintro ⟨ep, ⟨ar, inRoles, own, rp, inGrants, role, p, inCatalog, id, name, scope⟩, rfl,
      covered⟩
    exact ⟨ar, inRoles, own, rp, inGrants, role, p, inCatalog, id, name,
      (covered_effectiveScope _ _ _).mp ⟨ep.scope, scope, covered⟩⟩
  · rintro ⟨ar, inRoles, own, rp, inGrants, role, p, inCatalog, id, name, covered⟩
    obtain ⟨scope, computed, inside⟩ := (covered_effectiveScope _ _ _).mpr covered
    exact ⟨⟨permission, scope⟩, ⟨ar, inRoles, own, rp, inGrants, role, p, inCatalog, id, name,
      computed⟩, rfl, inside⟩

/-- For every content of the tables and every request: the check succeeds if and only if the
actor has an id and is authorized, in the default tenant if none is named. -/
theorem check_iff_authorized (t : RbacTables) (now : Time) (actorID : String)
    (actorType : ActorType) (tenantID permission : String) (requested : Scope) :
    t.checkPermission now actorID actorType tenantID permission requested = .ok true ↔
      actorID ≠ "" ∧ Authorized t now actorID actorType
        (if tenantID = "" then defaultTenantID else tenantID) permission requested := by
  unfold RbacTables.checkPermission Auth.checkPermission
  by_cases unnamed : actorID = ""
  · simp [unnamed]
  · simp only [unnamed, if_false, Except.ok.injEq, any_grants_iff, ne_eq, not_false_eq_true,
      true_and]

/-- One grant of a role with one permission, everything at global scope. -/
def oneGrant (actorID tenantID : String) : RbacTables where
  actorRoles := [⟨actorID, .user, "r-viewer", none, tenantID, .global, none⟩]
  rolePermissions := [⟨"r-viewer", "p-cert-read", .global, none⟩]
  permissions := [⟨"p-cert-read", "cert.read"⟩]

/-- The two exceptions: a grant to the actor without an id is not used, and a request in the
tenant without an id is decided by the grants of the default tenant. -/
theorem unnamed_not_authorized :
    (Authorized (oneGrant "" "t-default") 0 "" .user "t-default" "cert.read" ⟨.global, none⟩ ∧
      (oneGrant "" "t-default").checkPermission 0 "" .user "t-default" "cert.read"
        ⟨.global, none⟩ = .ok false) ∧
    ¬ Authorized (oneGrant "u-1" "t-default") 0 "u-1" .user "" "cert.read" ⟨.global, none⟩ ∧
      (oneGrant "u-1" "t-default").checkPermission 0 "u-1" .user "" "cert.read"
        ⟨.global, none⟩ = .ok true := by
  refine ⟨⟨any_grants_iff.mp (by decide), by decide⟩, ?_, by decide⟩
  rintro ⟨ar, inRoles, ⟨-, -, tenant, -⟩, -⟩
  obtain rfl := List.mem_singleton.mp inRoles
  revert tenant
  decide

end Certctl.Guarantees.ScopeIntersection

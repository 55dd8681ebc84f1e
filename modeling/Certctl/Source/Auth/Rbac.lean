import Certctl.Source.Domain
import Mathlib.Data.List.Dedup
import Mathlib.Data.Set.Basic

/-!
Role grants and permission checks. A grant and a role's permission each carry a scope; the
query for the effective permissions intersects the two with NULL rules of its own, and the
authorizer matches the requested scope against the result with rules of its own. Above both
stands what a scope means: the set of requests it covers.

Source: internal/domain/auth/types.go; internal/service/auth/authorizer.go;
internal/domain/audit.go; internal/repository/auth.go; internal/repository/postgres/auth.go.
-/
namespace Certctl.Source.Auth

/-- The values the `actor_type` columns admit, and any other text a caller may pass. -/
inductive ActorType where
  | user | system | agent | apiKey | anonymous
  | other (text : String)
  deriving DecidableEq

/-- The values the `scope_type` columns admit, and any other text a caller may pass. -/
inductive ScopeType where
  | global | profile | issuer
  | other (text : String)
  deriving DecidableEq

structure Scope where
  type : ScopeType
  id : Option String
  deriving DecidableEq

structure ActorRole where
  actorID : String
  actorType : ActorType
  roleID : String
  expiresAt : Option Time
  tenantID : String
  scope : Scope

structure RolePermission where
  roleID : String
  permissionID : String
  scope : Scope

structure Permission where
  id : String
  name : String

structure EffectivePermission where
  permissionName : String
  scope : Scope
  deriving DecidableEq

structure RbacTables where
  actorRoles : List ActorRole
  rolePermissions : List RolePermission
  permissions : List Permission

def defaultTenantID : String := "t-default"

/-! ### The query -/

/-- The `CASE` for `effective_scope_type`. -/
def effectiveScopeType (ar rp : Scope) : Option ScopeType :=
  if ar.type = .global ∧ rp.type = .global then some .global
  else if ar.type = .global then some rp.type
  else if rp.type = .global then some ar.type
  else if ar.type = rp.type ∧ ar.id = rp.id then some ar.type
  else none

/-- The `CASE` for `effective_scope_id`. -/
def effectiveScopeID (ar rp : Scope) : Option String :=
  if ar.type = .global ∧ rp.type = .global then none
  else if ar.type = .global then rp.id
  else if rp.type = .global then ar.id
  else if ar.type = rp.type ∧ ar.id = rp.id then ar.id
  else none

/-- `expires_at IS NULL OR expires_at > NOW()`. -/
def ActorRole.unexpired (ar : ActorRole) (now : Time) : Bool :=
  ar.expiresAt.all (fun t => decide (now < t))

namespace RbacTables

variable (t : RbacTables) (now : Time)

/-- The rows of the inner query that survive the outer `WHERE`. -/
def intersected (actorID : String) (actorType : ActorType) (tenantID : String) :
    List EffectivePermission :=
  (t.actorRoles.filter (fun ar => decide (ar.actorID = actorID) &&
      decide (ar.actorType = actorType) && decide (ar.tenantID = tenantID) &&
      ar.unexpired now)).flatMap (fun ar =>
    (t.rolePermissions.filter (fun rp => decide (rp.roleID = ar.roleID))).flatMap (fun rp =>
      (t.permissions.filter (fun p => decide (p.id = rp.permissionID))).filterMap (fun p =>
        (effectiveScopeType ar.scope rp.scope).map (fun type =>
          ⟨p.name, type, effectiveScopeID ar.scope rp.scope⟩))))

/-- `EffectivePermissions`: `SELECT DISTINCT`. -/
def effectivePermissions (actorID : String) (actorType : ActorType) (tenantID : String) :
    List EffectivePermission :=
  (t.intersected now actorID actorType tenantID).dedup

end RbacTables

/-! ### The authorizer -/

/-- One round of the loop in `CheckPermission`. -/
def EffectivePermission.grants (ep : EffectivePermission) (permission : String)
    (requested : Scope) : Bool :=
  if ep.permissionName ≠ permission then false
  else if ep.scope.type = .global then true
  else if ep.scope.type ≠ requested.type then false
  else
    match requested.id, ep.scope.id with
    | some wanted, some id => decide (id = wanted)
    -- A typed scope needs an explicit id on both sides.
    | _, _ => false

/-- `CheckPermission`, with the answer of the repository. -/
def checkPermission
    (effectivePermissions : String → ActorType → String → Except String (List EffectivePermission))
    (actorID : String) (actorType : ActorType) (tenantID permission : String)
    (requested : Scope) : Except String Bool :=
  if actorID = "" then .ok false
  else
    match effectivePermissions actorID actorType
      (if tenantID = "" then defaultTenantID else tenantID) with
    | .error e => .error ("authorizer.CheckPermission: " ++ e)
    | .ok effective => .ok (effective.any (fun ep => ep.grants permission requested))

/-- `CheckPermission` over the tables. -/
def RbacTables.checkPermission (t : RbacTables) (now : Time) (actorID : String)
    (actorType : ActorType) (tenantID permission : String) (requested : Scope) :
    Except String Bool :=
  Auth.checkPermission (fun actorID actorType tenantID =>
    .ok (t.effectivePermissions now actorID actorType tenantID)) actorID actorType tenantID
    permission requested

/-! ### What a scope covers -/

/-- The requests a scope covers: all of them, or those for the one resource it names. A typed
scope without an id covers none. -/
def Scope.covered (s : Scope) : Set Scope :=
  {requested | s.type = .global ∨ s.id ≠ none ∧ requested = s}

theorem mem_covered {s requested : Scope} :
    requested ∈ s.covered ↔ s.type = .global ∨ s.id ≠ none ∧ requested = s := Iff.rfl

/-- The scope that the two `CASE` expressions compute, if they compute one. -/
def effectiveScope (ar rp : Scope) : Option Scope :=
  (effectiveScopeType ar rp).map (fun type => ⟨type, effectiveScopeID ar rp⟩)

/-- The query computes the intersection of the two scopes. -/
theorem covered_effectiveScope (ar rp requested : Scope) :
    (∃ s, effectiveScope ar rp = some s ∧ requested ∈ s.covered) ↔
      requested ∈ ar.covered ∩ rp.covered := by
  obtain ⟨arType, arID⟩ := ar
  obtain ⟨rpType, rpID⟩ := rp
  by_cases arGlobal : arType = .global
  · by_cases rpGlobal : rpType = .global
    all_goals
      simp [effectiveScope, effectiveScopeType, effectiveScopeID, mem_covered, arGlobal, rpGlobal]
  · by_cases rpGlobal : rpType = .global
    · simp [effectiveScope, effectiveScopeType, effectiveScopeID, mem_covered, arGlobal, rpGlobal]
    · by_cases same : arType = rpType ∧ arID = rpID
      · obtain ⟨rfl, rfl⟩ := same
        simp [effectiveScope, effectiveScopeType, effectiveScopeID, mem_covered, arGlobal]
      · have apart : ¬ (requested = ⟨arType, arID⟩ ∧ requested = ⟨rpType, rpID⟩) := by
          rintro ⟨rfl, equal⟩
          exact same (Scope.mk.inj equal)
        simp only [effectiveScope, effectiveScopeType, arGlobal, rpGlobal, same, Set.mem_inter_iff,
          mem_covered]
        grind

variable {ep : EffectivePermission}

/-- The authorizer's match is membership in what the effective scope covers. -/
theorem grants_iff {permission : String} {requested : Scope} :
    ep.grants permission requested = true ↔
      ep.permissionName = permission ∧ requested ∈ ep.scope.covered := by
  obtain ⟨name, type, id⟩ := ep
  obtain ⟨wantedType, wantedID⟩ := requested
  simp only [EffectivePermission.grants, mem_covered, Scope.mk.injEq]
  cases id <;> cases wantedID <;> grind

theorem mem_intersected {t : RbacTables} {now : Time} {actorID : String} {actorType : ActorType}
    {tenantID : String} :
    ep ∈ t.intersected now actorID actorType tenantID ↔
      ∃ ar ∈ t.actorRoles, (ar.actorID = actorID ∧ ar.actorType = actorType ∧
          ar.tenantID = tenantID ∧ ar.unexpired now = true) ∧
        ∃ rp ∈ t.rolePermissions, rp.roleID = ar.roleID ∧
          ∃ p ∈ t.permissions, p.id = rp.permissionID ∧ p.name = ep.permissionName ∧
            effectiveScope ar.scope rp.scope = some ep.scope := by
  obtain ⟨name, scope⟩ := ep
  simp only [RbacTables.intersected, effectiveScope, List.mem_flatMap, List.mem_filter,
    List.mem_filterMap, Bool.and_eq_true, decide_eq_true_eq, Option.map_eq_some_iff,
    EffectivePermission.mk.injEq]
  grind

end Certctl.Source.Auth

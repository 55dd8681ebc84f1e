import Certctl.Source.Auth.Rbac

/-!
The bootstrap hook of OIDC logins. It asks whether the tenant has an admin and, in another
statement, makes the user one; logins run side by side.

Source: internal/auth/oidc/service.go; internal/repository/postgres/auth.go;
cmd/server/main.go.
-/
namespace Certctl.Source.Auth

def demoAnonActorID : String := "actor-demo-anon"

def roleIDAdmin : String := "r-admin"

/-- The demo actor does not count. -/
def RbacTables.adminExists (t : RbacTables) (now : Time) (tenantID : String) : Bool :=
  t.actorRoles.any fun ar => decide (ar.roleID = roleIDAdmin) && decide (ar.tenantID = tenantID) &&
    decide (ar.actorID ≠ demoAnonActorID) && ar.unexpired now

/-- The configured groups, trimmed; without any there is no hook. -/
structure BootstrapConfig where
  groups : List String
  providerID : String

/-- Before and after the probe, and at the end; the role is `granted` once its row is stored. -/
inductive HookStage where
  | begun
  | probed
  | refused
  | granted
  deriving DecidableEq

structure Login where
  userID : String
  groups : List String
  stage : HookStage

structure LoginSys where
  tables : RbacTables
  logins : List Login

/-- The probe may fail, and the grant with or without its row. -/
inductive LoginAction where
  | login (providerID : String) (groups : List String) (user : String)
  | probe (i : Nat) (now : Time) (fails : Bool)
  | grant (i : Nat) (stored : Bool)

namespace LoginSys

variable (cfg : BootstrapConfig) (s : LoginSys)

def move (i : Nat) (l : Login) (stage : HookStage) : LoginSys :=
  { s with logins := s.logins.set i { l with stage } }

/-- The grant has no expiry, and its NULL scope id keeps it from meeting another row. -/
def insertAdmin (userID : String) : LoginSys :=
  { s with tables.actorRoles := s.tables.actorRoles ++
      [⟨userID, .user, roleIDAdmin, none, defaultTenantID, .global, none⟩] }

def step : LoginAction → Option LoginSys
  | .login providerID groups user =>
    let passes := cfg.groups = [] ∨ cfg.providerID ≠ "" ∧ providerID ≠ cfg.providerID
    let stage := if passes then .refused else .begun
    some { s with logins := s.logins ++ [⟨"u-" ++ user, groups, stage⟩] }
  | .probe i now fails => (s.logins[i]?).bind fun l =>
    if l.stage = .begun then
      some (s.move i l (if fails ∨ s.tables.adminExists now defaultTenantID ∨
        ∀ g ∈ l.groups, g ∉ cfg.groups then .refused else .probed))
    else none
  | .grant i stored => (s.logins[i]?).bind fun l =>
    if l.stage = .probed then
      some (if stored then (s.insertAdmin l.userID).move i l .granted else s.move i l .refused)
    else none

end LoginSys

end Certctl.Source.Auth

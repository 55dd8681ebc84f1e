import Certctl.Lib.Transition
import Certctl.Source.Auth.FirstAdmin

/-!
The first admin of a tenant. Two logins that both ask before either is made admin both become
one; where no hook asks while another is between its two statements, one user does.
-/
namespace Certctl.Guarantees.FirstAdmin

open Lib Source.Auth

/-- At most one of the users is made admin, and only by a configured group. -/
def OneAdmin (cfg : BootstrapConfig) (s : LoginSys) : Prop :=
  s.logins.countP (fun l => decide (l.stage = .granted)) ≤ 1 ∧
    ∀ l ∈ s.logins, l.stage = .granted → ∃ g ∈ l.groups, g ∈ cfg.groups

def Initial (s : LoginSys) : Prop :=
  s.logins = [] ∧ ∃ now, s.tables.adminExists now defaultTenantID = false

/-- No hook asks while another has asked and not granted yet. -/
def serial (s : LoginSys) : LoginAction → Bool
  | .probe .. => s.logins.all fun l => decide (l.stage ≠ .probed)
  | _ => true

/-- The user is about to be, or has been, made admin. -/
def chosen (l : Login) : Bool := decide (l.stage = .probed ∨ l.stage = .granted)

structure Fits (cfg : BootstrapConfig) (t : RbacTables) (l : Login) : Prop where
  named : l.userID ≠ demoAnonActorID
  matched : chosen l = true → ∃ g ∈ l.groups, g ∈ cfg.groups
  stands : l.stage = .granted → ∀ now, t.adminExists now defaultTenantID = true

structure Sound (cfg : BootstrapConfig) (s : LoginSys) : Prop where
  one : s.logins.countP chosen ≤ 1
  fits : ∀ l ∈ s.logins, Fits cfg s.tables l

variable {cfg : BootstrapConfig} {s s' : LoginSys}

/-- One login goes on; it is chosen only if it was already or none is. -/
theorem Sound.move (sound : Sound cfg s) {i : Nat} {l : Login} {stage : HookStage}
    {tables : RbacTables} (current : s.logins[i]? = some l)
    (kept : ∀ now, s.tables.adminExists now defaultTenantID = true →
      tables.adminExists now defaultTenantID = true)
    (room : chosen { l with stage } = true → chosen l = true ∨ s.logins.countP chosen = 0)
    (matched : chosen { l with stage } = true → ∃ g ∈ l.groups, g ∈ cfg.groups)
    (stands : stage = .granted → ∀ now, tables.adminExists now defaultTenantID = true) :
    Sound cfg ⟨tables, s.logins.set i { l with stage }⟩ := by
  have count := countP_set_add chosen { l with stage } current
  have one := sound.one
  refine ⟨by grind, forall_mem_set (fun other member => ?_) ?_⟩
  · obtain ⟨named, matched, stands⟩ := sound.fits other member
    exact ⟨named, matched, fun granted now => kept now (stands granted now)⟩
  · exact ⟨(sound.fits l (List.mem_of_getElem? current)).named, matched, stands⟩

theorem Sound.refused (sound : Sound cfg s) {i : Nat} {l : Login}
    (current : s.logins[i]? = some l) : Sound cfg (s.move i l .refused) :=
  sound.move current (fun _ => id) nofun nofun nofun

theorem Sound.step (sound : Sound cfg s) {a : LoginAction} (apart : serial s a = true)
    (taken : s.step cfg a = some s') : Sound cfg s' := by
  cases a with
  | login providerID groups user =>
    cases taken
    refine ⟨?_, forall_mem_snoc sound.fits ⟨fun same => ?_, ?_, ?_⟩⟩
    · rw [List.countP_append]
      have := sound.one
      grind [chosen]
    · have spelled := congrArg String.toList same
      simp [demoAnonActorID] at spelled
    · grind [chosen]
    · grind
  | probe i now fails =>
    obtain ⟨l, current, taken⟩ := Option.bind_eq_some_iff.mp taken
    obtain ⟨begun, ⟨⟩⟩ := of_then taken nofun
    split
    · exact sound.refused current
    next asks =>
      simp only [not_or, not_forall, not_not] at asks
      refine sound.move current (fun _ => id) (fun _ => .inr ?_) (fun _ => by grind) (by simp)
      refine List.countP_eq_zero.mpr fun other member isChosen => ?_
      rcases of_decide_eq_true isChosen with probed | granted
      · exact of_decide_eq_true (List.all_eq_true.mp apart other member) probed
      · exact asks.2.1 ((sound.fits other member).stands granted now)
  | grant i stored =>
    obtain ⟨l, current, taken⟩ := Option.bind_eq_some_iff.mp taken
    obtain ⟨probed, ⟨⟩⟩ := of_then taken nofun
    have isChosen : chosen l = true := by simp [chosen, probed]
    have fits := sound.fits l (List.mem_of_getElem? current)
    split
    · refine sound.move current (fun now stood => ?_) (fun _ => .inl isChosen)
        (fun _ => fits.matched isChosen) (fun _ now => ?_)
      · simp_all [RbacTables.adminExists, LoginSys.insertAdmin]
      · simp [RbacTables.adminExists, fits.named, ActorRole.unexpired, LoginSys.insertAdmin]
    · exact sound.refused current

/-- Where no hook asks between the two statements of another, one user is made admin. -/
theorem one_first_admin (cfg : BootstrapConfig) {s : LoginSys}
    (reached : ReachableUnder (LoginSys.step cfg) Initial (fun s a => serial s a = true) s) :
    OneAdmin cfg s := by
  have sound : Sound cfg s := by
    refine reached.invariant (fun s begun => ?_) fun _ _ _ sound => sound.step
    constructor <;> simp [begun.1]
  have counted : ∀ l : Login, l.stage = .granted → chosen l = true := by
    intro l granted
    simp [chosen, granted]
  refine ⟨le_trans (List.countP_mono_left fun l _ granted => ?_) sound.one, fun l member granted =>
    (sound.fits l member).matched (counted l granted)⟩
  exact counted l (of_decide_eq_true granted)

def admins : BootstrapConfig := ⟨["admins"], ""⟩

def idle : LoginSys := ⟨⟨[], [], []⟩, []⟩

theorem idle_initial : Initial idle := ⟨rfl, 0, rfl⟩

theorem one_after_other : ∃ s, OneAdmin admins s ∧ s.logins.map Login.stage =
    [.granted, .refused] := by
  obtain ⟨s, reached, stages⟩ := exists_reachable_of_replay (LoginSys.step admins) serial
    idle_initial [.login "op" ["admins"] "a", .login "op" ["admins"] "b", .probe 0 0 false,
      .grant 0 true, .probe 1 0 false] (fun s => s.logins.map Login.stage = [.granted, .refused])
    (by decide)
  exact ⟨s, one_first_admin admins reached, stages⟩

/-- Two users ask before either is made admin. -/
theorem two_first_admins : ∃ s, Reachable (LoginSys.step admins) Initial s ∧
    (s.logins.map Login.userID).Nodup ∧ ¬ OneAdmin admins s :=
  exists_reached_of_replay (LoginSys.step admins) idle_initial
    [.login "op" ["admins"] "a", .login "op" ["admins"] "b", .probe 0 0 false, .probe 1 0 false,
      .grant 0 true, .grant 1 true] _ (by unfold OneAdmin; decide)

end Certctl.Guarantees.FirstAdmin

import Mathlib.Data.List.Nodup
import Certctl.Lib.PathText
import Certctl.Lib.Result

/-!
Deployment plans: the files with their wanted contents and ownership, the hooks that are
present, and the checks made before any file is touched.

Source: internal/deploy/apply.go, types.go.
-/
namespace Certctl.Source.Deploy

open Lib

structure File where
  path : String
  bytes : List UInt8
  mode : Nat
  owner : String
  group : String
  deriving DecidableEq

structure FileDefaults where
  mode : Nat
  owner : String
  group : String

/-- A plan; of the hooks only their presence is part of it. -/
structure Plan where
  files : List File
  defaults : FileDefaults
  preCommit : Bool
  postCommit : Bool
  backupRetention : Int
  skipIdempotent : Bool

inductive PlanError where
  | noFiles
  | emptyPath (file : Nat)
  | unresolved (file : Nat) (path cause : String)
  | duplicate (abs : String)
  deriving DecidableEq

def errPlanInvalid : String := "deploy: plan is invalid"

def PlanError.message : PlanError → String
  | .noFiles => errPlanInvalid ++ ": no files"
  | .emptyPath i => errPlanInvalid ++ ": file " ++ toString i ++ " has empty path"
  | .unresolved i path cause =>
    errPlanInvalid ++ ": file " ++ toString i ++ " (" ++ path ++ "): " ++ cause
  | .duplicate abs => errPlanInvalid ++ ": duplicate destination " ++ abs

/-- The loop over the files: the position of the next one and the destinations seen. -/
def validateFiles (workingDir : Except String String) :
    Nat → List String → List File → Except PlanError Unit
  | _, _, [] => .ok ()
  | i, seen, f :: rest =>
    if f.path = "" then .error (.emptyPath i)
    else match absolutePath workingDir f.path with
      | .error cause => .error (.unresolved i f.path cause)
      | .ok abs =>
        if abs ∈ seen then .error (.duplicate abs)
        else validateFiles workingDir (i + 1) (abs :: seen) rest

def validatePlan (workingDir : Except String String) (plan : Plan) : Except PlanError Unit :=
  if plan.files.length = 0 then .error .noFiles
  else validateFiles workingDir 0 [] plan.files

def destination (workingDir : Except String String) (f : File) : Except String String :=
  (absolutePath workingDir f.path).mapError (fun e => "resolve path " ++ f.path ++ ": " ++ e)

/-- The destinations in plan order. -/
def absPaths (workingDir : Except String String) (plan : Plan) : Except String (List String) :=
  plan.files.mapM (destination workingDir)

variable {workingDir : Except String String} {files : List File} {abs : List String} {p : String}
  {f : File}

theorem destination_eq_ok :
    destination workingDir f = .ok p ↔ absolutePath workingDir f.path = .ok p :=
  mapError_eq_ok _

theorem validateFiles_ok {i : Nat} {seen : List String}
    (valid : validateFiles workingDir i seen files = .ok ()) :
    ∃ abs, files.mapM (destination workingDir) = .ok abs ∧ abs.Nodup ∧ ∀ p ∈ abs, p ∉ seen := by
  induction files generalizing i seen with
  | nil => exact ⟨[], rfl, List.nodup_nil, fun _ member => absurd member List.not_mem_nil⟩
  | cons f rest ih =>
    obtain ⟨-, valid⟩ := of_else valid nofun
    split at valid
    · cases valid
    next p resolved =>
      obtain ⟨unseen, valid⟩ := of_else valid nofun
      obtain ⟨abs, rest', distinct, apart⟩ := ih valid
      refine ⟨p :: abs, ?_, ?_, ?_⟩
      · rw [List.mapM_cons, destination_eq_ok.mpr resolved, rest']
        rfl
      · refine List.nodup_cons.mpr ⟨fun again => ?_, distinct⟩
        exact apart p again (List.mem_cons_self ..)
      · intro q member
        rcases List.mem_cons.mp member with rfl | later
        · exact unseen
        · exact fun before => apart q later (List.mem_cons_of_mem _ before)

/-- The destinations of a valid plan are all resolved and distinct. -/
theorem validatePlan_ok {plan : Plan} (valid : validatePlan workingDir plan = .ok ()) :
    ∃ abs, absPaths workingDir plan = .ok abs ∧ abs.Nodup := by
  obtain ⟨-, valid⟩ := of_else valid nofun
  obtain ⟨abs, resolved, distinct, _⟩ := validateFiles_ok valid
  exact ⟨abs, resolved, distinct⟩

section

variable (resolved : files.mapM (destination workingDir) = .ok abs)

include resolved

theorem forall₂_absPaths :
    List.Forall₂ (fun f p => absolutePath workingDir f.path = .ok p) files abs := by
  induction files generalizing abs with
  | nil =>
    cases resolved
    exact .nil
  | cons f rest ih =>
    rw [List.mapM_cons] at resolved
    obtain ⟨q, found, resolved⟩ := bind_eq_ok.mp resolved
    obtain ⟨later, rest', resolved⟩ := bind_eq_ok.mp resolved
    cases resolved
    exact .cons (destination_eq_ok.mp found) (ih rest')

theorem length_absPaths : abs.length = files.length := (forall₂_absPaths resolved).length_eq.symm

theorem absolutePath_of_mem_absPaths {other : Except String String} (member : p ∈ abs) :
    absolutePath other p = .ok p := by
  obtain ⟨i, inside, rfl⟩ := List.getElem_of_mem member
  have there := length_absPaths resolved ▸ inside
  exact absolutePath_absolutePath ((forall₂_absPaths resolved).get there inside)

theorem absPaths_getElem? {i : Nat} (position : files[i]? = some f)
    (found : absolutePath workingDir f.path = .ok p) : abs[i]? = some p := by
  obtain ⟨inside, rfl⟩ := List.getElem?_eq_some_iff.mp position
  have there := (length_absPaths resolved).symm ▸ inside
  have own := (forall₂_absPaths resolved).get inside there
  exact List.getElem?_eq_some_iff.mpr ⟨there, Except.ok.inj (own.symm.trans found)⟩

end

end Certctl.Source.Deploy

import Mathlib.Data.String.Basic
import Certctl.Source.Deploy.FileSystem

/-!
`Apply`: backups, temp files, the validation hook, the renames, the reload hook and the
way back. The locks are held throughout, so no other call of the package touches the
destinations; hooks are taken to change no file.

Source: internal/deploy/apply.go, atomic.go, ownership.go, types.go.
-/
namespace Certctl.Source.Deploy

open Lib

/-- Mode and owner to give to a file; a negative id is none. -/
structure Ownership where
  mode : Nat
  modeSet : Bool
  uid : Int
  gid : Int
  deriving DecidableEq

def lookupUID (env : Env) (name : String) : Except String Int :=
  if name = "" then .error "empty username"
  else match decimalInt name.toList with
    | some uid => .ok uid
    | none => env.lookupUser name

def lookupGID (env : Env) (name : String) : Except String Int :=
  if name = "" then .error "empty groupname"
  else match decimalInt name.toList with
    | some gid => .ok gid
    | none => env.lookupGroup name

/-- The mode of a file: its own, that of the existing destination, or the default. -/
def resolveMode (file : File) (defaults : FileDefaults) (existing : Option Node) : Nat × Bool :=
  if file.mode ≠ 0 then (file.mode, true)
  else match existing with
    | some n => (n.mode.val, true)
    | none => if defaults.mode ≠ 0 then (defaults.mode, true) else (0, false)

def resolveOwnership (env : Env) (file : File) (defaults : FileDefaults) (existing : Option Node) :
    Except String Ownership := do
  let (mode, modeSet) := resolveMode file defaults existing
  let named (owner group : String) : Except String Ownership := do
    let uid ← (lookupUID env owner).mapError (fun e => "resolve owner " ++ quote owner ++ ": " ++ e)
    let gid ← (lookupGID env group).mapError (fun e => "resolve group " ++ quote group ++ ": " ++ e)
    return ⟨mode, modeSet, uid, gid⟩
  if file.owner ≠ "" ∧ file.group ≠ "" then named file.owner file.group
  else match existing with
    | some n => .ok ⟨mode, modeSet, n.uid, n.gid⟩
    | none =>
      if defaults.owner ≠ "" ∧ defaults.group ≠ "" then named defaults.owner defaults.group
      else .ok ⟨mode, modeSet, -1, -1⟩

/-- The verb for an octal number with its leading zero. -/
def octalText (n : Nat) : String := if n = 0 then "0" else "0" ++ String.ofList (Nat.toDigits 8 n)

/-- Mode and owner of a temp file; a failing change of owner counts only as root. -/
def applyOwnership (env : Env) (use : TempUse) (i : Nat) (files : Files) (path : String)
    (owner : Ownership) : Files × Option String :=
  let changed : Except OsError Files :=
    if owner.modeSet then chmod env (.temp use .chmod i) files path owner.mode else .ok files
  match changed with
  | .error e =>
    (files, some ("chmod " ++ path ++ " to " ++ octalText owner.mode ++ ": " ++ e.message))
  | .ok files =>
    if owner.uid ≥ 0 ∧ owner.gid ≥ 0 then
      match chown env (.temp use .chown i) files path owner.uid owner.gid with
      | .error e => (files, if env.root then some ("chown " ++ path ++ " to " ++
          toString owner.uid ++ ":" ++ toString owner.gid ++ ": " ++ e.message) else none)
      | .ok files => (files, none)
    else (files, none)

/-- The working state of one file. -/
structure FilePrep where
  index : Nat
  abs : String
  file : File
  owner : Ownership
  hadOrig : Bool
  tempPath : Option String
  backupTo : Option String
  deriving DecidableEq

inductive ApplyError where
  | plan (e : PlanError)
  | resolve (cause : String)
  | cancelled (cause : String)
  | ownership (file : Nat) (abs cause : String)
  | backup (abs cause : String)
  | writeTemp (abs cause : String)
  | tempOwnership (abs cause : String)
  | validateFailed (cause : String)
  | rename (abs cause : String)
  | renameRollback (abs rollback cause : String)
  | restoreFailed (cause rollback : String)
  | reloadAgain (cause second : String)
  | reloadFailed (cause : String)
  deriving DecidableEq

def errValidateFailed : String := "deploy: validate (PreCommit) failed"

def errReloadFailed : String := "deploy: reload (PostCommit) failed; rolled back"

def errRollbackFailed : String :=
  "deploy: reload failed AND rollback also failed; manual intervention required"

def ApplyError.message : ApplyError → String
  | .plan e => e.message
  | .resolve cause => cause
  | .cancelled cause => cause
  | .ownership i abs cause =>
    "file " ++ toString i ++ " (" ++ abs ++ "): resolve ownership: " ++ cause
  | .backup abs cause => "backup " ++ abs ++ ": " ++ cause
  | .writeTemp abs cause => "write temp for " ++ abs ++ ": " ++ cause
  | .tempOwnership abs cause => "apply ownership to temp for " ++ abs ++ ": " ++ cause
  | .validateFailed cause => errValidateFailed ++ ": " ++ cause
  | .rename abs cause => "rename " ++ abs ++ ": " ++ cause
  | .renameRollback abs rollback cause => errRollbackFailed ++ ": rename " ++ abs ++
    " mid-loop, rollback also failed: " ++ rollback ++ " (rename: " ++ cause ++ ")"
  | .restoreFailed cause rollback => errRollbackFailed ++ ": PostCommit failed (" ++ cause ++
    ") AND rollback restore failed (" ++ rollback ++ ")"
  | .reloadAgain cause second => errRollbackFailed ++ ": PostCommit failed (" ++ cause ++
    ") AND second PostCommit after restore also failed (" ++ second ++ ")"
  | .reloadFailed cause => errReloadFailed ++ ": " ++ cause

/-- The error wraps `ErrRollbackFailed`. -/
def ApplyError.rollbackFailed : ApplyError → Bool
  | .renameRollback _ _ _ => true
  | .restoreFailed _ _ => true
  | .reloadAgain _ _ => true
  | _ => false

structure Result where
  skippedAsIdempotent : Bool
  backupPaths : List (String × Option String)
  validateOK : Bool
  reloaded : Bool
  rolledBack : Bool

structure ApplyOutcome where
  disk : Disk
  result : Option Result
  error : Option ApplyError

section Phases

variable (env : Env)

def sha256Eq (a b : List UInt8) : Bool :=
  decide (a.length = b.length) && decide (env.sha256 a = env.sha256 b)

/-- Every destination can be read and has the wanted contents. -/
def allMatch (files : Files) : Nat → List (File × String) → Bool
  | _, [] => true
  | i, (f, abs) :: rest =>
    match readFile env (.idempotentRead i) files abs with
    | .error _ => false
    | .ok existing => sha256Eq env existing f.bytes && allMatch files (i + 1) rest

/-- Any failure to look at a destination counts as its absence. -/
def prepare (defaults : FileDefaults) (files : Files) :
    Nat → List (File × String) → Except ApplyError (List FilePrep)
  | _, [] => .ok []
  | i, (f, abs) :: rest => do
    let existing := (stat env (.prepStat i) files abs).toOption
    let owner ← (resolveOwnership env f defaults existing).mapError (.ownership i abs)
    let preps ← prepare defaults files (i + 1) rest
    return ⟨i, abs, f, owner, existing.isSome, none, none⟩ :: preps

/-- The backups up to the first that fails. -/
def backupAll : Files → List FilePrep → Files × List FilePrep × Option ApplyError
  | files, [] => (files, [], none)
  | files, p :: rest =>
    if p.hadOrig then
      match backupFile env p.index files p.abs with
      | (files, .error cause) => (files, [], some (.backup p.abs cause))
      | (files, .ok path) =>
        let (files, done, failure) := backupAll files rest
        (files, { p with backupTo := some path } :: done, failure)
    else
      let (files, done, failure) := backupAll files rest
      (files, p :: done, failure)

/-- Removal of one scratch file of each file that has it, whatever the outcome. -/
def cleanup (site : Nat → Site) (scratch : FilePrep → Option String) :
    Files → List FilePrep → Files
  | files, [] => files
  | files, p :: rest =>
    match scratch p with
    | none => cleanup site scratch files rest
    | some path =>
      cleanup site scratch (removeQuietly env (site p.index) files path) rest

def cleanupBackups (files : Files) (preps : List FilePrep) : Files :=
  cleanup env .backupRemove FilePrep.backupTo files preps

/-- The temp files up to the first that fails, with those that are there by then. -/
def writeTemps : Disk → List FilePrep → Disk × List FilePrep × Option ApplyError
  | d, [] => (d, [], none)
  | d, p :: rest =>
    match writeTempFile env .deploy p.index d p.abs p.file.bytes with
    | (d, .error e) => (d, [], some (.writeTemp p.abs e.message))
    | (d, .ok path) =>
      let written := { p with tempPath := some path }
      match applyOwnership env .deploy p.index d.files path p.owner with
      | (files, some cause) =>
        ({ d with files := files }, [written], some (.tempOwnership p.abs cause))
      | (files, none) =>
        let (d, done, failure) := writeTemps { d with files := files } rest
        (d, written :: done, failure)

def cleanupTemps (files : Files) (preps : List FilePrep) : Files :=
  cleanup env .tempRemove FilePrep.tempPath files preps

/-- The renames up to the first that fails. -/
def renameAll : Files → List FilePrep → Files × List FilePrep × Option (String × String)
  | files, [] => (files, [], none)
  | files, p :: rest =>
    match rename env (.rename p.index) files (p.tempPath.getD "") p.abs with
    | .error e => (files, [], some (p.abs, e.message))
    | .ok files =>
      let (files, done, failure) := renameAll files rest
      (files, p :: done, failure)

/-- One file on the way back: without a backup it is removed, otherwise rewritten from the
backup by way of a temp file. -/
def restoreFile (d : Disk) (p : FilePrep) : Disk × Option String :=
  match p.backupTo with
  | none =>
    match remove env (.restoreRemove p.index) d.files p.abs with
    | .ok files => ({ d with files := files }, none)
    | .error .notExist => (d, none)
    | .error e => (d, some e.message)
  | some backup =>
    match readFile env (.restoreRead p.index) d.files backup with
    | .error e => (d, some ("read backup " ++ backup ++ ": " ++ e.message))
    | .ok bytes =>
      match writeTempFile env .restore p.index d p.abs bytes with
      | (d, .error e) => (d, some ("write restore temp for " ++ p.abs ++ ": " ++ e.message))
      | (d, .ok path) =>
        match applyOwnership env .restore p.index d.files path p.owner with
        | (files, some cause) =>
          ({ d with files := removeQuietly env (.restoreUnlink p.index) files path },
            some ("apply ownership during restore for " ++ p.abs ++ ": " ++ cause))
        | (files, none) =>
          match rename env (.restoreRename p.index) files path p.abs with
          | .error e =>
            ({ d with files := removeQuietly env (.restoreUnlink p.index) files path },
              some ("rename during restore for " ++ p.abs ++ ": " ++ e.message))
          | .ok files => ({ d with files := files }, none)

/-- The loop goes on past failures and reports the first. -/
def restoreFromBackups : Disk → List FilePrep → Disk × Option String
  | d, [] => (d, none)
  | d, p :: rest =>
    let (d, failure) := restoreFile env d p
    let (d, later) := restoreFromBackups d rest
    (d, failure.or later)

/-- The backups of a destination beyond the newest `keep`, by name. -/
def staleBackups (files : Files) (abs : String) (keep : Nat) : List String :=
  let beside := files.rows.filter (fun n => decide (dirOf n.path.toList = dirOf abs.toList))
  let names := beside.map (fun n => String.ofList (baseOf n.path.toList))
  let mine := names.filter (fun name =>
    (baseOf abs.toList ++ backupSuffix.toList).isPrefixOf name.toList)
  (mine.insertionSort (· ≤ ·)).take (mine.length - keep)

def pruneBackups (i : Nat) (files : Files) (abs : String) (keep : Nat) : Files :=
  match env.fault (.readDir i) with
  | some _ => files
  | none => (staleBackups files abs keep).foldl (fun files name =>
      removeQuietly env (.pruneRemove i name) files
        (String.ofList (joinPath (dirOf abs.toList) name.toList))) files

/-- Zero stands for the default of three; a negative number keeps all. -/
def janitor (retention : Int) (files : Files) (preps : List FilePrep) : Files :=
  let keep := if retention = 0 then 3 else retention
  if keep > 0 then
    preps.foldl (fun files p => pruneBackups env p.index files p.abs keep.toNat) files
  else files

def Result.initial : Result := ⟨false, [], false, false, false⟩

/-- The reload and, when it fails, the way back. -/
def commit (plan : Plan) (d : Disk) (preps : List FilePrep) (res : Result) : ApplyOutcome :=
  let failure := if plan.postCommit then env.fault (.postCommit false) else none
  match failure with
  | none =>
    ⟨{ d with files := janitor env plan.backupRetention d.files preps },
      some { res with reloaded := true }, none⟩
  | some cause =>
    match restoreFromBackups env d preps with
    | (d, some rollback) => ⟨d, some res, some (.restoreFailed cause rollback)⟩
    | (d, none) =>
      match env.fault (.postCommit true) with
      | some second => ⟨d, some res, some (.reloadAgain cause second)⟩
      | none => ⟨d, some { res with rolledBack := true }, some (.reloadFailed cause)⟩

/-- Renames; a failure in the middle takes back those already made. -/
def swapIn (plan : Plan) (d : Disk) (preps : List FilePrep) (res : Result) : ApplyOutcome :=
  match renameAll env d.files preps with
  | (files, _, none) => commit env plan { d with files := files } preps res
  | (files, done, some (abs, cause)) =>
    let (d, rollback) := restoreFromBackups env { d with files := files } done
    let d := { d with files := cleanupTemps env d.files preps }
    match rollback with
    | some rollback => ⟨d, some res, some (.renameRollback abs rollback cause)⟩
    | none => ⟨d, some res, some (.rename abs cause)⟩

/-- Temp files and their validation. -/
def stage (plan : Plan) (d : Disk) (preps : List FilePrep) (res : Result) : ApplyOutcome :=
  match writeTemps env d preps with
  | (d, written, some e) => ⟨{ d with files := cleanupTemps env d.files written }, none, some e⟩
  | (d, preps, none) =>
    match if plan.preCommit then env.fault .preCommit else none with
    | some cause =>
      ⟨{ d with files := cleanupTemps env d.files preps }, none, some (.validateFailed cause)⟩
    | none => swapIn env plan d preps { res with validateOK := true }

/-- Everything under the locks. -/
def applyLocked (plan : Plan) (files : Files) (abs : List String) : ApplyOutcome :=
  let targets := plan.files.zip abs
  if !plan.skipIdempotent && allMatch env files 0 targets then
    ⟨⟨files, []⟩, some { Result.initial with skippedAsIdempotent := true }, none⟩
  else match prepare env plan.defaults files 0 targets with
    | .error e => ⟨⟨files, []⟩, none, some e⟩
    | .ok preps =>
      if plan.backupRetention = -1 then stage env plan ⟨files, []⟩ preps Result.initial
      else match backupAll env files preps with
        | (files, done, some e) => ⟨⟨cleanupBackups env files done, []⟩, none, some e⟩
        | (files, preps, none) =>
          stage env plan ⟨files, []⟩ preps
            { Result.initial with backupPaths := preps.map (fun p => (p.abs, p.backupTo)) }

def apply (plan : Plan) (files : Files) : ApplyOutcome :=
  match validatePlan env.workingDir plan with
  | .error e => ⟨⟨files, []⟩, none, some (.plan e)⟩
  | .ok _ =>
    match absPaths env.workingDir plan with
    | .error cause => ⟨⟨files, []⟩, none, some (.resolve cause)⟩
    | .ok abs =>
      match env.cancelled with
      | some cause => ⟨⟨files, []⟩, none, some (.cancelled cause)⟩
      | none => applyLocked env plan files abs

end Phases

end Certctl.Source.Deploy

import Mathlib.Algebra.GroupWithZero.Nat
import Certctl.Lib.Numeral
import Certctl.Lib.Table
import Certctl.Source.Deploy.Plan

/-!
The file system as a deployment meets it: regular files under their absolute paths, and
the calls the package makes. Each call has a site, by file and place in the source, and
the surroundings say for each site whether the call fails there; so any choice of
failing calls is one choice of that function. A file is created with the mode asked for.

Source: internal/deploy/atomic.go.
-/
namespace Certctl.Source.Deploy

open Lib

/-- A regular file with its permission bits. -/
structure Node where
  path : String
  bytes : List UInt8
  mode : Fin 512
  uid : Int
  gid : Int

abbrev Files := Table Node.path

/-- Mode bits are numbers below 512. -/
instance modeBits_neZero : NeZero 512 := ⟨by decide⟩

/-- The files, and the temp files the call under way has created. -/
structure Disk where
  files : Files
  created : List String

/-- A temp file is written for the deployment itself or for a restore. -/
inductive TempUse where
  | deploy | restore
  deriving DecidableEq

inductive TempOp where
  | create | write | sync | close | unlink | chmod | chown
  deriving DecidableEq

/-- The places a call is made from; the number is the position of the file in the plan. -/
inductive Site where
  | idempotentRead (i : Nat)
  | prepStat (i : Nat)
  | backupRead (i : Nat)
  | backupStat (i : Nat)
  | backupOpen (i : Nat)
  | backupWrite (i : Nat)
  | backupClose (i : Nat)
  | backupChown (i : Nat)
  | backupRemove (i : Nat)
  | temp (use : TempUse) (op : TempOp) (i : Nat)
  | tempRemove (i : Nat)
  | preCommit
  | rename (i : Nat)
  | postCommit (again : Bool)
  | restoreRemove (i : Nat)
  | restoreRead (i : Nat)
  | restoreRename (i : Nat)
  | restoreUnlink (i : Nat)
  | readDir (i : Nat)
  | pruneRemove (i : Nat) (name : String)
  deriving DecidableEq

/-- The surroundings of a call: which of its calls fail, how much a failing write leaves
behind, the clock where a name is made, the process and its accounts. -/
structure Env where
  workingDir : Except String String
  cancelled : Option String
  fault : Site → Option String
  torn : Site → Nat
  nanos : Site → Int
  root : Bool
  uid : Int
  gid : Int
  lookupUser : String → Except String Int
  lookupGroup : String → Except String Int
  sha256 : List UInt8 → List UInt8

inductive OsError where
  | notExist
  | failed (cause : String)

def OsError.message : OsError → String
  | .notExist => "file does not exist"
  | .failed cause => cause

def tempSuffix : String := ".certctl-tmp."

def backupSuffix : String := ".certctl-bak."

/-- The clock in nanoseconds at a site, padded to nineteen places. -/
def nowNanosStr (env : Env) (site : Site) : String :=
  String.ofList (decimalPadded 19 (env.nanos site))

/-- A file beside `abs` whose name is longer by `more`. -/
def sibling (abs more : String) : String :=
  String.ofList (joinPath (dirOf abs.toList) (baseOf abs.toList ++ more.toList))

def tempPathOf (env : Env) (use : TempUse) (i : Nat) (abs : String) : String :=
  sibling abs (tempSuffix ++ nowNanosStr env (.temp use .create i))

def backupPathOf (env : Env) (i : Nat) (abs : String) : String :=
  sibling abs (backupSuffix ++ nowNanosStr env (.backupOpen i))

section Calls

variable (env : Env) (site : Site) (files : Files)

def stat (p : String) : Except OsError Node :=
  match env.fault site with
  | some cause => .error (.failed cause)
  | none => match files.get? p with
    | none => .error .notExist
    | some n => .ok n

def readFile (p : String) : Except OsError (List UInt8) := (stat env site files p).map Node.bytes

def remove (p : String) : Except OsError Files :=
  match stat env site files p with
  | .error e => .error e
  | .ok _ => .ok (files.delete p)

def rename (old new : String) : Except OsError Files :=
  match stat env site files old with
  | .error e => .error e
  | .ok n => .ok ((files.delete old).upsert { n with path := new })

/-- `os.Remove` with the error ignored. -/
def removeQuietly (p : String) : Files :=
  match remove env site files p with
  | .error _ => files
  | .ok files => files

/-- `os.Chmod`, which keeps the permission bits of the mode. -/
def chmod (p : String) (mode : Nat) : Except OsError Files :=
  match stat env site files p with
  | .error e => .error e
  | .ok n => .ok (files.upsert { n with mode := Fin.ofNat 512 mode })

def chown (p : String) (uid gid : Int) : Except OsError Files :=
  match stat env site files p with
  | .error e => .error e
  | .ok n => .ok (files.upsert { n with uid := uid, gid := gid })

/-- `os.Chown` with the error ignored. -/
def chownQuietly (p : String) (uid gid : Int) : Files :=
  match chown env site files p uid gid with
  | .error _ => files
  | .ok files => files

end Calls

/-- The three calls on the new temp file after its creation; the first that fails leaves
what is on disk by then. -/
def fillTempFile (env : Env) (use : TempUse) (i : Nat) (files : Files) (node : Node)
    (data : List UInt8) : Files × Option String :=
  match env.fault (.temp use .write i) with
  | some cause =>
    (files.upsert { node with bytes := data.take (env.torn (.temp use .write i)) }, some cause)
  | none =>
    (files.upsert { node with bytes := data },
      (env.fault (.temp use .sync i)).or (env.fault (.temp use .close i)))

/-- The temp file is created anew and synced; a failure after its creation removes it. -/
def writeTempFile (env : Env) (use : TempUse) (i : Nat) (d : Disk) (abs : String)
    (data : List UInt8) : Disk × Except OsError String :=
  let path := tempPathOf env use i abs
  match env.fault (.temp use .create i) with
  | some cause => (d, .error (.failed cause))
  | none =>
    if (d.files.get? path).isSome then (d, .error (.failed "file exists"))
    else
      let node : Node := ⟨path, [], 0o600, env.uid, env.gid⟩
      match fillTempFile env use i d.files node data with
      | (files, some cause) =>
        (⟨removeQuietly env (.temp use .unlink i) files path, d.created ++ [path]⟩,
          .error (.failed cause))
      | (files, none) => (⟨files, d.created ++ [path]⟩, .ok path)

/-- The copy of a destination; an existing file of that name is overwritten and keeps its
mode. -/
def backupFile (env : Env) (i : Nat) (files : Files) (abs : String) :
    Files × Except String String :=
  match readFile env (.backupRead i) files abs with
  | .error e => (files, .error ("read for backup: " ++ e.message))
  | .ok src =>
    match stat env (.backupStat i) files abs with
    | .error e => (files, .error ("stat for backup: " ++ e.message))
    | .ok srcStat =>
      let path := backupPathOf env i abs
      match env.fault (.backupOpen i) with
      | some cause => (files, .error ("write backup: " ++ cause))
      | none =>
        let node := (files.get? path).getD ⟨path, [], srcStat.mode, env.uid, env.gid⟩
        match env.fault (.backupWrite i), env.fault (.backupClose i) with
        | some cause, _ =>
          (files.upsert { node with path := path, bytes := src.take (env.torn (.backupWrite i)) },
            .error ("write backup: " ++ cause))
        | none, some cause =>
          (files.upsert { node with path := path, bytes := src },
            .error ("write backup: " ++ cause))
        | none, none =>
          let written := files.upsert { node with path := path, bytes := src }
          (chownQuietly env (.backupChown i) written path srcStat.uid srcStat.gid, .ok path)

section Effects

variable {env : Env} {site : Site} {files files' : Files} {p q : String}

theorem stat_eq_ok {n : Node} :
    stat env site files p = .ok n ↔ env.fault site = none ∧ files.get? p = some n := by
  unfold stat
  split
  next fault => simp [fault]
  next calm =>
    cases files.get? p with
    | none => simp
    | some other => simp [calm]

theorem readFile_eq_ok {bytes : List UInt8} (read : readFile env site files p = .ok bytes) :
    ∃ n, files.get? p = some n ∧ n.bytes = bytes := by
  unfold readFile at read
  cases found : stat env site files p with
  | error e =>
    rw [found] at read
    cases read
  | ok n =>
    rw [found] at read
    cases read
    exact ⟨n, (stat_eq_ok.mp found).2, rfl⟩

theorem get?_removeQuietly (q : String) :
    (removeQuietly env site files p).get? q =
      if q = p ∧ env.fault site = none then none else files.get? q := by
  unfold removeQuietly remove
  cases found : stat env site files p with
  | ok n =>
    obtain ⟨calm, -⟩ := stat_eq_ok.mp found
    simp [calm, Table.get?_delete]
  | error e =>
    change files.get? q = _
    split
    next both =>
      obtain ⟨rfl, calm⟩ := both
      cases absent : files.get? q with
      | none => rfl
      | some n =>
        rw [stat_eq_ok.mpr ⟨calm, absent⟩] at found
        cases found
    next => rfl

theorem rename_ok {old new : String} (renamed : rename env site files old new = .ok files') :
    ∃ n, files.get? old = some n ∧ ∀ q, files'.get? q =
      if q = new then some { n with path := new } else if q = old then none else files.get? q := by
  unfold rename at renamed
  split at renamed
  · cases renamed
  next n found =>
    cases renamed
    refine ⟨n, (stat_eq_ok.mp found).2, fun q => ?_⟩
    rw [Table.get?_upsert, Table.get?_delete]

/-- A node that was found is written back with other attributes. -/
theorem get?_upsert_found {n m : Node} (found : stat env site files p = .ok n)
    (samePath : m.path = n.path) :
    files.get? p = some n ∧
      ∀ q, (files.upsert m).get? q = if q = p then some m else files.get? q := by
  have present := (stat_eq_ok.mp found).2
  refine ⟨present, fun q => ?_⟩
  rw [Table.get?_upsert, samePath, Table.get?_key present]

theorem chmod_ok {mode : Nat} (changed : chmod env site files p mode = .ok files') :
    ∃ n, files.get? p = some n ∧ ∀ q, files'.get? q =
      if q = p then some { n with mode := Fin.ofNat 512 mode } else files.get? q := by
  unfold chmod at changed
  split at changed
  · cases changed
  next n found =>
    cases changed
    exact ⟨n, get?_upsert_found found rfl⟩

theorem chown_ok {uid gid : Int} (changed : chown env site files p uid gid = .ok files') :
    ∃ n, files.get? p = some n ∧ ∀ q, files'.get? q =
      if q = p then some { n with uid := uid, gid := gid } else files.get? q := by
  unfold chown at changed
  split at changed
  · cases changed
  next n found =>
    cases changed
    exact ⟨n, get?_upsert_found found rfl⟩

theorem chownQuietly_spec (uid gid : Int) :
    (∀ q, q ≠ p → (chownQuietly env site files p uid gid).get? q = files.get? q) ∧
    ((chownQuietly env site files p uid gid).get? p).map Node.bytes =
      (files.get? p).map Node.bytes := by
  unfold chownQuietly
  split
  · exact ⟨fun _ _ => rfl, rfl⟩
  next owned changed =>
    obtain ⟨m, full, effect⟩ := chown_ok changed
    refine ⟨fun q other => by rw [effect, if_neg other], ?_⟩
    rw [effect, if_pos rfl, full]
    rfl

variable {data : List UInt8} {i : Nat} {use : TempUse} {abs : String}

theorem fillTempFile_spec {node : Node} {failure : Option String}
    (filled : fillTempFile env use i files node data = (files', failure)) :
    (∀ q, q ≠ node.path → files'.get? q = files.get? q) ∧
      (failure = none → files'.get? node.path = some { node with bytes := data }) := by
  unfold fillTempFile at filled
  split at filled
  · cases filled
    refine ⟨fun q other => ?_, fun none => by cases none⟩
    rw [Table.get?_upsert, if_neg other]
  · cases filled
    refine ⟨fun q other => ?_, fun _ => ?_⟩
    · rw [Table.get?_upsert, if_neg other]
    · rw [Table.get?_upsert, if_pos rfl]

/-- Only the temp file is touched. It was not there before; after success it has the data,
and after a failure it is gone unless its removal failed. -/
theorem writeTempFile_spec {d d' : Disk} {result : Except OsError String}
    (written : writeTempFile env use i d abs data = (d', result)) :
    (∀ q, q ≠ tempPathOf env use i abs → d'.files.get? q = d.files.get? q) ∧ match result with
    | .ok path => path = tempPathOf env use i abs ∧ d.files.get? path = none ∧
        d'.created = d.created ++ [path] ∧ ∃ n, d'.files.get? path = some n ∧ n.bytes = data
    | .error _ => d'.created = d.created ∨ d'.created = d.created ++ [tempPathOf env use i abs] ∧
        (env.fault (.temp use .unlink i) = none →
          d'.files.get? (tempPathOf env use i abs) = none) := by
  unfold writeTempFile at written
  dsimp only at written
  split at written
  · cases written
    exact ⟨fun _ _ => rfl, .inl rfl⟩
  split at written
  · cases written
    exact ⟨fun _ _ => rfl, .inl rfl⟩
  next free =>
    have absent : d.files.get? (tempPathOf env use i abs) = none := by simpa using free
    split at written
    next files' cause filled =>
      cases written
      obtain ⟨frame, -⟩ := fillTempFile_spec filled
      refine ⟨fun q other => ?_, .inr ⟨rfl, fun calm => ?_⟩⟩
      · rw [get?_removeQuietly, if_neg (fun both => other both.1), frame q other]
      · rw [get?_removeQuietly, if_pos ⟨rfl, calm⟩]
    next files' filled =>
      cases written
      obtain ⟨frame, full⟩ := fillTempFile_spec filled
      exact ⟨frame, rfl, absent, rfl, _, full rfl, rfl⟩

/-- Only the backup is touched, and after success it has the bytes of the destination. -/
theorem backupFile_spec {result : Except String String}
    (saved : backupFile env i files abs = (files', result)) :
    (∀ q, q ≠ backupPathOf env i abs → files'.get? q = files.get? q) ∧
    ∀ path, result = .ok path → path = backupPathOf env i abs ∧
      ∃ n, files.get? abs = some n ∧ (files'.get? path).map Node.bytes = some n.bytes := by
  have overwritten : ∀ (bytes : List UInt8) (node : Node) (q : String),
      (files.upsert { node with path := backupPathOf env i abs, bytes := bytes }).get? q =
        if q = backupPathOf env i abs then
          some { node with path := backupPathOf env i abs, bytes := bytes }
        else files.get? q := fun bytes node q => Table.get?_upsert _ _ _
  unfold backupFile at saved
  split at saved
  · cases saved
    exact ⟨fun _ _ => rfl, fun _ failed => by cases failed⟩
  next src read =>
    obtain ⟨n, present, rfl⟩ := readFile_eq_ok read
    split at saved
    · cases saved
      exact ⟨fun _ _ => rfl, fun _ failed => by cases failed⟩
    split at saved
    · cases saved
      exact ⟨fun _ _ => rfl, fun _ failed => by cases failed⟩
    split at saved
    · cases saved
      exact ⟨fun q other => by rw [overwritten, if_neg other], fun _ failed => by cases failed⟩
    · cases saved
      exact ⟨fun q other => by rw [overwritten, if_neg other], fun _ failed => by cases failed⟩
    · cases saved
      refine ⟨fun q other => ?_, ?_⟩
      · rw [(chownQuietly_spec _ _).1 q other, overwritten, if_neg other]
      · intro path good
        injection good with named
        subst named
        refine ⟨rfl, n, present, ?_⟩
        rw [(chownQuietly_spec _ _).2, overwritten, if_pos rfl]
        rfl

end Effects

end Certctl.Source.Deploy

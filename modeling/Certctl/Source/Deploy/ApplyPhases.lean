import Certctl.Lib.Transition
import Certctl.Source.Deploy.Apply
import Certctl.Source.Deploy.ScratchNames

/-!
What each phase of a deployment does to the disk: the paths it touches, and what stands
under them afterwards. Every phase is a loop over the files of the plan, so each result
goes by induction over that list.
-/
namespace Certctl.Source.Deploy

open Lib

namespace FilePrep

variable (env : Env)

def temp (use : TempUse) (p : FilePrep) : String := tempPathOf env use p.index p.abs

def backup (p : FilePrep) : String := backupPathOf env p.index p.abs

/-- The file after the backup phase. -/
def withBackup (p : FilePrep) : FilePrep :=
  { p with backupTo := if p.hadOrig then some (p.backup env) else p.backupTo }

/-- The file after the temp phase. -/
def withTemp (p : FilePrep) : FilePrep := { p with tempPath := some (p.temp env .deploy) }

end FilePrep

section Ownership

variable {env : Env} {files files' : Files} {owner : Ownership}

theorem resolveOwnership_mode {file : File} {defaults : FileDefaults} {existing : Option Node}
    (resolved : resolveOwnership env file defaults existing = .ok owner) :
    (owner.mode, owner.modeSet) = resolveMode file defaults existing := by
  unfold resolveOwnership at resolved
  dsimp only at resolved
  split at resolved
  · obtain ⟨uid, -, resolved⟩ := bind_eq_ok.mp resolved
    obtain ⟨gid, -, resolved⟩ := bind_eq_ok.mp resolved
    cases resolved
    rfl
  split at resolved
  · cases resolved
    rfl
  split at resolved
  · obtain ⟨uid, -, resolved⟩ := bind_eq_ok.mp resolved
    obtain ⟨gid, -, resolved⟩ := bind_eq_ok.mp resolved
    cases resolved
    rfl
  · cases resolved
    rfl

/-- Only the file itself is touched; it keeps its bytes and, on success, has the mode. -/
theorem applyOwnership_spec {use : TempUse} {i : Nat} {path : String} {failure : Option String}
    (applied : applyOwnership env use i files path owner = (files', failure)) :
    (∀ q, q ≠ path → files'.get? q = files.get? q) ∧
    (failure = none → ∀ n, files.get? path = some n →
      ∃ m, files'.get? path = some m ∧ m.bytes = n.bytes ∧
        (owner.modeSet = true → m.mode = Fin.ofNat 512 owner.mode)) := by
  unfold applyOwnership at applied
  dsimp only at applied
  split at applied
  · cases applied
    exact ⟨fun _ _ => rfl, fun none => by cases none⟩
  next moded changed =>
    have mode : (∀ q, q ≠ path → moded.get? q = files.get? q) ∧
        ∀ n, files.get? path = some n → ∃ m, moded.get? path = some m ∧ m.bytes = n.bytes ∧
          (owner.modeSet = true → m.mode = Fin.ofNat 512 owner.mode) := by
      split at changed
      · obtain ⟨m, full, effect⟩ := chmod_ok changed
        refine ⟨fun q other => by rw [effect, if_neg other], fun n present => ?_⟩
        rw [present] at full
        cases full
        exact ⟨{ m with mode := Fin.ofNat 512 owner.mode }, by rw [effect, if_pos rfl], rfl,
          fun _ => rfl⟩
      next unset =>
        cases changed
        exact ⟨fun _ _ => rfl, fun n present => ⟨n, present, rfl, fun set => absurd set unset⟩⟩
    split at applied
    · split at applied
      · cases applied
        exact ⟨mode.1, fun _ => mode.2⟩
      next owned given =>
        cases applied
        obtain ⟨m, full, effect⟩ := chown_ok given
        refine ⟨fun q other => by rw [effect, if_neg other, mode.1 q other], fun _ n present => ?_⟩
        obtain ⟨m', held, bytes, moded⟩ := mode.2 n present
        rw [full] at held
        cases held
        exact ⟨{ m with uid := owner.uid, gid := owner.gid }, by rw [effect, if_pos rfl], bytes,
          moded⟩
    · cases applied
      exact ⟨mode.1, fun _ => mode.2⟩

end Ownership

section Prepare

variable {env : Env} {files : Files}

/-- What is known of a file once it has been looked at: nothing has been written for it;
with the destination there the mode is the file's own or the destination's, and the
destination counts as absent only when it is or when the look at it failed. -/
structure Prepared (env : Env) (files : Files) (p : FilePrep) : Prop where
  unsaved : p.backupTo = none
  unwritten : p.tempPath = none
  seen : p.hadOrig = true → ∃ n, files.get? p.abs = some n ∧ p.owner.modeSet = true ∧
    Fin.ofNat 512 p.owner.mode = if p.file.mode = 0 then n.mode else Fin.ofNat 512 p.file.mode
  unseen : p.hadOrig = false → env.fault (.prepStat p.index) = none → files.get? p.abs = none

variable {defaults : FileDefaults} {i : Nat}

theorem prepared_of_resolved {file : File} {abs : String} {owner : Ownership}
    (resolved : resolveOwnership env file defaults (stat env (.prepStat i) files abs).toOption =
      .ok owner) :
    Prepared env files ⟨i, abs, file, owner, (stat env (.prepStat i) files abs).toOption.isSome,
      none, none⟩ := by
  have moded := resolveOwnership_mode resolved
  refine ⟨rfl, rfl, ?_, ?_⟩
  · intro had
    cases looked : stat env (.prepStat i) files abs with
    | error e =>
      rw [looked] at had
      cases had
    | ok n =>
      refine ⟨n, (stat_eq_ok.mp looked).2, ?_⟩
      rw [looked] at moded
      simp only [Except.toOption, resolveMode] at moded
      split at moded
      next own =>
        obtain ⟨mode, set⟩ := Prod.mk.inj moded
        exact ⟨set, by rw [if_neg own]; exact congrArg _ mode⟩
      next unset =>
        obtain ⟨mode, set⟩ := Prod.mk.inj moded
        refine ⟨set, ?_⟩
        rw [if_pos (not_not.mp unset)]
        exact (congrArg (Fin.ofNat 512) mode).trans (Fin.ofNat_val_eq_self n.mode)
  · intro missed calm
    cases absent : files.get? abs with
    | none => rfl
    | some n =>
      rw [stat_eq_ok.mpr ⟨calm, absent⟩] at missed
      cases missed

theorem prepare_ok {targets : List (File × String)}
    {preps : List FilePrep} (prepared : prepare env defaults files i targets = .ok preps) :
    preps.map FilePrep.abs = targets.map Prod.snd ∧ (∀ p ∈ preps, Prepared env files p) ∧
    ∀ k f a, targets[k]? = some (f, a) → ∃ p ∈ preps, p.index = i + k ∧ p.file = f ∧ p.abs = a := by
  induction targets generalizing i preps with
  | nil =>
    cases prepared
    exact ⟨rfl, fun p member => absurd member List.not_mem_nil, fun k f a found => by simp at found⟩
  | cons target rest ih =>
    obtain ⟨file, abs⟩ := target
    obtain ⟨owner, resolved, prepared⟩ := bind_eq_ok.mp prepared
    obtain ⟨later, more, prepared⟩ := bind_eq_ok.mp prepared
    cases prepared
    obtain ⟨paths, all, positions⟩ := ih more
    refine ⟨by simp [paths], ?_, ?_⟩
    · intro p member
      rcases List.mem_cons.mp member with rfl | inside
      · exact prepared_of_resolved ((mapError_eq_ok _).mp resolved)
      · exact all p inside
    · intro k f a found
      cases k with
      | zero =>
        cases found
        exact ⟨_, List.mem_cons_self .., rfl, rfl, rfl⟩
      | succ k =>
        obtain ⟨p, member, index, same⟩ := positions k f a found
        exact ⟨p, List.mem_cons_of_mem _ member, by omega, same⟩

end Prepare

section Cleanup

variable {env : Env} {site : Nat → Site} {scratch : FilePrep → Option String} {files : Files}
  {preps : List FilePrep} {q : String}

theorem cleanup_frame (other : ∀ p ∈ preps, scratch p ≠ some q) :
    (cleanup env site scratch files preps).get? q = files.get? q := by
  induction preps generalizing files with
  | nil => rfl
  | cons p rest ih =>
    obtain ⟨here, later⟩ := List.forall_mem_cons.mp other
    unfold cleanup
    split
    · exact ih later
    next path named =>
      rw [ih later, get?_removeQuietly, if_neg]
      exact fun both => here (both.1 ▸ named)

theorem cleanup_absent
    (absent : files.get? q = none) : (cleanup env site scratch files preps).get? q = none := by
  induction preps generalizing files with
  | nil => exact absent
  | cons p rest ih =>
    unfold cleanup
    split
    · exact ih absent
    · apply ih
      rw [get?_removeQuietly]
      split
      · rfl
      · exact absent

theorem cleanup_removed (calm : ∀ i, env.fault (site i) = none) {p : FilePrep} (member : p ∈ preps)
    (named : scratch p = some q) : (cleanup env site scratch files preps).get? q = none := by
  induction preps generalizing files with
  | nil => cases member
  | cons r rest ih =>
    unfold cleanup
    rcases List.mem_cons.mp member with rfl | inside
    · rw [named]
      exact cleanup_absent (by rw [get?_removeQuietly, if_pos ⟨rfl, calm _⟩])
    · split
      · exact ih inside
      · exact ih inside

end Cleanup

/-! A loop over the files that stops at the first failure has done a front part of them, and all
of them when nothing failed. -/

section Loops

variable {α ε : Type} {done all : List α} {failure : Option ε}

theorem stopped (front : done <+: all) (failed : failure.isSome = true) :
    done <+: all ∧ (failure = none → done = all) := by
  refine ⟨front, fun none => ?_⟩
  rw [none] at failed
  cases failed

theorem went_on (a : α) (rest : done <+: all ∧ (failure = none → done = all)) :
    a :: done <+: a :: all ∧ (failure = none → a :: done = a :: all) :=
  ⟨List.cons_prefix_cons.mpr ⟨rfl, rest.1⟩, fun none => by rw [rest.2 none]⟩

end Loops

section Backups

variable {env : Env} {dests : List String} {files files' : Files} {failure : Option ApplyError}
  {done preps rest : List FilePrep} {p : FilePrep} {q : String}

/-- The loop stops at a file whose backup fails, or goes on with the file's backup taken
if there was something to save. -/
theorem backupAll_cons (backed : backupAll env files (p :: rest) = (files', done, failure)) :
    (done = [] ∧ failure.isSome = true ∧
      ∃ cause, backupFile env p.index files p.abs = (files', .error cause)) ∨
    ∃ mid tail, backupAll env mid rest = (files', tail, failure) ∧
      done = p.withBackup env :: tail ∧
      (p.hadOrig = true → backupFile env p.index files p.abs = (mid, .ok (p.backup env))) ∧
      (p.hadOrig = false → mid = files) := by
  unfold backupAll at backed
  split at backed
  next had =>
    rcases saved : backupFile env p.index files p.abs with ⟨mid, cause | path⟩
    · rw [saved] at backed
      cases backed
      exact .inl ⟨rfl, rfl, cause, rfl⟩
    · rw [saved] at backed
      obtain ⟨rfl, -⟩ := (backupFile_spec saved).2 path rfl
      rcases more : backupAll env mid rest with ⟨last, tail, failure'⟩
      simp only [more] at backed
      cases backed
      refine .inr ⟨mid, tail, more, ?_, fun _ => rfl, fun absent => ?_⟩
      · simp [FilePrep.withBackup, had, FilePrep.backup]
      · rw [had] at absent
        cases absent
  next absent =>
    rcases more : backupAll env files rest with ⟨last, tail, failure'⟩
    simp only [more] at backed
    cases backed
    refine .inr ⟨files, tail, more, ?_, fun had => absurd had absent, fun _ => rfl⟩
    rw [FilePrep.withBackup, if_neg absent]

theorem backupAll_frame (backed : backupAll env files preps = (files', done, failure))
    (other : ∀ p ∈ preps, q ≠ p.backup env) : files'.get? q = files.get? q := by
  induction preps generalizing files done with
  | nil =>
    cases backed
    rfl
  | cons p rest ih =>
    obtain ⟨here, later⟩ := List.forall_mem_cons.mp other
    rcases backupAll_cons backed with ⟨-, -, cause, failed⟩ | ⟨mid, tail, more, -, saved, skipped⟩
    · exact (backupFile_spec failed).1 q here
    · rw [ih more later]
      cases had : p.hadOrig with
      | true => exact (backupFile_spec (saved had)).1 q here
      | false => rw [skipped had]

theorem backupAll_done (backed : backupAll env files preps = (files', done, failure)) :
    done <+: preps.map (FilePrep.withBackup env) ∧
      (failure = none → done = preps.map (FilePrep.withBackup env)) := by
  induction preps generalizing files done with
  | nil =>
    cases backed
    exact ⟨List.nil_prefix, fun _ => rfl⟩
  | cons p rest ih =>
    rcases backupAll_cons backed with ⟨rfl, failed, -⟩ | ⟨mid, tail, more, rfl, -⟩
    · exact stopped List.nil_prefix failed
    · exact went_on _ (ih more)

/-- After the backups each destination that was there has a copy of its bytes. -/
theorem backupAll_saved (tidy : Tidy dests)
    (inside : ∀ p ∈ preps, p.abs ∈ dests) (distinct : (preps.map FilePrep.abs).Nodup)
    (backed : backupAll env files preps = (files', done, none)) (member : p ∈ preps)
    (had : p.hadOrig = true) :
    ∃ n, files.get? p.abs = some n ∧
      (files'.get? (p.backup env)).map Node.bytes = some n.bytes := by
  induction preps generalizing files done with
  | nil => cases member
  | cons r rest ih =>
    obtain ⟨home, later⟩ := List.forall_mem_cons.mp inside
    obtain ⟨apart, distinct'⟩ := List.nodup_cons.mp distinct
    rcases backupAll_cons backed with ⟨-, failed, -⟩ | ⟨mid, tail, more, -, saved, skipped⟩
    · cases failed
    rcases List.mem_cons.mp member with rfl | among
    · obtain ⟨-, copied⟩ := backupFile_spec (saved had)
      obtain ⟨-, n, present, bytes⟩ := copied _ rfl
      refine ⟨n, present, ?_⟩
      rw [backupAll_frame more, bytes]
      -- a later backup would be of the same destination
      intro q among same
      exact apart (List.mem_map.mpr ⟨q, among, (tidy.backup_inj home (later q among) same).symm⟩)
    · obtain ⟨n, present, bytes⟩ := ih later distinct' more among
      refine ⟨n, ?_, bytes⟩
      cases hadR : r.hadOrig with
      | false => rwa [skipped hadR] at present
      | true =>
        rw [← present]
        exact ((backupFile_spec (saved hadR)).1 _
          (Ne.symm (tidy.backup_ne_dest home (later p among)))).symm

end Backups

section Temps

variable {env : Env} {dests : List String} {d d' : Disk} {failure : Option ApplyError}
  {done preps rest : List FilePrep} {p : FilePrep} {q : String}

/-- The loop stops at a file whose temp file cannot be written or owned, or goes on with
the temp file in place. -/
theorem writeTemps_cons (wrote : writeTemps env d (p :: rest) = (d', done, failure)) :
    (done = [] ∧ failure.isSome = true ∧
      ∃ e, writeTempFile env .deploy p.index d p.abs p.file.bytes = (d', .error e)) ∨
    ∃ mid owned, writeTempFile env .deploy p.index d p.abs p.file.bytes =
        (mid, .ok (p.temp env .deploy)) ∧
      ((done = [p.withTemp env] ∧ failure.isSome = true ∧ d' = { mid with files := owned } ∧
        ∃ cause, applyOwnership env .deploy p.index mid.files (p.temp env .deploy) p.owner =
          (owned, some cause)) ∨
      ∃ tail, applyOwnership env .deploy p.index mid.files (p.temp env .deploy) p.owner =
          (owned, none) ∧
        writeTemps env { mid with files := owned } rest = (d', tail, failure) ∧
        done = p.withTemp env :: tail) := by
  unfold writeTemps at wrote
  rcases written : writeTempFile env .deploy p.index d p.abs p.file.bytes with ⟨mid, e | path⟩
  · rw [written] at wrote
    cases wrote
    exact .inl ⟨rfl, rfl, e, rfl⟩
  · rw [written] at wrote
    obtain ⟨rfl, -⟩ := (writeTempFile_spec written).2
    rcases applied : applyOwnership env .deploy p.index mid.files
      (tempPathOf env .deploy p.index p.abs) p.owner with ⟨owned, none | cause⟩
    · rcases more : writeTemps env { mid with files := owned } rest with ⟨last, tail, failure'⟩
      simp only [applied, more] at wrote
      cases wrote
      exact .inr ⟨mid, owned, rfl, .inr ⟨tail, applied, more, rfl⟩⟩
    · simp only [applied] at wrote
      cases wrote
      exact .inr ⟨mid, owned, rfl, .inl ⟨rfl, rfl, rfl, cause, applied⟩⟩

section

variable (wrote : writeTemps env d preps = (d', done, failure))

include wrote

theorem writeTemps_frame
    (other : ∀ p ∈ preps, q ≠ p.temp env .deploy) : d'.files.get? q = d.files.get? q := by
  induction preps generalizing d done with
  | nil =>
    cases wrote
    rfl
  | cons p rest ih =>
    obtain ⟨here, later⟩ := List.forall_mem_cons.mp other
    rcases writeTemps_cons wrote with ⟨-, -, e, failed⟩ | ⟨mid, owned, written, rest'⟩
    · exact (writeTempFile_spec failed).1 q here
    · rw [← (writeTempFile_spec written).1 q here]
      rcases rest' with ⟨-, -, rfl, cause, applied⟩ | ⟨tail, applied, more, -⟩
      · exact (applyOwnership_spec applied).1 q here
      · rw [ih more later]
        exact (applyOwnership_spec applied).1 q here

theorem writeTemps_done :
    done <+: preps.map (FilePrep.withTemp env) ∧
      (failure = none → done = preps.map (FilePrep.withTemp env)) := by
  induction preps generalizing d done with
  | nil =>
    cases wrote
    exact ⟨List.nil_prefix, fun _ => rfl⟩
  | cons p rest ih =>
    rcases writeTemps_cons wrote with ⟨rfl, failed, -⟩ | ⟨mid, owned, -, rest'⟩
    · exact stopped List.nil_prefix failed
    rcases rest' with ⟨rfl, failed, -⟩ | ⟨tail, -, more, rfl⟩
    · exact stopped (List.cons_prefix_cons.mpr ⟨rfl, List.nil_prefix⟩) failed
    · exact went_on _ (ih more)

/-- Every temp file the loop created is one of those it returns, or is gone again unless a
removal failed. -/
theorem writeTemps_created {t : String} (made : t ∈ d'.created) :
    t ∈ d.created ∨ (∃ p ∈ preps, t = p.temp env .deploy) ∧ ((∃ p ∈ done, p.tempPath = some t) ∨
        ((∀ i, env.fault (.temp .deploy .unlink i) = none) → d'.files.get? t = none)) := by
  induction preps generalizing d done with
  | nil =>
    cases wrote
    exact .inl made
  | cons p rest ih =>
    have mine : ∃ r ∈ p :: rest, p.temp env .deploy = r.temp env .deploy :=
      ⟨p, List.mem_cons_self .., rfl⟩
    rcases writeTemps_cons wrote with ⟨-, -, e, failed⟩ | ⟨mid, owned, written, rest'⟩
    · rcases (writeTempFile_spec failed).2 with same | ⟨added, gone⟩
      · exact .inl (same ▸ made)
      · rw [added] at made
        rcases mem_snoc made with before | rfl
        · exact .inl before
        · exact .inr ⟨mine, .inr (fun calm => gone (calm _))⟩
    obtain ⟨-, -, added, -⟩ := (writeTempFile_spec written).2
    have head : ∀ {t}, t ∈ mid.created → t ∈ d.created ∨ t = p.temp env .deploy := by
      intro t old
      rw [added] at old
      simpa using old
    rcases rest' with ⟨rfl, -, rfl, -⟩ | ⟨tail, applied, more, rfl⟩
    · rcases head made with before | rfl
      · exact .inl before
      · exact .inr ⟨mine, .inl ⟨_, List.mem_singleton_self _, rfl⟩⟩
    · rcases ih more with old | ⟨⟨r, among, rfl⟩, kept⟩
      · rcases head old with before | rfl
        · exact .inl before
        · exact .inr ⟨mine, .inl ⟨_, List.mem_cons_self .., rfl⟩⟩
      · refine .inr ⟨⟨r, List.mem_cons_of_mem _ among, rfl⟩, kept.imp_left ?_⟩
        rintro ⟨x, found, named⟩
        exact ⟨x, List.mem_cons_of_mem _ found, named⟩

end

/-- After the loop each temp file has the bytes of its file. -/
theorem writeTemps_full (tidy : Tidy dests) (inside : ∀ p ∈ preps, p.abs ∈ dests)
    (distinct : (preps.map FilePrep.abs).Nodup) (wrote : writeTemps env d preps = (d', done, none))
    (member : p ∈ preps) :
    (d'.files.get? (p.temp env .deploy)).map Node.bytes = some p.file.bytes := by
  induction preps generalizing d done with
  | nil => cases member
  | cons r rest ih =>
    obtain ⟨home, later⟩ := List.forall_mem_cons.mp inside
    obtain ⟨apart, distinct'⟩ := List.nodup_cons.mp distinct
    rcases writeTemps_cons wrote with ⟨-, failed, -⟩ | ⟨mid, owned, written, rest'⟩
    · cases failed
    rcases rest' with ⟨-, failed, -⟩ | ⟨tail, applied, more, -⟩
    · cases failed
    rcases List.mem_cons.mp member with rfl | among
    · obtain ⟨-, -, -, n, present, bytes⟩ := (writeTempFile_spec written).2
      obtain ⟨m, held, kept, -⟩ := (applyOwnership_spec applied).2 rfl n present
      rw [writeTemps_frame more, held, Option.map_some, kept, bytes]
      intro q among same
      exact apart (List.mem_map.mpr ⟨q, among, (tidy.temp_inj home (later q among) same).symm⟩)
    · exact ih later distinct' more among

end Temps

section Renames

variable {env : Env} {dests : List String} {files files' : Files}
  {failure : Option (String × String)} {done preps rest : List FilePrep} {p : FilePrep} {q : String}

theorem renameAll_cons (renamed : renameAll env files (p :: rest) = (files', done, failure)) :
    (done = [] ∧ failure.isSome = true ∧ files' = files) ∨
    ∃ mid tail, rename env (.rename p.index) files (p.tempPath.getD "") p.abs = .ok mid ∧
      renameAll env mid rest = (files', tail, failure) ∧ done = p :: tail := by
  unfold renameAll at renamed
  split at renamed
  · cases renamed
    exact .inl ⟨rfl, rfl, rfl⟩
  next mid moved =>
    rcases more : renameAll env mid rest with ⟨last, tail, failure'⟩
    simp only [more] at renamed
    cases renamed
    exact .inr ⟨mid, tail, moved, more, rfl⟩

variable (renamed : renameAll env files preps = (files', done, failure))

include renamed

theorem renameAll_done : done <+: preps ∧ (failure = none → done = preps) := by
  induction preps generalizing files done with
  | nil =>
    cases renamed
    exact ⟨List.nil_prefix, fun _ => rfl⟩
  | cons p rest ih =>
    rcases renameAll_cons renamed with ⟨rfl, failed, -⟩ | ⟨mid, tail, -, more, rfl⟩
    · exact stopped List.nil_prefix failed
    · exact went_on _ (ih more)

/-- Only destinations and temp files of the files renamed are touched. -/
theorem renameAll_frame (other : ∀ p ∈ done, q ≠ p.abs ∧ q ≠ p.tempPath.getD "") :
    files'.get? q = files.get? q := by
  induction preps generalizing files done with
  | nil =>
    cases renamed
    rfl
  | cons p rest ih =>
    rcases renameAll_cons renamed with ⟨-, -, rfl⟩ | ⟨mid, tail, moved, more, rfl⟩
    · rfl
    · obtain ⟨⟨notDest, notTemp⟩, later⟩ := List.forall_mem_cons.mp other
      obtain ⟨n, -, effect⟩ := rename_ok moved
      rw [ih more later, effect, if_neg notDest, if_neg notTemp]

/-- A renamed file is at its destination and its temp file is gone. -/
theorem renameAll_moved (tidy : Tidy dests) (inside : ∀ p ∈ preps, p.abs ∈ dests)
    (distinct : (preps.map FilePrep.abs).Nodup)
    (written : ∀ p ∈ preps, p.tempPath = some (p.temp env .deploy)) (member : p ∈ done) :
    files'.get? (p.temp env .deploy) = none ∧
      (files'.get? p.abs).map Node.bytes = (files.get? (p.temp env .deploy)).map Node.bytes := by
  induction preps generalizing files done with
  | nil =>
    cases renamed
    cases member
  | cons r rest ih =>
    obtain ⟨home, later⟩ := List.forall_mem_cons.mp inside
    obtain ⟨writtenHere, writtenLater⟩ := List.forall_mem_cons.mp written
    obtain ⟨apart, distinct'⟩ := List.nodup_cons.mp distinct
    rcases renameAll_cons renamed with ⟨rfl, -⟩ | ⟨mid, tail, moved, more, rfl⟩
    · cases member
    rw [writtenHere, Option.getD_some] at moved
    obtain ⟨n, present, effect⟩ := rename_ok moved
    have front := (renameAll_done more).1
    have different : ∀ q ∈ rest, r.abs ≠ q.abs :=
      fun q among same => apart (List.mem_map.mpr ⟨q, among, same.symm⟩)
    rcases List.mem_cons.mp member with rfl | among
    · -- the later renames touch neither this destination nor this temp file
      have frame : ∀ q ∈ tail,
          (p.temp env .deploy ≠ q.abs ∧ p.temp env .deploy ≠ q.tempPath.getD "") ∧
            p.abs ≠ q.abs ∧ p.abs ≠ q.tempPath.getD "" := by
        intro q inTail
        have inRest := front.subset inTail
        rw [writtenLater q inRest, Option.getD_some]
        exact ⟨⟨tidy.temp_ne_dest home (later q inRest),
          fun same => different q inRest (tidy.temp_inj home (later q inRest) same)⟩,
          different q inRest, Ne.symm (tidy.temp_ne_dest (later q inRest) home)⟩
      have notHere : p.temp env .deploy ≠ p.abs := tidy.temp_ne_dest home home
      rw [renameAll_frame more (fun q inTail => (frame q inTail).1),
        renameAll_frame more (fun q inTail => (frame q inTail).2), effect, effect, if_neg notHere,
        if_pos rfl, if_pos rfl, present]
      exact ⟨rfl, rfl⟩
    · have inRest := front.subset among
      obtain ⟨gone, bytes⟩ := ih more later distinct' writtenLater among
      have notDest : p.temp env .deploy ≠ r.abs := tidy.temp_ne_dest (later p inRest) home
      have notTemp : p.temp env .deploy ≠ r.temp env .deploy :=
        fun same => different p inRest (tidy.temp_inj (later p inRest) home same).symm
      exact ⟨gone, by rw [bytes, effect, if_neg notDest, if_neg notTemp]⟩

end Renames

section Restore

variable {env : Env} {dests : List String} {d d' : Disk} {preps rest : List FilePrep} {p : FilePrep}
  {q t : String}

/-- What a restored destination holds: nothing without a backup, otherwise the bytes of
the backup under the resolved mode. -/
def Restored (files files' : Files) (p : FilePrep) : Prop :=
  match p.backupTo with
  | none => files'.get? p.abs = none
  | some backup => ∃ n m, files.get? backup = some n ∧ files'.get? p.abs = some m ∧
      m.bytes = n.bytes ∧ (p.owner.modeSet = true → m.mode = Fin.ofNat 512 p.owner.mode)

/-- A restore that succeeds touches the destination only: the temp file it goes by was not
there before and has been renamed away. -/
theorem restoreFile_spec (tidy : Tidy dests) (inside : p.abs ∈ dests)
    (restored : restoreFile env d p = (d', none)) :
    (∀ q, q ≠ p.abs → d'.files.get? q = d.files.get? q) ∧
    (∀ t ∈ d'.created, t ∈ d.created ∨ t = p.temp env .restore ∧ d'.files.get? t = none) ∧
    Restored d.files d'.files p := by
  unfold restoreFile at restored
  unfold Restored
  cases saved : p.backupTo with
  | none =>
    simp only [saved] at restored
    unfold remove at restored
    split at restored
    next files removed =>
      cases restored
      split at removed
      · cases removed
      · cases removed
        refine ⟨fun q other => ?_, fun t old => .inl old, ?_⟩
        · rw [Table.get?_delete, if_neg other]
        · exact (Table.get?_delete _ _ _).trans (if_pos rfl)
    next missing =>
      cases restored
      refine ⟨fun _ _ => rfl, fun t old => .inl old, ?_⟩
      split at missing
      next e failed =>
        cases missing
        unfold stat at failed
        split at failed
        · cases failed
        · split at failed
          next absent => exact absent
          · cases failed
      · cases missing
    · cases restored
  | some backup =>
    simp only [saved] at restored
    split at restored
    · cases restored
    next bytes read =>
      obtain ⟨n, present, rfl⟩ := readFile_eq_ok read
      rcases written : writeTempFile env .restore p.index d p.abs n.bytes with ⟨mid, e | path⟩
      · simp only [written] at restored
        cases restored
      obtain ⟨frame, named, absent, added, x, full, bytes⟩ := writeTempFile_spec written
      simp only [written] at restored
      rcases applied : applyOwnership env .restore p.index mid.files path p.owner with
        ⟨owned, none | cause⟩
      · simp only [applied] at restored
        split at restored
        · cases restored
        next last moved =>
          cases restored
          obtain ⟨frame', held⟩ := applyOwnership_spec applied
          obtain ⟨y, present', kept, moded⟩ := held rfl x full
          obtain ⟨z, source, effect⟩ := rename_ok moved
          rw [present'] at source
          cases source
          have apart : path ≠ p.abs := named ▸ tidy.temp_ne_dest inside inside
          refine ⟨fun q other => ?_, fun t made => ?_, n, { y with path := p.abs }, present, ?_,
            kept.trans bytes, moded⟩
          · rw [effect, if_neg other]
            split
            next same => rw [same, absent]
            next different =>
              rw [frame' q different]
              exact frame q (named ▸ different)
          · rw [added] at made
            rcases mem_snoc made with before | rfl
            · exact .inl before
            · exact .inr ⟨named, by rw [effect, if_neg apart, if_pos rfl]⟩
          · rw [effect, if_pos rfl]
      · simp only [applied] at restored
        cases restored

theorem restoreFromBackups_cons (restored : restoreFromBackups env d (p :: rest) = (d', none)) :
    ∃ mid, restoreFile env d p = (mid, none) ∧ restoreFromBackups env mid rest = (d', none) := by
  unfold restoreFromBackups at restored
  rcases first : restoreFile env d p with ⟨mid, failure⟩
  rcases more : restoreFromBackups env mid rest with ⟨last, later⟩
  simp only [first, more] at restored
  cases failure with
  | some cause => cases restored
  | none =>
    cases restored
    exact ⟨mid, rfl, more⟩

section

variable (tidy : Tidy dests) (inside : ∀ p ∈ preps, p.abs ∈ dests)

include tidy inside

variable (restored : restoreFromBackups env d preps = (d', none))

include restored

theorem restoreFromBackups_frame (other : ∀ p ∈ preps, q ≠ p.abs) :
    d'.files.get? q = d.files.get? q := by
  induction preps generalizing d with
  | nil =>
    cases restored
    rfl
  | cons p rest ih =>
    obtain ⟨mid, first, more⟩ := restoreFromBackups_cons restored
    obtain ⟨home, inside'⟩ := List.forall_mem_cons.mp inside
    obtain ⟨here, later⟩ := List.forall_mem_cons.mp other
    rw [ih inside' more later]
    exact (restoreFile_spec tidy home first).1 q here

/-- A restore that succeeds leaves no temp file of its own. -/
theorem restoreFromBackups_created (made : t ∈ d'.created) :
    t ∈ d.created ∨ d'.files.get? t = none := by
  induction preps generalizing d with
  | nil =>
    cases restored
    exact .inl made
  | cons p rest ih =>
    obtain ⟨home, later⟩ := List.forall_mem_cons.mp inside
    obtain ⟨mid, first, more⟩ := restoreFromBackups_cons restored
    rcases ih later more with old | gone
    · rcases (restoreFile_spec tidy home first).2.1 t old with before | ⟨rfl, gone⟩
      · exact .inl before
      · right
        rw [restoreFromBackups_frame tidy later more, gone]
        exact fun r member => tidy.temp_ne_dest home (later r member)
    · exact .inr gone

theorem restoreFromBackups_restored (distinct : (preps.map FilePrep.abs).Nodup)
    (named : ∀ p ∈ preps, ∀ path, p.backupTo = some path → path = p.backup env)
    (member : p ∈ preps) :
    Restored d.files d'.files p := by
  induction preps generalizing d with
  | nil => cases member
  | cons r rest ih =>
    obtain ⟨home, later⟩ := List.forall_mem_cons.mp inside
    obtain ⟨apart, distinct'⟩ := List.nodup_cons.mp distinct
    obtain ⟨mid, first, more⟩ := restoreFromBackups_cons restored
    obtain ⟨frame, -, done⟩ := restoreFile_spec tidy home first
    rcases List.mem_cons.mp member with rfl | among
    · unfold Restored at done ⊢
      rw [restoreFromBackups_frame tidy later more]
      · exact done
      · exact fun q inRest same => apart (List.mem_map.mpr ⟨q, inRest, same.symm⟩)
    · have rest' := ih later more distinct' (List.forall_mem_cons.mp named).2 among
      unfold Restored at rest' ⊢
      cases saved : p.backupTo with
      | none =>
        rw [saved] at rest'
        exact rest'
      | some path =>
        rw [saved] at rest'
        -- no backup is a destination, so the earlier restore left this one alone
        have untouched : mid.files.get? path = d.files.get? path := by
          apply frame
          rw [named p member path saved]
          exact tidy.backup_ne_dest (later p among) home
        dsimp only at rest' ⊢
        rwa [untouched] at rest'

end

end Restore

section Janitor

variable {env : Env} {files : Files}

/-- What the janitor would remove is named like a backup of the destination. -/
theorem scratchOf_stale {abs name : String} {keep : Nat}
    (clean : cleanRooted abs.toList = abs.toList) (stale : name ∈ staleBackups files abs keep) :
    ScratchOf abs (String.ofList (joinPath (dirOf abs.toList) name.toList)) := by
  have among := (List.mem_insertionSort _).mp (List.mem_of_mem_take stale)
  obtain ⟨listed, mine⟩ := List.mem_filter.mp among
  obtain ⟨node, -, named⟩ := List.mem_map.mp listed
  obtain ⟨tail, whole⟩ := List.isPrefixOf_iff_prefix.mp mine
  have long : 3 ≤ (backupSuffix.toList ++ tail).length := by
    rw [List.length_append]
    exact Nat.le_add_right_of_le (by decide)
  -- a directory entry has no slash, so neither has what follows the suffix
  have slashless : '/' ∉ backupSuffix.toList ++ tail := by
    rw [← named, String.toList_ofList, List.append_assoc] at whole
    rcases slash_not_mem_baseOf node.path.toList with root | plain
    · rw [root] at whole
      have lengths := congrArg List.length whole
      rw [List.length_append, List.length_singleton] at lengths
      omega
    · rw [← whole] at plain
      exact fun slash => plain (List.mem_append_right _ slash)
  refine .inr ⟨tail, ?_⟩
  rw [String.toList_ofList, ← whole, List.append_assoc, List.append_assoc,
    joinPath_sibling clean slashless long]

theorem pruneBackups_frame {abs q : String} {i keep : Nat}
    (clean : cleanRooted abs.toList = abs.toList) (other : ¬ ScratchOf abs q) :
    (pruneBackups env i files abs keep).get? q = files.get? q := by
  unfold pruneBackups
  split
  · rfl
  · refine List.foldlRecOn (motive := fun after : Files => after.get? q = files.get? q) _ _ rfl ?_
    intro after same name stale
    rw [get?_removeQuietly, if_neg, same]
    rintro ⟨rfl, -⟩
    exact other (scratchOf_stale clean stale)

/-- The janitor spares every path that is not named like a backup. -/
theorem janitor_frame {retention : Int} {preps : List FilePrep} {q : String}
    (clean : ∀ p ∈ preps, cleanRooted p.abs.toList = p.abs.toList)
    (other : ∀ p ∈ preps, ¬ ScratchOf p.abs q) :
    (janitor env retention files preps).get? q = files.get? q := by
  unfold janitor
  dsimp only
  generalize (if retention = 0 then 3 else retention) = keep
  split
  · refine List.foldlRecOn (motive := fun after : Files => after.get? q = files.get? q) _ _ rfl ?_
    intro after same p member
    rw [pruneBackups_frame (clean p member) (other p member), same]
  · rfl

end Janitor

end Certctl.Source.Deploy

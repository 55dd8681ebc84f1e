import Certctl.Source.Deploy.ApplyPhases

/-!
All or nothing: a deployment that returns an ordinary error has left its destinations as
they were and no temp file behind, and one that returns none has put every file in place.
The way back goes through backups, so it serves the destinations that have one.
-/
namespace Certctl.Guarantees.AtomicDeploy

open Lib Source.Deploy

/-- Existence, bytes and permission bits. -/
def contents (files : Files) (p : String) : Option (List UInt8 × Fin 512) :=
  (files.get? p).map (fun n => (n.bytes, n.mode))

/-- The error comes from a rename or from the reload, after renames may have been made. -/
def afterRename : ApplyError → Bool
  | .rename _ _ => true
  | .reloadFailed _ => true
  | _ => false

/-- A destination the way back serves: it was absent, or backups are on, it was seen, and
the plan asks for no other mode than it has. -/
def Recoverable (env : Env) (plan : Plan) (files : Files) (i : Nat) (f : File) (p : String) :
    Prop :=
  ∀ n, files.get? p = some n →
    plan.backupRetention ≠ -1 ∧ env.fault (.prepStat i) = none ∧
      (f.mode = 0 ∨ Fin.ofNat 512 f.mode = n.mode)

/-- The removals of temp files before the way back all succeed. -/
def TempsRemovable (env : Env) : Prop :=
  ∀ i, env.fault (.tempRemove i) = none ∧ env.fault (.temp .deploy .unlink i) = none

/-- No destination is named like a temp file or backup of another. -/
def NoScratchNames (workingDir : Except String String) (plan : Plan) : Prop :=
  ∀ dests, absPaths workingDir plan = .ok dests → ∀ a ∈ dests, ∀ b ∈ dests, ¬ ScratchOf a b

section Stages

variable {env : Env} {plan : Plan} {before : Files} {dests : List String}

/-- The disk when the temp files are about to be written: the destinations are as before,
and each file has a copy of its destination or a reason for having none. -/
structure Ready (env : Env) (plan : Plan) (before : Files) (dests : List String) (files : Files)
    (preps : List FilePrep) : Prop where
  tidy : Tidy dests
  inside : ∀ p ∈ preps, p.abs ∈ dests
  distinct : (preps.map FilePrep.abs).Nodup
  kept : ∀ q ∈ dests, files.get? q = before.get? q
  named : ∀ p ∈ preps, ∀ path, p.backupTo = some path → path = p.backup env
  saved : ∀ p ∈ preps, p.backupTo ≠ none → ∃ n, before.get? p.abs = some n ∧
    (files.get? (p.backup env)).map Node.bytes = some n.bytes ∧ p.owner.modeSet = true ∧
    Fin.ofNat 512 p.owner.mode = if p.file.mode = 0 then n.mode else Fin.ofNat 512 p.file.mode
  unsaved : ∀ p ∈ preps, p.backupTo = none → plan.backupRetention ≠ -1 →
    env.fault (.prepStat p.index) = none → before.get? p.abs = none

/-- The disk when the renames are about to start. -/
structure Staged (env : Env) (plan : Plan) (before : Files) (dests : List String) (d : Disk)
    (preps : List FilePrep) : Prop extends Ready env plan before dests d.files preps where
  written : ∀ p ∈ preps, p.tempPath = some (p.temp env .deploy)
  full : ∀ p ∈ preps, (d.files.get? (p.temp env .deploy)).map Node.bytes = some p.file.bytes
  created : ∀ t ∈ d.created, ∃ p ∈ preps, t = p.temp env .deploy

/-- What is wanted of an outcome. -/
structure AllOrNothing (env : Env) (plan : Plan) (before : Files) (preps : List FilePrep)
    (outcome : ApplyOutcome) : Prop where
  undone : ∀ e, outcome.error = some e → e.rollbackFailed = false →
    (∀ p ∈ preps, (afterRename e = false ∨ Recoverable env plan before p.index p.file p.abs) →
      contents outcome.disk.files p.abs = contents before p.abs) ∧
    (TempsRemovable env → ∀ t ∈ outcome.disk.created, outcome.disk.files.get? t = none)
  deployed : outcome.error = none →
    ∀ p ∈ preps, (outcome.disk.files.get? p.abs).map Node.bytes = some p.file.bytes

section Outcomes

variable {preps : List FilePrep} {d : Disk} {res : Option Result} {e : ApplyError}

theorem allOrNothing_of_alarm (alarm : e.rollbackFailed = true) :
    AllOrNothing env plan before preps ⟨d, res, some e⟩ := by
  refine ⟨?_, fun none => by cases none⟩
  rintro _ ⟨⟩ ordinary
  rw [alarm] at ordinary
  cases ordinary

theorem allOrNothing_of_error
    (kept : ∀ p ∈ preps, (afterRename e = false ∨
      Recoverable env plan before p.index p.file p.abs) →
        contents d.files p.abs = contents before p.abs)
    (gone : TempsRemovable env → ∀ t ∈ d.created, d.files.get? t = none) :
    AllOrNothing env plan before preps ⟨d, res, some e⟩ := by
  refine ⟨?_, fun none => by cases none⟩
  rintro _ ⟨⟩ -
  exact ⟨kept, gone⟩

/-- Only position, file and destination count. -/
theorem AllOrNothing.of_map {outcome : ApplyOutcome} {f : FilePrep → FilePrep}
    (same : ∀ p, (f p).index = p.index ∧ (f p).file = p.file ∧ (f p).abs = p.abs)
    (sound : AllOrNothing env plan before (preps.map f) outcome) :
    AllOrNothing env plan before preps outcome := by
  refine ⟨fun e failed ordinary => ?_, fun done p member => ?_⟩
  · obtain ⟨kept, gone⟩ := sound.undone e failed ordinary
    refine ⟨fun p member => ?_, gone⟩
    have back := kept (f p) (List.mem_map_of_mem member)
    rwa [(same p).1, (same p).2.1, (same p).2.2] at back
  · have full := sound.deployed done (f p) (List.mem_map_of_mem member)
    rwa [(same p).2.1, (same p).2.2] at full

end Outcomes

variable {files : Files} {done preps : List FilePrep}
  (ready : Ready env plan before dests files preps) {p : FilePrep}

include ready in
/-- A restored destination holds what it held before, if it is one the way back serves. -/
theorem contents_restored {files' mid : Files} (member : p ∈ preps)
    (backups : ∀ p ∈ preps, mid.get? (p.backup env) = files.get? (p.backup env))
    (restored : Restored mid files' p)
    (recoverable : Recoverable env plan before p.index p.file p.abs) :
    contents files' p.abs = contents before p.abs := by
  unfold Restored at restored
  cases saved : p.backupTo with
  | none =>
    rw [saved] at restored
    have absent : before.get? p.abs = none := by
      cases present : before.get? p.abs with
      | none => rfl
      | some n =>
        obtain ⟨on, seen, -⟩ := recoverable n present
        rw [ready.unsaved p member saved on seen] at present
        cases present
    rw [contents, contents, restored, absent]
  | some path =>
    rw [saved] at restored
    obtain ⟨copy, m, held, now, bytes, moded⟩ := restored
    obtain ⟨n, present, copied, modeSet, mode⟩ := ready.saved p member (by simp [saved])
    rw [ready.named p member path saved, backups p member] at held
    rw [held] at copied
    have sameBytes : m.bytes = n.bytes := bytes.trans (Option.some.inj copied)
    have sameMode : m.mode = n.mode := by
      rw [moded modeSet, mode]
      split
      · rfl
      next own => exact (recoverable n present).2.2.resolve_left own
    rw [contents, contents, now, present, Option.map_some, Option.map_some, sameBytes, sameMode]

section RolledBack

variable {d d' : Disk} {failure : Option (String × String)}
  (staged : Staged env plan before dests d preps)
  (renamed : renameAll env d.files preps = (files, done, failure))
  (restored : restoreFromBackups env { d with files := files } done = (d', none))

include staged renamed restored

/-- After a restore of the files renamed so far, every destination the way back serves is
as before. -/
theorem contents_rolledBack (member : p ∈ preps)
    (recoverable : Recoverable env plan before p.index p.file p.abs) :
    contents d'.files p.abs = contents before p.abs := by
  have tidy := staged.tidy
  have front := (renameAll_done renamed).1
  have inside : ∀ r ∈ done, r.abs ∈ dests := fun r among => staged.inside r (front.subset among)
  have temps : ∀ r ∈ done, r.tempPath.getD "" = r.temp env .deploy := by
    intro r among
    rw [staged.written r (front.subset among), Option.getD_some]
  by_cases among : p ∈ done
  · have distinct : (done.map FilePrep.abs).Nodup :=
      staged.distinct.sublist (front.sublist.map FilePrep.abs)
    have back := restoreFromBackups_restored tidy inside restored distinct
      (fun r here => staged.named r (front.subset here)) among
    refine contents_restored staged.toReady member (fun q inPreps => ?_) back recoverable
    -- the renames touch destinations and temp files, never a backup
    apply renameAll_frame renamed
    intro r here
    rw [temps r here]
    exact ⟨tidy.backup_ne_dest (staged.inside q inPreps) (inside r here),
      Ne.symm (tidy.temp_ne_backup (inside r here) (staged.inside q inPreps))⟩
  · have home := staged.inside p member
    have others : ∀ r ∈ done, p.abs ≠ r.abs := by
      intro r here same
      have equal := List.inj_on_of_nodup_map staged.distinct member (front.subset here) same
      exact among (equal ▸ here)
    rw [contents, restoreFromBackups_frame tidy inside restored others, renameAll_frame renamed,
      staged.kept _ home, contents]
    intro r here
    rw [temps r here]
    exact ⟨others r here, Ne.symm (tidy.temp_ne_dest (inside r here) home)⟩

/-- The temp files that may still be there after such a restore are the deployment's own. -/
theorem created_rolledBack {t : String} (made : t ∈ d'.created) :
    (∃ p ∈ preps, t = p.temp env .deploy) ∨ d'.files.get? t = none := by
  have front := (renameAll_done renamed).1
  have inside : ∀ r ∈ done, r.abs ∈ dests := fun r among => staged.inside r (front.subset among)
  exact (restoreFromBackups_created staged.tidy inside restored made).imp_left
    (fun old => staged.created t old)

end RolledBack

variable {d : Disk} {res : Result}

theorem commit_allOrNothing (staged : Staged env plan before dests d preps)
    (renamed : renameAll env d.files preps = (files, done, none)) :
    AllOrNothing env plan before preps (commit env plan { d with files := files } preps res) := by
  have tidy := staged.tidy
  obtain rfl : done = preps := (renameAll_done renamed).2 rfl
  have moved := fun {p} (member : p ∈ done) =>
    renameAll_moved renamed tidy staged.inside staged.distinct staged.written member
  unfold commit
  dsimp only
  split
  · refine ⟨fun _ failed => (by cases failed), fun _ p member => ?_⟩
    have home := staged.inside p member
    rw [janitor_frame (fun r among => tidy.clean _ (staged.inside r among))
      (fun r among => tidy.unreserved _ (staged.inside r among) _ home), (moved member).2,
      staged.full p member]
  next cause _ =>
    rcases restored : restoreFromBackups env { d with files := files } done with
      ⟨d', none | rollback⟩
    · dsimp only
      split
      · exact allOrNothing_of_alarm rfl
      · apply allOrNothing_of_error
        · rintro p member (early | recoverable)
          · cases early
          · exact contents_rolledBack staged renamed restored member recoverable
        · intro _ t made
          rcases created_rolledBack staged renamed restored made with ⟨p, member, rfl⟩ | gone
          · rw [restoreFromBackups_frame tidy staged.inside restored, (moved member).1]
            exact fun r among => tidy.temp_ne_dest (staged.inside p member) (staged.inside r among)
          · exact gone
    · exact allOrNothing_of_alarm rfl

theorem swapIn_allOrNothing (staged : Staged env plan before dests d preps) :
    AllOrNothing env plan before preps (swapIn env plan d preps res) := by
  have tidy := staged.tidy
  unfold swapIn
  rcases renamed : renameAll env d.files preps with ⟨files, done, none | ⟨abs, cause⟩⟩
  · exact commit_allOrNothing staged renamed
  dsimp only
  rcases restored : restoreFromBackups env { d with files := files } done with
    ⟨d', none | rollback⟩
  · apply allOrNothing_of_error
    · rintro p member (early | recoverable)
      · cases early
      · rw [← contents_rolledBack staged renamed restored member recoverable]
        simp only [contents]
        rw [cleanupTemps, cleanup_frame]
        intro r among
        rw [staged.written r among]
        exact fun same => tidy.temp_ne_dest (staged.inside r among) (staged.inside p member)
          (Option.some.inj same)
    · intro calm t made
      rcases created_rolledBack staged renamed restored made with ⟨p, member, rfl⟩ | gone
      · exact cleanup_removed (fun i => (calm i).1) member (staged.written p member)
      · exact cleanup_absent gone
  · exact allOrNothing_of_alarm rfl

include ready in
/-- Writing the temp files leaves backups and destinations alone. -/
theorem Ready.staged (wrote : writeTemps env ⟨files, []⟩ preps = (d, done, none)) :
    Staged env plan before dests d done := by
  have tidy := ready.tidy
  obtain rfl := (writeTemps_done wrote).2 rfl
  have paths : (preps.map (FilePrep.withTemp env)).map FilePrep.abs = preps.map FilePrep.abs := by
    rw [List.map_map]
    rfl
  have untouched : ∀ p ∈ preps, d.files.get? (p.backup env) = files.get? (p.backup env) := by
    intro p member
    apply writeTemps_frame wrote
    exact fun r among =>
      Ne.symm (tidy.temp_ne_backup (ready.inside r among) (ready.inside p member))
  have full : ∀ p ∈ preps,
      (d.files.get? (p.temp env .deploy)).map Node.bytes = some p.file.bytes :=
    fun p member => writeTemps_full tidy ready.inside ready.distinct wrote member
  refine ⟨⟨tidy, ?_, paths ▸ ready.distinct, ?_, ?_, ?_, ?_⟩, ?_, ?_, ?_⟩
  · exact List.forall_mem_map.mpr ready.inside
  · intro q home
    rw [writeTemps_frame wrote, ready.kept q home]
    exact fun r among => Ne.symm (tidy.temp_ne_dest (ready.inside r among) home)
  · exact List.forall_mem_map.mpr ready.named
  · refine List.forall_mem_map.mpr (fun p member saved => ?_)
    obtain ⟨n, present, copied, moded⟩ := ready.saved p member saved
    exact ⟨n, present, (congrArg _ (untouched p member)).trans copied, moded⟩
  · exact List.forall_mem_map.mpr ready.unsaved
  · exact List.forall_mem_map.mpr (fun _ _ => rfl)
  · exact List.forall_mem_map.mpr full
  · intro t made
    rcases writeTemps_created wrote made with old | ⟨⟨p, member, rfl⟩, -⟩
    · cases old
    · exact ⟨p.withTemp env, List.mem_map_of_mem member, rfl⟩

include ready in
/-- Failing before the renames: the destinations have not been touched, and the cleanup
removes the temp files there are. -/
theorem cleaned_allOrNothing {failure : Option ApplyError} {e : ApplyError}
    (wrote : writeTemps env ⟨files, []⟩ preps = (d, done, failure)) :
    AllOrNothing env plan before preps
      ⟨{ d with files := cleanupTemps env d.files done }, none, some e⟩ := by
  have tidy := ready.tidy
  have front := (writeTemps_done wrote).1
  have temps : ∀ r ∈ done, ∃ p ∈ preps, r.tempPath = some (p.temp env .deploy) := by
    intro r among
    obtain ⟨p, member, rfl⟩ := List.mem_map.mp (front.subset among)
    exact ⟨p, member, rfl⟩
  apply allOrNothing_of_error
  · intro p member _
    have home := ready.inside p member
    simp only [contents]
    rw [cleanupTemps, cleanup_frame, writeTemps_frame wrote, ready.kept _ home]
    · exact fun r among => Ne.symm (tidy.temp_ne_dest (ready.inside r among) home)
    · intro r among
      obtain ⟨q, inPreps, named⟩ := temps r among
      rw [named]
      exact fun same => tidy.temp_ne_dest (ready.inside q inPreps) home (Option.some.inj same)
  · intro calm t made
    rcases writeTemps_created wrote made with old | ⟨-, ⟨p, among, named⟩ | gone⟩
    · cases old
    · exact cleanup_removed (fun i => (calm i).1) among named
    · exact cleanup_absent (gone (fun i => (calm i).2))

include ready in
theorem stage_allOrNothing :
    AllOrNothing env plan before preps (stage env plan ⟨files, []⟩ preps res) := by
  unfold stage
  rcases wrote : writeTemps env ⟨files, []⟩ preps with ⟨d, done, none | e⟩
  · dsimp only
    split
    · exact cleaned_allOrNothing ready wrote
    · obtain rfl := (writeTemps_done wrote).2 rfl
      exact AllOrNothing.of_map (f := FilePrep.withTemp env) (fun p => ⟨rfl, rfl, rfl⟩)
        (swapIn_allOrNothing (ready.staged wrote))
  · exact cleaned_allOrNothing ready wrote

end Stages

section Plans

variable {env : Env} {plan : Plan} {files : Files} {dests : List String}

section

variable {preps done : List FilePrep} (tidy : Tidy dests) (inside : ∀ p ∈ preps, p.abs ∈ dests)
  (distinct : (preps.map FilePrep.abs).Nodup) (prepared : ∀ p ∈ preps, Prepared env files p)

include tidy inside distinct prepared

theorem ready_without_backups (off : plan.backupRetention = -1) :
    Ready env plan files dests files preps := by
  refine ⟨tidy, inside, distinct, fun _ _ => rfl, ?_, ?_, fun _ _ _ on => absurd off on⟩
  · intro p member path saved
    rw [(prepared p member).unsaved] at saved
    cases saved
  · exact fun p member saved => absurd (prepared p member).unsaved saved

theorem ready_of_backups {files' : Files}
    (backed : backupAll env files preps = (files', done, none)) :
    Ready env plan files dests files' done := by
  obtain rfl := (backupAll_done backed).2 rfl
  have paths : (preps.map (FilePrep.withBackup env)).map FilePrep.abs = preps.map FilePrep.abs := by
    rw [List.map_map]
    rfl
  refine ⟨tidy, List.forall_mem_map.mpr inside, paths ▸ distinct, ?_,
    List.forall_mem_map.mpr ?_, List.forall_mem_map.mpr ?_, List.forall_mem_map.mpr ?_⟩
  · intro q home
    exact backupAll_frame backed
      (fun r among => Ne.symm (tidy.backup_ne_dest (inside r among) home))
  all_goals
    intro p member
    simp only [FilePrep.withBackup, (prepared p member).unsaved]
    split
  · exact fun path saved => (Option.some.inj saved).symm
  · exact fun path saved => by cases saved
  next had =>
    intro _
    obtain ⟨n, present, copied⟩ := backupAll_saved tidy inside distinct backed member had
    obtain ⟨n', present', modeSet, mode⟩ := (prepared p member).seen had
    rw [present] at present'
    cases present'
    exact ⟨n, present, copied, modeSet, mode⟩
  · exact fun saved => absurd rfl saved
  · exact fun saved => by cases saved
  next missed =>
    intro _ _ seen
    exact (prepared p member).unseen (by simpa using missed) seen

end

/-- Under the locks a deployment has the files looked at, or it has failed before touching
a destination, or everything was in place already. -/
theorem applyLocked_cases (tidy : Tidy dests) (distinct : dests.Nodup)
    (paired : (plan.files.zip dests).map Prod.snd = dests) :
    (∃ res, (applyLocked env plan files dests).result = some res ∧
      res.skippedAsIdempotent = true ∧ (applyLocked env plan files dests).error = none) ∨
    ((applyLocked env plan files dests).error.isSome = true ∧
      (applyLocked env plan files dests).disk.created = [] ∧
      ∀ q ∈ dests, (applyLocked env plan files dests).disk.files.get? q = files.get? q) ∨
    ∃ preps, prepare env plan.defaults files 0 (plan.files.zip dests) = .ok preps ∧
      AllOrNothing env plan files preps (applyLocked env plan files dests) := by
  unfold applyLocked
  dsimp only
  split
  · exact .inl ⟨_, rfl, rfl, rfl⟩
  right
  split
  · exact .inl ⟨rfl, rfl, fun _ _ => rfl⟩
  next preps prepared =>
    obtain ⟨paths, known, -⟩ := prepare_ok prepared
    rw [paired] at paths
    have inside : ∀ p ∈ preps, p.abs ∈ dests :=
      fun p member => paths ▸ List.mem_map_of_mem member
    have distinct' : (preps.map FilePrep.abs).Nodup := paths ▸ distinct
    split
    next off =>
      exact .inr ⟨preps, prepared,
        stage_allOrNothing (ready_without_backups tidy inside distinct' known off)⟩
    · rcases backed : backupAll env files preps with ⟨files', done, none | e⟩
      · obtain rfl := (backupAll_done backed).2 rfl
        refine .inr ⟨preps, prepared, AllOrNothing.of_map (f := FilePrep.withBackup env)
          (fun p => ⟨rfl, rfl, rfl⟩) ?_⟩
        exact stage_allOrNothing (ready_of_backups tidy inside distinct' known backed)
      · refine .inl ⟨rfl, rfl, fun q home => ?_⟩
        dsimp only
        rw [cleanupBackups, cleanup_frame, backupAll_frame backed]
        · exact fun r among => Ne.symm (tidy.backup_ne_dest (inside r among) home)
        · intro r among
          obtain ⟨p, member, rfl⟩ := List.mem_map.mp ((backupAll_done backed).1.subset among)
          simp only [FilePrep.withBackup, (known p member).unsaved]
          split
          · exact fun same => tidy.backup_ne_dest (inside p member) home (Option.some.inj same)
          · exact fun same => by cases same

theorem tidy_of_plan (resolved : absPaths env.workingDir plan = .ok dests)
    (unreserved : NoScratchNames env.workingDir plan) : Tidy dests := by
  refine ⟨fun a member => ?_, unreserved dests resolved⟩
  have own : absolutePath env.workingDir a = .ok a := absolutePath_of_mem_absPaths resolved member
  obtain ⟨text, rfl⟩ := absolutePath_eq_ok own
  rw [String.toList_ofList, cleanRooted_cleanRooted]

/-- A valid plan none of whose destinations is named like a scratch file of another: after
an ordinary error every destination is as before, unless renames may have been made and the
way back does not serve it, and no temp file is left, unless a removal failed; and without
an error, unless all was in place, every destination has its bytes. -/
theorem deploy_all_or_nothing (env : Env) (plan : Plan) (files : Files)
    (valid : validatePlan env.workingDir plan = .ok ())
    (unreserved : NoScratchNames env.workingDir plan) :
    (∀ e, (apply env plan files).error = some e → e.rollbackFailed = false →
      (∀ i f p, plan.files[i]? = some f → absolutePath env.workingDir f.path = .ok p →
        (afterRename e = false ∨ Recoverable env plan files i f p) →
          contents (apply env plan files).disk.files p = contents files p) ∧
      (TempsRemovable env → ∀ t ∈ (apply env plan files).disk.created,
        (apply env plan files).disk.files.get? t = none)) ∧
    ((apply env plan files).error = none →
      (∀ res, (apply env plan files).result = some res → res.skippedAsIdempotent = false) →
      ∀ f ∈ plan.files, ∀ p, absolutePath env.workingDir f.path = .ok p →
        ((apply env plan files).disk.files.get? p).map Node.bytes = some f.bytes) := by
  obtain ⟨dests, resolved, distinct⟩ := validatePlan_ok valid
  have tidy := tidy_of_plan resolved unreserved
  have paired : (plan.files.zip dests).map Prod.snd = dests :=
    List.map_snd_zip (Nat.le_of_eq (length_absPaths resolved))
  have target : ∀ (i : Nat) (f : File) (p : String), plan.files[i]? = some f →
      absolutePath env.workingDir f.path = .ok p →
        dests[i]? = some p ∧ (plan.files.zip dests)[i]? = some (f, p) := by
    intro i f p position found
    have at' := absPaths_getElem? resolved position found
    exact ⟨at', List.getElem?_zip_eq_some.mpr ⟨position, at'⟩⟩
  unfold apply
  rw [valid, resolved]
  dsimp only
  split
  · -- cancelled before anything is looked at
    exact ⟨fun _ _ _ => ⟨fun _ _ _ _ _ _ => rfl, fun _ _ made => by cases made⟩,
      fun none => by cases none⟩
  rcases applyLocked_cases tidy distinct paired with
    ⟨res, returned, skipped, silent⟩ | ⟨failed, made, kept⟩ | ⟨preps, prepared, sound⟩
  · refine ⟨fun e failed => ?_, fun _ full => ?_⟩
    · rw [silent] at failed
      cases failed
    · rw [full res returned] at skipped
      cases skipped
  · refine ⟨fun e _ _ => ⟨fun i f p position found _ => ?_, fun _ t among => ?_⟩, fun none => ?_⟩
    · rw [contents, kept p (List.mem_of_getElem? (target i f p position found).1), contents]
    · rw [made] at among
      cases among
    · rw [none] at failed
      cases failed
  · obtain ⟨-, -, positions⟩ := prepare_ok prepared
    refine ⟨fun e failed ordinary => ?_, fun silent _ f member p found => ?_⟩
    · obtain ⟨kept, gone⟩ := sound.undone e failed ordinary
      refine ⟨fun i f p position found serves => ?_, gone⟩
      obtain ⟨prep, among, index, rfl, rfl⟩ :=
        positions i f p (target i f p position found).2
      rw [Nat.zero_add] at index
      exact kept prep among (index ▸ serves)
    · obtain ⟨i, position⟩ := List.mem_iff_getElem?.mp member
      obtain ⟨prep, among, -, rfl, rfl⟩ := positions i f p (target i f p position found).2
      exact sound.deployed silent prep among

end Plans

section Instances

/-- Surroundings in which exactly the calls at the given sites fail. -/
def failingAt (sites : List Site) : Env where
  workingDir := .ok "/"
  cancelled := none
  fault site := if site ∈ sites then some "denied" else none
  torn _ := 0
  nanos _ := 1
  root := false
  uid := 0
  gid := 0
  lookupUser _ := .error "unknown user"
  lookupGroup _ := .error "unknown group"
  sha256 := id

def oneFile (mode : Nat) (retention : Int) : Plan :=
  ⟨[⟨"/k", [2], mode, "", ""⟩], ⟨0, "", ""⟩, true, true, retention, false⟩

/-- A plan whose second destination is named like a backup of the first. -/
def scratchNamed : Plan :=
  ⟨[⟨"/k", [2], 0, "", ""⟩, ⟨"/k.certctl-bak.0", [3], 0, "", ""⟩], ⟨0, "", ""⟩, false, false, 1,
    false⟩

def oneNode : Files := (Table.empty Node.path).upsert ⟨"/k", [1], 0o640, 0, 0⟩

/-- The reload fails with an ordinary error and the destination is not as before. -/
def loses (env : Env) (plan : Plan) : Bool :=
  decide ((apply env plan oneNode).error = some (.reloadFailed "denied")) &&
    decide (contents (apply env plan oneNode).disk.files "/k" ≠ contents oneNode "/k")

theorem restores_oneFile :
    (apply (failingAt [.postCommit false]) (oneFile 0 0) oneNode).error =
      some (.reloadFailed "denied") ∧
    contents (apply (failingAt [.postCommit false]) (oneFile 0 0) oneNode).disk.files "/k" =
      contents oneNode "/k" := by
  have failed : (apply (failingAt [.postCommit false]) (oneFile 0 0) oneNode).error =
      some (.reloadFailed "denied") := by decide +kernel
  have unreserved : NoScratchNames (.ok "/") (oneFile 0 0) := by
    intro dests resolved
    cases resolved
    decide +kernel
  have served : Recoverable (failingAt [.postCommit false]) (oneFile 0 0) oneNode 0
      ⟨"/k", [2], 0, "", ""⟩ "/k" := fun _ _ => ⟨by decide, by decide, .inl rfl⟩
  obtain ⟨kept, -⟩ := (deploy_all_or_nothing (failingAt [.postCommit false]) (oneFile 0 0) oneNode
    (by decide +kernel) unreserved).1 _ failed rfl
  exact ⟨failed, kept 0 ⟨"/k", [2], 0, "", ""⟩ "/k" rfl (by decide +kernel) (.inr served)⟩

/-- With backups off, with a mode of its own, or after a failed look at it, a destination is
not as before after an ordinary reload error; a temp file whose removal fails stays behind;
and a destination named like a backup is pruned by the successful deployment itself. -/
theorem deploy_not_all_or_nothing :
    loses (failingAt [.postCommit false]) (oneFile 0 (-1)) = true ∧
    loses (failingAt [.postCommit false]) (oneFile 0o600 0) = true ∧
    loses (failingAt [.prepStat 0, .postCommit false]) (oneFile 0 0) = true ∧
    (apply (failingAt [.preCommit, .tempRemove 0]) (oneFile 0 0) oneNode).error =
      some (.validateFailed "denied") ∧
    (∃ t ∈ (apply (failingAt [.preCommit, .tempRemove 0]) (oneFile 0 0) oneNode).disk.created,
      ((apply (failingAt [.preCommit, .tempRemove 0]) (oneFile 0 0) oneNode).disk.files.get?
        t).isSome = true) ∧
    (apply (failingAt []) scratchNamed oneNode).error = none ∧
    (apply (failingAt []) scratchNamed oneNode).result.map Result.skippedAsIdempotent =
      some false ∧
    (apply (failingAt []) scratchNamed oneNode).disk.files.get? "/k.certctl-bak.0" = none := by
  decide +kernel

end Instances

end Certctl.Guarantees.AtomicDeploy

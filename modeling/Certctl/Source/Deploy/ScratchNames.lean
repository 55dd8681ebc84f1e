import Certctl.Source.Deploy.FileSystem

/-!
The names of temp files and backups. A destination is a cleaned path, so a scratch file
beside it is that path with a suffix and the clock behind it; the clock has no dot, so the
suffix and the destination can be read off the name.
-/
namespace Certctl.Source.Deploy

open Lib

/-- The path has the form of a temp file or backup of the destination. -/
def ScratchOf (abs path : String) : Prop :=
  (abs.toList ++ tempSuffix.toList) <+: path.toList ∨
    (abs.toList ++ backupSuffix.toList) <+: path.toList

instance (abs path : String) : Decidable (ScratchOf abs path) :=
  inferInstanceAs (Decidable (_ ∨ _))

/-- Cleaned paths none of which is named like a scratch file of another. -/
structure Tidy (dests : List String) : Prop where
  clean : ∀ a ∈ dests, cleanRooted a.toList = a.toList
  unreserved : ∀ a ∈ dests, ∀ b ∈ dests, ¬ ScratchOf a b

variable {site : Site} {env : Env}

theorem mem_nowNanosStr {c : Char}
    (member : c ∈ (nowNanosStr env site).toList) : c ≠ '/' ∧ c ≠ '.' := by
  rw [nowNanosStr, String.toList_ofList] at member
  rcases mem_decimalPadded member with rfl | ⟨d, small, rfl⟩
  · decide
  · clear member
    revert d
    decide

theorem sibling_toList {abs suffix : String}
    (clean : cleanRooted abs.toList = abs.toList) (slashless : '/' ∉ suffix.toList)
    (long : 3 ≤ suffix.toList.length) :
    (sibling abs (suffix ++ nowNanosStr env site)).toList =
      abs.toList ++ (suffix.toList ++ (nowNanosStr env site).toList) := by
  unfold sibling
  rw [String.toList_ofList, String.toList_append]
  apply joinPath_sibling clean
  · intro slash
    rcases List.mem_append.mp slash with inSuffix | inClock
    · exact slashless inSuffix
    · exact (mem_nowNanosStr inClock).1 rfl
  · rw [List.length_append]
    omega

section Names

variable {env : Env} {use use' : TempUse} {i j : Nat} {a b : String}
  (clean : cleanRooted a.toList = a.toList)

include clean in
theorem tempPathOf_toList :
    (tempPathOf env use i a).toList = (a.toList ++ ".certctl-tmp".toList) ++
      '.' :: (nowNanosStr env (.temp use .create i)).toList := by
  unfold tempPathOf
  rw [sibling_toList clean (by decide) (by decide), List.append_assoc]
  rfl

include clean in
theorem backupPathOf_toList :
    (backupPathOf env i a).toList = (a.toList ++ ".certctl-bak".toList) ++
      '.' :: (nowNanosStr env (.backupOpen i)).toList := by
  unfold backupPathOf
  rw [sibling_toList clean (by decide) (by decide), List.append_assoc]
  rfl

include clean in
theorem scratchOf_tempPathOf :
    ScratchOf a (tempPathOf env use i a) := by
  refine .inl ⟨(nowNanosStr env (.temp use .create i)).toList, ?_⟩
  rw [tempPathOf_toList clean, List.append_assoc, List.append_assoc]
  rfl

include clean in
theorem scratchOf_backupPathOf :
    ScratchOf a (backupPathOf env i a) := by
  refine .inr ⟨(nowNanosStr env (.backupOpen i)).toList, ?_⟩
  rw [backupPathOf_toList clean, List.append_assoc, List.append_assoc]
  rfl

variable {dests : List String} (tidy : Tidy dests) (ha : a ∈ dests) (hb : b ∈ dests)

include tidy ha hb

theorem Tidy.temp_ne_dest : tempPathOf env use i a ≠ b :=
  fun same => tidy.unreserved a ha b hb (same ▸ scratchOf_tempPathOf (tidy.clean a ha))

theorem Tidy.backup_ne_dest : backupPathOf env i a ≠ b :=
  fun same => tidy.unreserved a ha b hb (same ▸ scratchOf_backupPathOf (tidy.clean a ha))

omit tidy ha hb in
/-- The clock has no dot, so what precedes it can be read off. -/
theorem front_eq {x y : List Char} {site site' : Site}
    (same : x ++ '.' :: (nowNanosStr env site).toList =
      y ++ '.' :: (nowNanosStr env site').toList) : x = y :=
  (append_cons_inj (fun dot => (mem_nowNanosStr dot).2 rfl)
    (fun dot => (mem_nowNanosStr dot).2 rfl) same).1

theorem Tidy.temp_inj (same : tempPathOf env use i a = tempPathOf env use' j b) : a = b := by
  have texts := congrArg String.toList same
  rw [tempPathOf_toList (tidy.clean a ha), tempPathOf_toList (tidy.clean b hb)] at texts
  exact String.toList_inj.mp (List.append_cancel_right (front_eq texts))

theorem Tidy.backup_inj (same : backupPathOf env i a = backupPathOf env j b) : a = b := by
  have texts := congrArg String.toList same
  rw [backupPathOf_toList (tidy.clean a ha), backupPathOf_toList (tidy.clean b hb)] at texts
  exact String.toList_inj.mp (List.append_cancel_right (front_eq texts))

theorem Tidy.temp_ne_backup : tempPathOf env use i a ≠ backupPathOf env j b := by
  intro same
  have texts := congrArg String.toList same
  rw [tempPathOf_toList (tidy.clean a ha), backupPathOf_toList (tidy.clean b hb)] at texts
  have ends := congrArg (fun l => l.getLast?) (front_eq texts)
  simp at ends

end Names

end Certctl.Source.Deploy

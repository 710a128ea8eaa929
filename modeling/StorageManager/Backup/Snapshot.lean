import StorageManager.Backup.Engine
import Mathlib.Data.Finset.Basic

/-!
# Backups of a snapshot

`backup_create_with_snapshot` takes a snapshot of a volume, mounts it, backs up what is in it and
undoes the rest: unmount, remove the snapshot, remove the mount point.  The system is three sets:
the snapshots, the mounts, and the directories under `/mnt`; each command changes one of them or
fails.

The mount point is made by the helper that mounts, and only the last path removes it.  When the
mount itself fails, the snapshot is removed and the directory stays: `snapshot_restored_iff`.
-/

namespace Storage

open CString Files

/-! ## The system -/

/-- A snapshot: its volume group and its name. -/
abbrev SnapId := CStr × CStr

/-- The snapshots there are, which of them are mounted where, and the directories. -/
structure SnapSystem where
  snapshots : Finset SnapId
  mounts : Finset (SnapId × CStr)
  dirs : Finset CStr
  deriving DecidableEq

/-- Which commands would succeed if nothing stands in their way. -/
structure SnapOutcomes where
  lvcreate : Bool
  mkdir : Bool
  mount : Bool
  umount : Bool
  lvremove : Bool
  rmdir : Bool

/-- What a call gets from its surroundings: its two clock readings, the outcomes of its commands,
and for `backup_create` the directories under `/mnt` it makes for the backup, if that is where it
goes. -/
structure SnapEnv where
  nameNow : ℤ
  mountNow : ℤ
  outcomes : SnapOutcomes
  made : Finset CStr
  create : CreateEnv

namespace SnapSystem

variable (s : SnapSystem)

/-- Something is mounted there. -/
def MountPoint (dir : CStr) : Prop := ∃ m ∈ s.mounts, m.2 = dir

/-- The snapshot is mounted somewhere. -/
def InUse (snap : SnapId) : Prop := ∃ m ∈ s.mounts, m.1 = snap

/-- There is a directory in it. -/
def Occupied (dir : CStr) : Prop := ∃ d ∈ s.dirs, dir ++ ['/'] <+: d

instance (dir : CStr) : Decidable (s.MountPoint dir) :=
  inferInstanceAs (Decidable (∃ m ∈ s.mounts, _))

instance (snap : SnapId) : Decidable (s.InUse snap) :=
  inferInstanceAs (Decidable (∃ m ∈ s.mounts, _))

instance (dir : CStr) : Decidable (s.Occupied dir) :=
  inferInstanceAs (Decidable (∃ d ∈ s.dirs, _))

/-- Neither the snapshot nor the mount point is there. -/
structure Unused (snap : SnapId) (dir : CStr) : Prop where
  no_snapshot : snap ∉ s.snapshots
  not_in_use : ¬ s.InUse snap
  no_mount : ¬ s.MountPoint dir
  no_dir : dir ∉ s.dirs
  not_occupied : ¬ s.Occupied dir

end SnapSystem

/-! ## The functions -/

section Functions

variable (o : SnapOutcomes) (s : SnapSystem)

/-- `backup_create_snapshot`. -/
def backupCreateSnapshot (snap : SnapId) : SnapSystem × ℤ :=
  if o.lvcreate then ({ s with snapshots := insert snap s.snapshots }, 0) else (s, -1)

/-- `backup_remove_snapshot`; `lvremove` fails on a volume that is mounted. -/
def backupRemoveSnapshot (snap : SnapId) : SnapSystem × ℤ :=
  if o.lvremove = true ∧ snap ∈ s.snapshots ∧ ¬ s.InUse snap then
    ({ s with snapshots := s.snapshots.erase snap }, 0)
  else (s, -1)

/-- The `mkdir -p` of `backup_mount_snapshot`, whose result is ignored. -/
def makeMountPoint (dir : CStr) : SnapSystem :=
  if o.mkdir then { s with dirs := insert dir s.dirs } else s

/-- `backup_mount_snapshot`. -/
def backupMountSnapshot (snap : SnapId) (dir : CStr) : SnapSystem × ℤ :=
  let s := makeMountPoint o s dir
  if o.mount = true ∧ snap ∈ s.snapshots ∧ dir ∈ s.dirs then
    ({ s with mounts := insert (snap, dir) s.mounts }, 0)
  else (s, -1)

/-- `backup_unmount_snapshot`. -/
def backupUnmountSnapshot (dir : CStr) : SnapSystem × ℤ :=
  if o.umount = true ∧ s.MountPoint dir then
    ({ s with mounts := s.mounts.filter (·.2 ≠ dir) }, 0)
  else (s, -1)

/-- The `rmdir` at the end. -/
def removeMountPoint (dir : CStr) : SnapSystem :=
  if o.rmdir = true ∧ dir ∈ s.dirs ∧ ¬ s.MountPoint dir ∧ ¬ s.Occupied dir then
    { s with dirs := s.dirs.erase dir }
  else s

end Functions

/-- `snapshot_name`. -/
def snapshotName (lvName : CStr) (now : ℤ) : CStr :=
  fit 128 (lvName ++ ("_snap_".toList ++ intText now))

/-- `mount_point`. -/
def snapshotMountPoint (now : ℤ) : CStr := fit 256 ("/mnt/backup_snapshot_".toList ++ intText now)

/-- The commands after the backup. -/
def cleanUpSnapshot (o : SnapOutcomes) (s : SnapSystem) (snap : SnapId) (dir : CStr) : SnapSystem :=
  let s := (backupUnmountSnapshot o s dir).1
  let s := (backupRemoveSnapshot o s snap).1
  removeMountPoint o s dir

/-- `backup_create_with_snapshot`; the argument `source` is not used. -/
def backupCreateWithSnapshot {κ : Type*} (localtime : ℤ → Tm) (cwd : Path) (e : SnapEnv)
    (s : SnapSystem) (b : BackupState κ) (vgName lvName _source dest : CStr) (type : BackupType) :
    SnapSystem × BackupState κ × ℤ :=
  let snap := (vgName, snapshotName lvName e.nameNow)
  let mountPoint := snapshotMountPoint e.mountNow
  let created := backupCreateSnapshot e.outcomes s snap
  if created.2 ≠ 0 then (created.1, b, -1)
  else
    let mounted := backupMountSnapshot e.outcomes created.1 snap mountPoint
    if mounted.2 ≠ 0 then ((backupRemoveSnapshot e.outcomes mounted.1 snap).1, b, -1)
    else
      let result := backupCreate localtime cwd b mountPoint dest type e.create
      let s := { mounted.1 with dirs := mounted.1.dirs ∪ e.made }
      (cleanUpSnapshot e.outcomes s snap mountPoint, result.1, result.2)

/-! ## What undoes what -/

section Undo

variable {o : SnapOutcomes} {s : SnapSystem} {snap : SnapId} {dir : CStr}

lemma backupRemoveSnapshot_insert (ho : o.lvremove = true) (hnew : snap ∉ s.snapshots)
    (huse : ¬ s.InUse snap) :
    (backupRemoveSnapshot o { s with snapshots := insert snap s.snapshots } snap).1 = s := by
  have huse' : ¬ ({ s with snapshots := insert snap s.snapshots } : SnapSystem).InUse snap := huse
  rw [backupRemoveSnapshot, if_pos ⟨ho, Finset.mem_insert_self _ _, huse'⟩]
  simp [Finset.erase_insert hnew]

lemma backupUnmountSnapshot_insert (ho : o.umount = true) (hnew : ¬ s.MountPoint dir) :
    (backupUnmountSnapshot o { s with mounts := insert (snap, dir) s.mounts } dir).1 = s := by
  have hthere : ({ s with mounts := insert (snap, dir) s.mounts } : SnapSystem).MountPoint dir :=
    ⟨(snap, dir), Finset.mem_insert_self _ _, rfl⟩
  have hothers : s.mounts.filter (·.2 ≠ dir) = s.mounts :=
    Finset.filter_true_of_mem fun m hm hdir => hnew ⟨m, hm, hdir⟩
  rw [backupUnmountSnapshot, if_pos ⟨ho, hthere⟩]
  simp [Finset.filter_insert, hothers]

/-- The last command takes back the mount point, and only that. -/
lemma removeMountPoint_eq_iff {made : Finset CStr} (ho : o.rmdir = true) (hnew : dir ∉ s.dirs)
    (hmount : ¬ s.MountPoint dir) (hempty : ¬ s.Occupied dir) :
    removeMountPoint o { s with dirs := insert dir s.dirs ∪ made } dir = s ↔
      made ⊆ insert dir s.dirs := by
  constructor
  · intro h d hd
    by_cases hdir : d = dir
    · exact hdir ▸ Finset.mem_insert_self _ _
    · refine Finset.mem_insert_of_mem ?_
      rw [← h, removeMountPoint]
      split <;> simp [hd, hdir]
  · intro hmade
    have hfree : ¬ ({ s with dirs := insert dir s.dirs } : SnapSystem).Occupied dir := by
      rintro ⟨d, hd, hbelow⟩
      rcases Finset.mem_insert.mp hd with rfl | hd
      · have hlen := hbelow.length_le
        simp only [List.length_append, List.length_singleton] at hlen
        omega
      · exact hempty ⟨d, hd, hbelow⟩
    rw [Finset.union_eq_left.mpr hmade, removeMountPoint,
      if_pos ⟨ho, Finset.mem_insert_self _ _, hmount, hfree⟩]
    simp [Finset.erase_insert hnew]

end Undo

/-! ## The whole call -/

section Call

variable {κ : Type*} (localtime : ℤ → Tm) (cwd : Path) (e : SnapEnv) (s : SnapSystem)
  (b : BackupState κ) (vgName lvName source dest : CStr) (type : BackupType)

lemma snapshotSystem_of_lvcreate (h : e.outcomes.lvcreate = false) :
    (backupCreateWithSnapshot localtime cwd e s b vgName lvName source dest type).1 = s := by
  simp [backupCreateWithSnapshot, backupCreateSnapshot, h]

variable {e s vgName lvName}

/-- A mount that fails leaves what `mkdir` has made. -/
lemma snapshotSystem_of_mount (hlvcreate : e.outcomes.lvcreate = true)
    (hunused : s.Unused (vgName, snapshotName lvName e.nameNow) (snapshotMountPoint e.mountNow))
    (hlvremove : e.outcomes.lvremove = true)
    (h : e.outcomes.mkdir = false ∨ e.outcomes.mount = false) :
    (backupCreateWithSnapshot localtime cwd e s b vgName lvName source dest type).1 =
      makeMountPoint e.outcomes s (snapshotMountPoint e.mountNow) := by
  have hremove : ∀ dirs : Finset CStr, (backupRemoveSnapshot e.outcomes
      ⟨insert (vgName, snapshotName lvName e.nameNow) s.snapshots, s.mounts, dirs⟩
      (vgName, snapshotName lvName e.nameNow)).1 = { s with dirs := dirs } := fun dirs =>
    backupRemoveSnapshot_insert hlvremove (s := { s with dirs := dirs }) hunused.no_snapshot
      hunused.not_in_use
  rcases hmkdir : e.outcomes.mkdir with _ | _
  · simp [backupCreateWithSnapshot, backupCreateSnapshot, backupMountSnapshot, makeMountPoint,
      hlvcreate, hmkdir, hunused.no_dir, hremove]
  · have hmount : e.outcomes.mount = false := by simpa [hmkdir] using h
    simp [backupCreateWithSnapshot, backupCreateSnapshot, backupMountSnapshot, makeMountPoint,
      hlvcreate, hmkdir, hmount, hremove]

/-- Once the snapshot is mounted, all that is left to undo is the mount point and what the backup
has made. -/
lemma snapshotSystem_of_mounted (hlvcreate : e.outcomes.lvcreate = true)
    (hmkdir : e.outcomes.mkdir = true) (hmount : e.outcomes.mount = true)
    (hunused : s.Unused (vgName, snapshotName lvName e.nameNow) (snapshotMountPoint e.mountNow))
    (humount : e.outcomes.umount = true) (hlvremove : e.outcomes.lvremove = true) :
    (backupCreateWithSnapshot localtime cwd e s b vgName lvName source dest type).1 =
      removeMountPoint e.outcomes
        { s with dirs := insert (snapshotMountPoint e.mountNow) s.dirs ∪ e.made }
        (snapshotMountPoint e.mountNow) := by
  set snap := (vgName, snapshotName lvName e.nameNow) with hsnap
  set dir := snapshotMountPoint e.mountNow with hdir
  set dirs := insert dir s.dirs ∪ e.made with hdirs
  have hunmounted : (backupUnmountSnapshot e.outcomes
      ⟨insert snap s.snapshots, insert (snap, dir) s.mounts, dirs⟩ dir).1 =
      ⟨insert snap s.snapshots, s.mounts, dirs⟩ :=
    backupUnmountSnapshot_insert humount (s := ⟨insert snap s.snapshots, s.mounts, dirs⟩)
      hunused.no_mount
  have hremoved : (backupRemoveSnapshot e.outcomes ⟨insert snap s.snapshots, s.mounts, dirs⟩
      snap).1 = { s with dirs := dirs } :=
    backupRemoveSnapshot_insert hlvremove (s := { s with dirs := dirs }) hunused.no_snapshot
      hunused.not_in_use
  simp [backupCreateWithSnapshot, backupCreateSnapshot, backupMountSnapshot, makeMountPoint,
    cleanUpSnapshot, hlvcreate, hmkdir, hmount, ← hsnap, ← hdir, ← hdirs, hunmounted, hremoved]

/-- When the commands that undo succeed, a call leaves the system as it found it exactly if the
snapshot could not be taken, or its mount point could not be made, or it was mounted there and the
backup itself makes no directory under `/mnt`. -/
theorem snapshot_restored_iff
    (hunused : s.Unused (vgName, snapshotName lvName e.nameNow) (snapshotMountPoint e.mountNow))
    (humount : e.outcomes.umount = true) (hlvremove : e.outcomes.lvremove = true)
    (hrmdir : e.outcomes.rmdir = true) :
    (backupCreateWithSnapshot localtime cwd e s b vgName lvName source dest type).1 = s ↔
      (e.outcomes.lvcreate = true → e.outcomes.mkdir = true → e.outcomes.mount = true ∧
        e.made ⊆ insert (snapshotMountPoint e.mountNow) s.dirs) := by
  rcases hlvcreate : e.outcomes.lvcreate with _ | _
  · simp [snapshotSystem_of_lvcreate _ _ _ _ _ _ _ _ _ _ hlvcreate]
  rcases hmkdir : e.outcomes.mkdir with _ | _
  · rw [snapshotSystem_of_mount _ _ _ _ _ _ hlvcreate hunused hlvremove (.inl hmkdir)]
    simp [makeMountPoint, hmkdir]
  rcases hmount : e.outcomes.mount with _ | _
  · have hleft : ({ s with dirs := insert (snapshotMountPoint e.mountNow) s.dirs } : SnapSystem) ≠
        s := fun h =>
      hunused.no_dir (congrArg SnapSystem.dirs h ▸ Finset.mem_insert_self _ _)
    rw [snapshotSystem_of_mount _ _ _ _ _ _ hlvcreate hunused hlvremove (.inr hmount)]
    simp [makeMountPoint, hmkdir, hleft]
  · rw [snapshotSystem_of_mounted _ _ _ _ _ _ hlvcreate hmkdir hmount hunused humount hlvremove,
      removeMountPoint_eq_iff hrmdir hunused.no_dir hunused.no_mount hunused.not_occupied]
    simp

end Call

/-- No snapshot, nothing mounted, nothing under `/mnt`. -/
def emptySystem : SnapSystem := ⟨∅, ∅, ∅⟩

lemma emptySystem_unused (snap : SnapId) (dir : CStr) : emptySystem.Unused snap dir := by
  constructor <;> simp [emptySystem, SnapSystem.InUse, SnapSystem.MountPoint, SnapSystem.Occupied]

/-- A call at time 0 whose commands succeed, `mount` apart. -/
def snapEnv (mount : Bool) : SnapEnv where
  nameNow := 0
  mountNow := 0
  outcomes := ⟨true, true, mount, true, true, true⟩
  made := ∅
  create := ⟨0, 0, [], fun _ => [], some 0, fun _ => false, 0⟩

/-- All commands succeed, and nothing is left behind. -/
theorem snapshot_restored_mounted :
    emptySystem.Unused ("vg0".toList, snapshotName "data".toList 0) (snapshotMountPoint 0) ∧
      (backupCreateWithSnapshot (κ := Unit) (fun _ => newYear) [] (snapEnv true) emptySystem
        ⟨none, fun _ => none⟩ "vg0".toList "data".toList "/data".toList "/backup".toList
        .full).1 = emptySystem :=
  have hunused := emptySystem_unused ("vg0".toList, snapshotName "data".toList 0)
    (snapshotMountPoint 0)
  ⟨hunused, (snapshot_restored_iff _ _ _ _ _ _ hunused rfl rfl rfl).mpr
    fun _ _ => ⟨rfl, Finset.empty_subset _⟩⟩

/-- The snapshot is taken, the mount point made, and the mount fails: the snapshot is removed again
and the mount point stays. -/
theorem snapshot_leaves_mount_point :
    emptySystem.Unused ("vg0".toList, snapshotName "data".toList 0) (snapshotMountPoint 0) ∧
      (backupCreateWithSnapshot (κ := Unit) (fun _ => newYear) [] (snapEnv false) emptySystem
        ⟨none, fun _ => none⟩ "vg0".toList "data".toList "/data".toList "/backup".toList
        .full).1 = ⟨∅, ∅, {"/mnt/backup_snapshot_0".toList}⟩ :=
  ⟨emptySystem_unused _ _, by decide +kernel⟩

end Storage

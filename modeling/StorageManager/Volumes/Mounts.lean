import StorageManager.Volumes.Filesystems
import StorageManager.Lib.Bytes
import StorageManager.Lib.Slots
import Mathlib.Data.List.Nodup

/-!
# The readers of the mount table

`fs_get_info` looks one mount up and `fs_list_mounted` stores all of them.  Both copy a line of
`/proc/mounts` to an `fs_info_t` in the same way, but only `fs_get_info` clears the structure
first: in the array of `fs_list_mounted` a text that fills its field runs on into what was there
before, and the numbers of a file system that `statvfs` fails on are the old ones.

* `storeMount` — the copy, over whatever the structure held.
* `storeMount_report_eq_iff` — when that makes no difference.
* `mountLoop_count`, `mountLoop_entries` — the loop: how far it goes, and what it leaves at a place.
* `mount_readers_agree_iff` — when the two readers agree on a whole table.
-/

namespace Storage

open CString Bytes

/-- A `struct mntent`. -/
structure MountEntry extends Mount where
  type : CStr
  opts : CStr
  deriving DecidableEq

/-- What is used of a `struct statvfs`. -/
structure StatVfs where
  blocks : UInt64
  bfree : UInt64
  bavail : UInt64
  frsize : UInt64

/-- `fs_info_t` in memory, with the padding before the numbers. -/
structure FsInfo where
  device : CharArray 255
  mountPoint : CharArray 255
  type : FsType
  typeStr : CharArray 15
  options : CharArray 255
  padding : CharArray 3
  totalBytes : UInt64
  usedBytes : UInt64
  availableBytes : UInt64
  isMounted : Bool

/-- After `memset (info, 0, sizeof (fs_info_t))`; `FS_TYPE_EXT4` is 0. -/
def FsInfo.zero : FsInfo := ⟨.zero, .zero, .ext4, .zero, .zero, .zero, 0, 0, 0, false⟩

instance : Inhabited FsInfo := ⟨.zero⟩

/-- Bytes read as a string. -/
def bytesText (bs : List Byte) : CStr := (bs.takeWhile (· != 0)).map fun b => Char.ofNat b.toNat

/-- The bytes of an `fs_type_t`. -/
def fsTypeBytes : FsType → List Byte
  | .ext4 => leBytes 4 0
  | .xfs => leBytes 4 1
  | .btrfs => leBytes 4 2
  | .unknown => leBytes 4 3

namespace FsInfo

variable (info : FsInfo)

-- a string without a terminator goes on in the member that is declared next

/-- The members behind `options`, read as a string. -/
def numbersText : CStr :=
  bytesText (leBytes 8 info.totalBytes.toNat ++ leBytes 8 info.usedBytes.toNat ++
    leBytes 8 info.availableBytes.toNat ++ leBytes 4 info.isMounted.toNat)

/-- The member `options`, read as a string. -/
def optionsText : CStr := info.options.read (info.padding.read info.numbersText)

/-- The member `type_str`, read as a string. -/
def typeText : CStr := info.typeStr.read info.optionsText

/-- The member `mount_point`, read as a string. -/
def mountText : CStr := info.mountPoint.read (bytesText (fsTypeBytes info.type))

/-- The member `device`, read as a string. -/
def deviceText : CStr := info.device.read info.mountText

end FsInfo

/-- The members of an `fs_info_t` as a program sees them. -/
structure FsReport where
  device : CStr
  mountPoint : CStr
  type : FsType
  typeStr : CStr
  options : CStr
  usage : UInt64 × UInt64 × UInt64
  isMounted : Bool
  deriving DecidableEq

/-- The three numbers. -/
def FsInfo.usage (info : FsInfo) : UInt64 × UInt64 × UInt64 :=
  (info.totalBytes, info.usedBytes, info.availableBytes)

/-- All members. -/
def FsInfo.report (info : FsInfo) : FsReport where
  device := info.deviceText
  mountPoint := info.mountText
  type := info.type
  typeStr := info.typeText
  options := info.optionsText
  usage := info.usage
  isMounted := info.isMounted

section Functions

variable (statvfs : CStr → Option StatVfs)

/-- `fs_get_usage` with three pointers to `usage`: what they point to afterwards. -/
def fsGetUsage (mountPoint : CStr) (usage : UInt64 × UInt64 × UInt64) :
    Ret × UInt64 × UInt64 × UInt64 :=
  match statvfs mountPoint with
  | none => (.errorSystemCall, usage)
  | some stat =>
      (.success, stat.blocks * stat.frsize, (stat.blocks - stat.bfree) * stat.frsize,
        stat.bavail * stat.frsize)

/-- The four `strncpy`, the type and the flag. -/
def copyMount (info : FsInfo) (mnt : MountEntry) : FsInfo :=
  { info with
    device := info.device.strncpy mnt.fsname
    mountPoint := info.mountPoint.strncpy mnt.dir
    typeStr := info.typeStr.strncpy mnt.type
    options := info.options.strncpy mnt.opts
    type := fsStringToType mnt.type
    isMounted := true }

/-- `fs_get_usage (info->mount_point, &info->total_bytes, ..)`. -/
def setUsage (info : FsInfo) : FsInfo :=
  let usage := (fsGetUsage statvfs info.mountText info.usage).2
  { info with totalBytes := usage.1, usedBytes := usage.2.1, availableBytes := usage.2.2 }

/-- What both readers do with a line. -/
def storeMount (info : FsInfo) (mnt : MountEntry) : FsInfo := setUsage statvfs (copyMount info mnt)

/-- `fs_get_info`; the table is `none` when it cannot be opened, and `info` is when it is `NULL`. -/
def fsGetInfo (table : Option (List MountEntry)) (deviceOrMount : CStr) (info : Option FsInfo) :
    Ret × Option FsInfo :=
  match info with
  | none => (.errorInvalidParam, none)
  | some _ =>
      match table with
      | none => (.errorSystemCall, some .zero)
      | some mounts =>
          match mounts.find? fun m => m.fsname = deviceOrMount ∨ m.dir = deviceOrMount with
          | none => (.errorNotFound, some .zero)
          | some mnt => (.success, some (storeMount statvfs .zero mnt))

/-- `fs_list` and `*count`. -/
structure MountList where
  entries : ℕ → FsInfo
  count : ℕ

/-- The loop of `fs_list_mounted`, with the lines that are still to come. -/
def mountLoop (maxFs : ℤ) : List MountEntry → MountList → MountList
  | [], l => l
  | mnt :: mounts, l =>
      if (l.count : ℤ) < maxFs then
        mountLoop maxFs mounts
          { entries := Function.update l.entries l.count
              (storeMount statvfs (l.entries l.count) mnt)
            count := l.count + 1 }
      else l

/-- `fs_list_mounted`. -/
def fsListMounted (table : Option (List MountEntry)) (l : MountList) (maxFs : ℤ) :
    Ret × MountList :=
  match table with
  | none => (.errorSystemCall, l)
  | some mounts => (.success, mountLoop statvfs maxFs mounts { l with count := 0 })

end Functions

/-- The count is the number of mounts or `max_fs`, and each entry below it is what `fs_get_info`
says of its mount point, to whatever structure. -/
def ReadersAgree (statvfs : CStr → Option StatVfs) (mounts : List MountEntry) (l : MountList)
    (maxFs : ℤ) : Prop :=
  ((fsListMounted statvfs (some mounts) l maxFs).2.count : ℤ) = min maxFs mounts.length ∧
    ∀ i < (fsListMounted statvfs (some mounts) l maxFs).2.count, ∀ mnt, mounts[i]? = some mnt →
      ∀ info, (fsGetInfo statvfs (some mounts) mnt.dir (some info)).2.map FsInfo.report =
        some ((fsListMounted statvfs (some mounts) l maxFs).2.entries i).report

/-- The line leaves nothing to be read of what the entry held: each text is terminated in its
field, and the numbers are replaced unless they are 0. -/
def Covers (statvfs : CStr → Option StatVfs) (old : FsInfo) (mnt : MountEntry) : Prop :=
  old.device.Ends mnt.fsname ∧ old.mountPoint.Ends mnt.dir ∧ old.typeStr.Ends mnt.type ∧
    old.options.Ends mnt.opts ∧ (statvfs (mnt.dir.take 255) = none → old.usage = (0, 0, 0))

/-! ## One entry -/

section Entry

variable {statvfs : CStr → Option StatVfs} {old : FsInfo} {mnt : MountEntry}

lemma mountText_copyMount (h : old.mountPoint.Ends mnt.dir) :
    (copyMount old mnt).mountText = fit 256 mnt.dir :=
  CharArray.read_strncpy_eq_fit_iff.mpr h

lemma setUsage_usage (info : FsInfo) :
    (setUsage statvfs info).usage = (fsGetUsage statvfs info.mountText info.usage).2 := rfl

/-- In a structure that was cleared every text is the line's, cut to its field. -/
lemma storeMount_zero_report :
    (storeMount statvfs .zero mnt).report =
      { device := fit 256 mnt.fsname
        mountPoint := fit 256 mnt.dir
        type := fsStringToType mnt.type
        typeStr := fit 16 mnt.type
        options := fit 256 mnt.opts
        usage := (fsGetUsage statvfs (fit 256 mnt.dir) (0, 0, 0)).2
        isMounted := true } := by
  have htext : (copyMount .zero mnt).mountText = fit 256 mnt.dir := CharArray.read_strncpy_zero _ _
  have husage : (storeMount statvfs .zero mnt).usage =
      (fsGetUsage statvfs (fit 256 mnt.dir) (0, 0, 0)).2 := by
    rw [storeMount, setUsage_usage, htext]
    rfl
  rw [FsInfo.report, husage]
  refine FsReport.mk.injEq .. ▸ ⟨?_, ?_, rfl, ?_, ?_, rfl, rfl⟩
  all_goals exact CharArray.read_strncpy_zero _ _

lemma fsGetUsage_eq_iff {path : CStr} {usage : UInt64 × UInt64 × UInt64} :
    (fsGetUsage statvfs path usage).2 = (fsGetUsage statvfs path (0, 0, 0)).2 ↔
      (statvfs path = none → usage = (0, 0, 0)) := by
  cases hstat : statvfs path <;> simp [fsGetUsage, hstat]

/-- The old contents cannot be told from cleared memory exactly if the line covers them. -/
lemma storeMount_report_eq_iff :
    (storeMount statvfs .zero mnt).report = (storeMount statvfs old mnt).report ↔
      Covers statvfs old mnt := by
  rw [storeMount_zero_report, eq_comm, FsInfo.report, FsReport.mk.injEq, Covers]
  have hdevice : (storeMount statvfs old mnt).deviceText = fit 256 mnt.fsname ↔
      old.device.Ends mnt.fsname := CharArray.read_strncpy_eq_fit_iff
  have hmount : (storeMount statvfs old mnt).mountText = fit 256 mnt.dir ↔
      old.mountPoint.Ends mnt.dir := CharArray.read_strncpy_eq_fit_iff
  have htype : (storeMount statvfs old mnt).typeText = fit 16 mnt.type ↔
      old.typeStr.Ends mnt.type := CharArray.read_strncpy_eq_fit_iff
  have hoptions : (storeMount statvfs old mnt).optionsText = fit 256 mnt.opts ↔
      old.options.Ends mnt.opts := CharArray.read_strncpy_eq_fit_iff
  have husage (hends : old.mountPoint.Ends mnt.dir) : (storeMount statvfs old mnt).usage =
      (fsGetUsage statvfs (fit 256 mnt.dir) (0, 0, 0)).2 ↔
      (statvfs (mnt.dir.take 255) = none → old.usage = (0, 0, 0)) := by
    rw [storeMount, setUsage_usage, mountText_copyMount hends]
    exact fsGetUsage_eq_iff
  constructor
  · rintro ⟨hd, hm, -, ht, ho, hu, -⟩
    have hends := hmount.mp hm
    exact ⟨hdevice.mp hd, hends, htype.mp ht, hoptions.mp ho, (husage hends).mp hu⟩
  · rintro ⟨hd, hm, ht, ho, hu⟩
    exact ⟨hdevice.mpr hd, hmount.mpr hm, rfl, htype.mpr ht, hoptions.mpr ho,
      (husage hm).mpr hu, rfl⟩

end Entry

/-! ## The table -/

section Table

variable {statvfs : CStr → Option StatVfs} {mounts : List MountEntry} {maxFs : ℤ}

/-- A mount point finds its own line, if it is neither another's nor a device. -/
lemma find_mountPoint (hdirs : (mounts.map (·.dir)).Nodup)
    (hdevices : ∀ m ∈ mounts, ∀ m' ∈ mounts, m.dir ≠ m'.fsname) {mnt : MountEntry}
    (h : mnt ∈ mounts) :
    mounts.find? (fun m => m.fsname = mnt.dir ∨ m.dir = mnt.dir) = some mnt := by
  refine Slots.find?_of_unique h (by simp) fun m hmem hm => ?_
  have hmatch : m.fsname = mnt.dir ∨ m.dir = mnt.dir := of_decide_eq_true hm
  have hdir := hmatch.resolve_left fun hname => hdevices mnt h m hmem hname.symm
  exact List.inj_on_of_nodup_map hdirs hmem h hdir

/-- The loop stops at the end of the table or of the array. -/
lemma mountLoop_count (l : MountList) :
    (mountLoop statvfs maxFs mounts l).count =
      l.count + min (maxFs.toNat - l.count) mounts.length := by
  induction mounts generalizing l with
  | nil => simp [mountLoop]
  | cons mnt mounts ih =>
      rw [mountLoop]
      split_ifs with h
      · rw [ih, List.length_cons]
        dsimp only
        omega
      · rw [List.length_cons]
        omega

/-- What is below the count is not touched any more. -/
lemma mountLoop_entries_of_lt {l : MountList} {j : ℕ} (hj : j < l.count) :
    (mountLoop statvfs maxFs mounts l).entries j = l.entries j := by
  induction mounts generalizing l with
  | nil => rfl
  | cons mnt mounts ih =>
      rw [mountLoop]
      split_ifs with h
      · rw [ih (Nat.lt_succ_of_lt hj)]
        exact Function.update_of_ne hj.ne _ _
      · rfl

/-- The `i`th line from here is stored `i` places from here, over what that entry held. -/
lemma mountLoop_entries {l : MountList} {i : ℕ} {mnt : MountEntry} (hi : mounts[i]? = some mnt)
    (hroom : ((l.count + i : ℕ) : ℤ) < maxFs) :
    (mountLoop statvfs maxFs mounts l).entries (l.count + i) =
      storeMount statvfs (l.entries (l.count + i)) mnt := by
  induction mounts generalizing l i with
  | nil => simp at hi
  | cons m mounts ih =>
      rw [mountLoop, if_pos (by omega)]
      cases i with
      | zero =>
          rw [List.getElem?_cons_zero, Option.some.injEq] at hi
          rw [hi, Nat.add_zero, mountLoop_entries_of_lt (Nat.lt_succ_self _)]
          exact Function.update_self _ _ _
      | succ i =>
          rw [List.getElem?_cons_succ] at hi
          have hplace : l.count + (i + 1) = l.count + 1 + i := by omega
          have hne : l.count + 1 + i ≠ l.count := by omega
          rw [hplace] at hroom ⊢
          rw [ih hi hroom]
          exact congrArg (storeMount statvfs · mnt) (Function.update_of_ne hne _ _)

lemma fsGetInfo_mountPoint (hdirs : (mounts.map (·.dir)).Nodup)
    (hdevices : ∀ m ∈ mounts, ∀ m' ∈ mounts, m.dir ≠ m'.fsname) {mnt : MountEntry}
    (h : mnt ∈ mounts) (info : FsInfo) :
    fsGetInfo statvfs (some mounts) mnt.dir (some info) =
      (.success, some (storeMount statvfs .zero mnt)) := by
  simp only [fsGetInfo, find_mountPoint hdirs hdevices h]

lemma fsListMounted_count (l : MountList) :
    (fsListMounted statvfs (some mounts) l maxFs).2.count = min maxFs.toNat mounts.length := by
  have h : (mountLoop statvfs maxFs mounts { l with count := 0 }).count =
      0 + min (maxFs.toNat - 0) mounts.length := mountLoop_count _
  rwa [Nat.zero_add, Nat.sub_zero] at h

lemma fsListMounted_entries (l : MountList) {i : ℕ} {mnt : MountEntry}
    (hi : mounts[i]? = some mnt) (hroom : (i : ℤ) < maxFs) :
    (fsListMounted statvfs (some mounts) l maxFs).2.entries i =
      storeMount statvfs (l.entries i) mnt := by
  have h : (mountLoop statvfs maxFs mounts { l with count := 0 }).entries (0 + i) =
      storeMount statvfs (l.entries (0 + i)) mnt :=
    mountLoop_entries hi (by rwa [Nat.zero_add])
  rwa [Nat.zero_add] at h

/-- The readers agree exactly if `max_fs` is a size and each line that is stored covers what its
entry held. -/
theorem mount_readers_agree_iff (hdirs : (mounts.map (·.dir)).Nodup)
    (hdevices : ∀ m ∈ mounts, ∀ m' ∈ mounts, m.dir ≠ m'.fsname) (l : MountList) :
    ReadersAgree statvfs mounts l maxFs ↔
      0 ≤ maxFs ∧ ∀ i : ℕ, (i : ℤ) < maxFs → ∀ mnt, mounts[i]? = some mnt →
        Covers statvfs (l.entries i) mnt := by
  have hentry {i : ℕ} {mnt : MountEntry} (hi : mounts[i]? = some mnt) (hroom : (i : ℤ) < maxFs) :
      (∀ info, (fsGetInfo statvfs (some mounts) mnt.dir (some info)).2.map FsInfo.report =
        some ((fsListMounted statvfs (some mounts) l maxFs).2.entries i).report) ↔
      Covers statvfs (l.entries i) mnt := by
    simp only [fsGetInfo_mountPoint hdirs hdevices (List.mem_of_getElem? hi),
      fsListMounted_entries l hi hroom, Option.map_some, Option.some.injEq,
      storeMount_report_eq_iff, forall_const]
  rw [ReadersAgree, fsListMounted_count]
  refine and_congr (by omega) (forall_congr' fun i => ?_)
  constructor
  · intro h hroom mnt hi
    have hlen := (List.getElem?_eq_some_iff.mp hi).1
    exact (hentry hi hroom).mp (h (by omega) mnt hi)
  · intro h hlt mnt hi
    have hroom : (i : ℤ) < maxFs := by omega
    exact (hentry hi hroom).mpr (h hroom mnt hi)

end Table

/-! ## An array that has been used -/

/-- An entry with an old size, and with an old byte at the end of `type_str`. -/
def usedEntry : FsInfo :=
  { FsInfo.zero with
    typeStr := ⟨[], Nat.zero_le 15, some 'x'⟩
    totalBytes := 4096 }

/-- The root file system. -/
def rootMount : MountEntry := ⟨⟨"/dev/sda1".toList, ['/']⟩, "ext4".toList, "rw".toList⟩

/-- A type of 15 characters, which is one too many for `type_str`. -/
def fuseMount : MountEntry :=
  ⟨⟨"gvfsd-fuse".toList, "/run/user/1000/gvfs".toList⟩, "fuse.gvfsd-fuse".toList, "rw".toList⟩

/-- A second file system. -/
def homeMount : MountEntry := ⟨⟨"/dev/sda2".toList, "/home".toList⟩, "xfs".toList, "rw".toList⟩

/-- Short texts and file systems that can be asked: the old contents do not matter. -/
theorem mount_readers_agree_two :
    ([rootMount, homeMount].map (·.dir)).Nodup ∧
      (∀ m ∈ [rootMount, homeMount], ∀ m' ∈ [rootMount, homeMount], m.dir ≠ m'.fsname) ∧
      ReadersAgree (fun _ => some ⟨10, 4, 3, 4096⟩) [rootMount, homeMount]
        ⟨fun _ => usedEntry, 7⟩ 16 := by
  have hdirs : ([rootMount, homeMount].map (·.dir)).Nodup := by decide +kernel
  have hdevices : ∀ m ∈ [rootMount, homeMount], ∀ m' ∈ [rootMount, homeMount],
      m.dir ≠ m'.fsname := by decide +kernel
  refine ⟨hdirs, hdevices, (mount_readers_agree_iff hdirs hdevices _).mpr ⟨by decide, ?_⟩⟩
  intro i _ mnt hi
  rcases List.mem_pair.mp (List.mem_of_getElem? hi) with rfl | rfl
  all_goals exact ⟨Or.inr rfl, Or.inr rfl, Or.inl (by decide), Or.inr rfl,
    fun h => absurd h (Option.some_ne_none _)⟩

/-- The old numbers stay where `statvfs` fails, and the type of 15 characters runs on into the
options. -/
theorem mount_readers_disagree :
    (([rootMount].map (·.dir)).Nodup ∧
      (∀ m ∈ [rootMount], ∀ m' ∈ [rootMount], m.dir ≠ m'.fsname) ∧
      ¬ ReadersAgree (fun _ => none) [rootMount] ⟨fun _ => usedEntry, 0⟩ 1) ∧
    (([fuseMount].map (·.dir)).Nodup ∧
      (∀ m ∈ [fuseMount], ∀ m' ∈ [fuseMount], m.dir ≠ m'.fsname) ∧
      ¬ ReadersAgree (fun _ => some ⟨10, 4, 3, 4096⟩) [fuseMount] ⟨fun _ => usedEntry, 0⟩ 1) := by
  refine ⟨⟨List.nodup_singleton _, by decide +kernel, fun h => ?_⟩,
    ⟨List.nodup_singleton _, by decide +kernel, fun h => ?_⟩⟩
  · have hreport := h.2 0 (by decide +kernel) rootMount rfl .zero
    have husage := congrArg (Option.map FsReport.usage) hreport
    exact absurd husage (by decide +kernel)
  · have hreport := h.2 0 (by decide +kernel) fuseMount rfl .zero
    have htype := congrArg (Option.map FsReport.typeStr) hreport
    exact absurd htype (by decide +kernel)

end Storage

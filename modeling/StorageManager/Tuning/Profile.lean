import StorageManager.Lib.Scan
import StorageManager.Lib.Slots

/-!
# Tuning profiles

`perf_apply_profile` writes up to eight settings to files of sysfs and `/proc/sys` and returns 0.
It does not look at what the writes return, so that what it reports is not what it did.

A file here can or cannot be opened for reading and for writing, takes or refuses what is written to
it, and shows its value alone on a line or in brackets among other choices.

* `perfApplyProfile_eq` — the function as the list of its writes.
* `Leaves` — what the writes leave in a file: the last value that it took, or what was there.  A
  setting need not be written to the file it is read from: `perf_set_queue_depth` falls back to
  `nr_requests` by one test and `perf_get_queue_depth` by another.  And files may coincide, as
  their names are cut at 255 characters.
* `profile_in_force_iff` — when every setting that is specified reads back.
-/

namespace Storage

open CString

/-- How a file shows its value: alone on a line, or in brackets among the other choices. -/
inductive FileForm
  | plain
  | choice (before after : CStr → CStr)

/-- What is read from a file that holds the value `v`. -/
def FileForm.show : FileForm → CStr → CStr
  | plain, v => v ++ ['\n']
  | choice before after, v => before v ++ '[' :: (v ++ ']' :: (after v ++ ['\n']))

/-- What can be done to a file. -/
structure SysFile where
  readable : Bool
  writable : Bool
  accepts : CStr → Bool
  form : FileForm

/-- The files by name, and the values in force. -/
structure SysFs where
  file : CStr → SysFile
  value : CStr → CStr

/-- What is read from a file. -/
def SysFs.text (fs : SysFs) (path : CStr) : CStr := (fs.file path).form.show (fs.value path)

/-- `tuning_profile_t`. -/
structure TuningProfile where
  scheduler : CStr
  scheduler_fits : scheduler.length < 32
  readAheadKb : Int32
  queueDepth : Int32
  nrRequests : Int32
  vmSwappiness : Int32
  vmDirtyRatio : Int32
  vmDirtyBackgroundRatio : Int32
  vmVfsCachePressure : Int32

/-! ## The files -/

/-- `get_device_basename`. -/
def getDeviceBasename (device : CStr) : CStr := afterLast '/' device

/-- A file of the device, as its name fits `path`. -/
def blockFile (device leaf : CStr) : CStr :=
  fit 256 ("/sys/block/".toList ++ (getDeviceBasename device ++ leaf))

/-- `/sys/block/%s/queue/scheduler`. -/
def schedulerFile (device : CStr) : CStr := blockFile device "/queue/scheduler".toList

/-- `/sys/block/%s/queue/read_ahead_kb`. -/
def readAheadFile (device : CStr) : CStr := blockFile device "/queue/read_ahead_kb".toList

/-- `/sys/block/%s/device/queue_depth`. -/
def queueDepthFile (device : CStr) : CStr := blockFile device "/device/queue_depth".toList

/-- `/sys/block/%s/queue/nr_requests`. -/
def nrRequestsFile (device : CStr) : CStr := blockFile device "/queue/nr_requests".toList

/-- The file of `perf_set_vm_swappiness`. -/
def swappinessFile : CStr := "/proc/sys/vm/swappiness".toList

/-- The file of `perf_set_vm_dirty_ratio`. -/
def dirtyRatioFile : CStr := "/proc/sys/vm/dirty_ratio".toList

/-- The file of `perf_set_vm_dirty_background_ratio`. -/
def dirtyBackgroundRatioFile : CStr := "/proc/sys/vm/dirty_background_ratio".toList

/-- The file of `perf_set_vm_vfs_cache_pressure`. -/
def vfsCachePressureFile : CStr := "/proc/sys/vm/vfs_cache_pressure".toList

/-! ## The setters -/

section Setters

variable (fs : SysFs) (device : CStr) (value : Int32)

/-- `fopen (.., "w")`, `fprintf` and `fclose`.  Whether the value is refused shows in what the last
two return, and nobody looks. -/
def writeSetting (path text : CStr) : SysFs × ℤ :=
  if (fs.file path).writable then
    ({ fs with value := Slots.put (fun f v => (fs.file f).accepts v) fs.value (path, text) }, 0)
  else (fs, -1)

/-- `fprintf (.., "%d", ..)`. -/
def settingText (value : Int32) : CStr := intText value.toInt

/-- `perf_set_scheduler`. -/
def perfSetScheduler (scheduler : CStr) : SysFs × ℤ :=
  writeSetting fs (schedulerFile device) scheduler

/-- `perf_set_readahead`. -/
def perfSetReadahead : SysFs × ℤ := writeSetting fs (readAheadFile device) (settingText value)

/-- It falls back to the other file when the first cannot be opened for writing. -/
def perfSetQueueDepth : SysFs × ℤ :=
  if (fs.file (queueDepthFile device)).writable then
    writeSetting fs (queueDepthFile device) (settingText value)
  else writeSetting fs (nrRequestsFile device) (settingText value)

/-- `perf_set_nr_requests`. -/
def perfSetNrRequests : SysFs × ℤ := writeSetting fs (nrRequestsFile device) (settingText value)

/-- `perf_set_vm_swappiness`. -/
def perfSetVmSwappiness : SysFs × ℤ := writeSetting fs swappinessFile (settingText value)

/-- `perf_set_vm_dirty_ratio`. -/
def perfSetVmDirtyRatio : SysFs × ℤ := writeSetting fs dirtyRatioFile (settingText value)

/-- `perf_set_vm_dirty_background_ratio`. -/
def perfSetVmDirtyBackgroundRatio : SysFs × ℤ :=
  writeSetting fs dirtyBackgroundRatioFile (settingText value)

/-- `perf_set_vm_vfs_cache_pressure`. -/
def perfSetVmVfsCachePressure : SysFs × ℤ :=
  writeSetting fs vfsCachePressureFile (settingText value)

/-- A setter that is called under a condition.  What it returns is dropped. -/
def callIf (c : Prop) [Decidable c] (setter : SysFs → SysFs × ℤ) (fs : SysFs) : SysFs :=
  if c then (setter fs).1 else fs

/-- `perf_apply_profile`. -/
def perfApplyProfile (p : TuningProfile) : SysFs × ℤ :=
  let fs := callIf (0 < p.scheduler.length) (perfSetScheduler · device p.scheduler) fs
  let fs := callIf (0 < p.readAheadKb.toInt) (perfSetReadahead · device p.readAheadKb) fs
  let fs := callIf (0 < p.queueDepth.toInt) (perfSetQueueDepth · device p.queueDepth) fs
  let fs := callIf (0 < p.nrRequests.toInt) (perfSetNrRequests · device p.nrRequests) fs
  let fs := callIf (0 ≤ p.vmSwappiness.toInt) (perfSetVmSwappiness · p.vmSwappiness) fs
  let fs := callIf (0 < p.vmDirtyRatio.toInt) (perfSetVmDirtyRatio · p.vmDirtyRatio) fs
  let fs := callIf (0 < p.vmDirtyBackgroundRatio.toInt)
    (perfSetVmDirtyBackgroundRatio · p.vmDirtyBackgroundRatio) fs
  let fs := callIf (0 < p.vmVfsCachePressure.toInt)
    (perfSetVmVfsCachePressure · p.vmVfsCachePressure) fs
  (fs, 0)

end Setters

/-! ## The getters -/

section Getters

variable (fs : SysFs) (device : CStr)

/-- What stands between the first `[` and the first `]`, in a buffer of this size. -/
def bracketed (size : ℕ) (line : CStr) : CStr :=
  if '[' ∈ line ∧ ']' ∈ line ∧ line.idxOf '[' < line.idxOf ']' then
    fit size ((line.drop (line.idxOf '[' + 1)).take (line.idxOf ']' - line.idxOf '[' - 1))
  else fit size "unknown".toList

/-- The line `fgets` returns from a text, and the choice in it. -/
def schedulerIn (size : ℕ) (text : CStr) : Option CStr :=
  (fgetsAll 256 text).head?.map (bracketed size)

/-- `perf_get_scheduler`; `none` is the return value -1. -/
def perfGetScheduler (size : ℕ) : Option CStr :=
  if (fs.file (schedulerFile device)).readable then
    schedulerIn size (fs.text (schedulerFile device))
  else none

/-- The number in a file that can be read, else -1. -/
def readSetting (path : CStr) : ℤ :=
  if (fs.file path).readable then (scanInt (fs.text path)).getD (-1) else -1

/-- `perf_get_readahead`. -/
def perfGetReadahead : ℤ := readSetting fs (readAheadFile device)

/-- It falls back to the other file when the first cannot be opened for reading. -/
def perfGetQueueDepth : ℤ :=
  if (fs.file (queueDepthFile device)).readable then readSetting fs (queueDepthFile device)
  else readSetting fs (nrRequestsFile device)

/-- `perf_get_vm_swappiness`. -/
def perfGetVmSwappiness : ℤ := readSetting fs swappinessFile

/-- `perf_get_vm_dirty_ratio`. -/
def perfGetVmDirtyRatio : ℤ := readSetting fs dirtyRatioFile

end Getters

/-- Every setting the profile specifies reads back as specified.  For three of them there is no
getter, and the value of the file is meant. -/
structure ProfileInForce (fs : SysFs) (device : CStr) (p : TuningProfile) : Prop where
  scheduler : 0 < p.scheduler.length → perfGetScheduler fs device 32 = some p.scheduler
  readAhead : 0 < p.readAheadKb.toInt → perfGetReadahead fs device = p.readAheadKb.toInt
  queueDepth : 0 < p.queueDepth.toInt → perfGetQueueDepth fs device = p.queueDepth.toInt
  nrRequests : 0 < p.nrRequests.toInt →
    scanInt (fs.text (nrRequestsFile device)) = some p.nrRequests.toInt
  swappiness : 0 ≤ p.vmSwappiness.toInt → perfGetVmSwappiness fs = p.vmSwappiness.toInt
  dirtyRatio : 0 < p.vmDirtyRatio.toInt → perfGetVmDirtyRatio fs = p.vmDirtyRatio.toInt
  dirtyBackgroundRatio : 0 < p.vmDirtyBackgroundRatio.toInt →
    scanInt (fs.text dirtyBackgroundRatioFile) = some p.vmDirtyBackgroundRatio.toInt
  vfsCachePressure : 0 < p.vmVfsCachePressure.toInt →
    scanInt (fs.text vfsCachePressureFile) = some p.vmVfsCachePressure.toInt

/-! ## The profile as a list of writes -/

/-- The settings of a profile. -/
inductive Setting
  | scheduler
  | readAhead
  | queueDepth
  | nrRequests
  | swappiness
  | dirtyRatio
  | dirtyBackgroundRatio
  | vfsCachePressure
  deriving DecidableEq, Repr

namespace Setting

/-- The settings in the order they are written. -/
def all : List Setting :=
  [scheduler, readAhead, queueDepth, nrRequests, swappiness, dirtyRatio, dirtyBackgroundRatio,
    vfsCachePressure]

lemma mem_all (s : Setting) : s ∈ all := by cases s <;> decide

/-- The file the setting is for. -/
def file (device : CStr) : Setting → CStr
  | scheduler => schedulerFile device
  | readAhead => readAheadFile device
  | queueDepth => queueDepthFile device
  | nrRequests => nrRequestsFile device
  | swappiness => swappinessFile
  | dirtyRatio => dirtyRatioFile
  | dirtyBackgroundRatio => dirtyBackgroundRatioFile
  | vfsCachePressure => vfsCachePressureFile

/-- The file a setting is written to, if one can be opened for it. -/
def target (file' : CStr → SysFile) (device : CStr) (s : Setting) : Option CStr :=
  if (file' (s.file device)).writable then some (s.file device)
  else if s = queueDepth ∧ (file' (nrRequestsFile device)).writable then
    some (nrRequestsFile device)
  else none

/-- The file a setting is read from, if it can be read. -/
def source (file' : CStr → SysFile) (device : CStr) (s : Setting) : Option CStr :=
  if s = nrRequests ∨ s = dirtyBackgroundRatio ∨ s = vfsCachePressure then some (s.file device)
  else if (file' (s.file device)).readable then some (s.file device)
  else if s = queueDepth ∧ (file' (nrRequestsFile device)).readable then
    some (nrRequestsFile device)
  else none

end Setting

namespace TuningProfile

variable (p : TuningProfile)

/-- The number the profile has for a setting; the scheduler is a name. -/
def number : Setting → ℤ
  | .scheduler => 0
  | .readAhead => p.readAheadKb.toInt
  | .queueDepth => p.queueDepth.toInt
  | .nrRequests => p.nrRequests.toInt
  | .swappiness => p.vmSwappiness.toInt
  | .dirtyRatio => p.vmDirtyRatio.toInt
  | .dirtyBackgroundRatio => p.vmDirtyBackgroundRatio.toInt
  | .vfsCachePressure => p.vmVfsCachePressure.toInt

/-- What is written for a setting, if the profile specifies it. -/
def setting : Setting → Option CStr
  | .scheduler => if 0 < p.scheduler.length then some p.scheduler else none
  | .swappiness =>
      if 0 ≤ p.vmSwappiness.toInt then some (settingText p.vmSwappiness) else none
  | s => if 0 < p.number s then some (intText (p.number s)) else none

/-- The text shows the setting as the profile has it. -/
def Shows (s : Setting) (text : CStr) : Prop :=
  if s = .scheduler then schedulerIn 32 text = some p.scheduler
  else scanInt text = some (p.number s)

/-- The write for a setting: the file and the text. -/
def write (file : CStr → SysFile) (device : CStr) (s : Setting) : Option (CStr × CStr) :=
  (p.setting s).bind fun text => (s.target file device).map fun path => (path, text)

/-- The files after the write. -/
def put (device : CStr) (fs : SysFs) (s : Setting) : SysFs :=
  { fs with
    value := (p.write fs.file device s).elim fs.value
      (Slots.put (fun f v => (fs.file f).accepts v) fs.value) }

/-- What the profile leaves in the file `g`: the last text that is written there and taken, or what
was in the file if there is none. -/
def Leaves (fs : SysFs) (device g text : CStr) : Prop :=
  (∃ pre s post, Setting.all = pre ++ s :: post ∧
      (p.write fs.file device s = some (g, text) ∧ (fs.file g).accepts text = true) ∧
      ∀ s' ∈ post,
        ¬ Slots.Lands (fun f v => (fs.file f).accepts v) (p.write fs.file device) g s') ∨
    ((∀ s, ¬ Slots.Lands (fun f v => (fs.file f).accepts v) (p.write fs.file device) g s) ∧
      fs.value g = text)

end TuningProfile

section Writes

variable {p : TuningProfile} {fs : SysFs} {device : CStr}

lemma put_of_some {s : Setting} {path text : CStr} (htext : p.setting s = some text)
    (htarget : s.target fs.file device = some path) (hpath : (fs.file path).writable = true) :
    (writeSetting fs path text).1 = p.put device fs s := by
  rw [writeSetting, if_pos hpath, TuningProfile.put, TuningProfile.write, htext, Option.bind_some,
    htarget]
  rfl

/-- Nothing is written for a setting that is not specified, or that no file can be opened for. -/
lemma put_of_none {s : Setting} (h : p.setting s = none ∨ s.target fs.file device = none) :
    p.put device fs s = fs := by
  have hwrite : p.write fs.file device s = none := by
    rcases h with h | h
    · rw [TuningProfile.write, h, Option.bind_none]
    · rw [TuningProfile.write, h]
      cases p.setting s <;> rfl
  rw [TuningProfile.put, hwrite]
  rfl

/-- A call of a setter is the write for its setting. -/
lemma callIf_eq_put {s : Setting} (hs : s ≠ .queueDepth) {c : Prop} [Decidable c] {text : CStr}
    {setter : SysFs → SysFs × ℤ} (htext : p.setting s = if c then some text else none)
    (hsetter : setter fs = writeSetting fs (s.file device) text) :
    callIf c setter fs = p.put device fs s := by
  unfold callIf
  split_ifs with hc
  · rw [if_pos hc] at htext
    rw [hsetter]
    by_cases hpath : (fs.file (s.file device)).writable = true
    · exact put_of_some htext (if_pos hpath) hpath
    · have htarget : s.target fs.file device = none := by
        rw [Setting.target, if_neg hpath, if_neg fun h => hs h.1]
      rw [put_of_none (Or.inr htarget), writeSetting, if_neg hpath]
  · rw [if_neg hc] at htext
    exact (put_of_none (Or.inl htext)).symm

lemma callIf_queueDepth_eq_put :
    callIf (0 < p.queueDepth.toInt) (perfSetQueueDepth · device p.queueDepth) fs =
      p.put device fs .queueDepth := by
  unfold callIf
  split_ifs with hc
  · have htext : p.setting .queueDepth = some (settingText p.queueDepth) := if_pos hc
    dsimp only [perfSetQueueDepth]
    split_ifs with hpath
    · exact put_of_some htext (if_pos hpath) hpath
    · by_cases hother : (fs.file (nrRequestsFile device)).writable = true
      · exact put_of_some htext ((if_neg hpath).trans (if_pos ⟨rfl, hother⟩)) hother
      · have htarget : Setting.target fs.file device .queueDepth = none :=
          (if_neg hpath).trans (if_neg fun h => hother h.2)
        rw [put_of_none (Or.inr htarget), writeSetting, if_neg hother]
  · have htext : p.setting .queueDepth = none := if_neg hc
    exact (put_of_none (Or.inl htext)).symm

/-- **The function as the list of its writes.**  It never fails. -/
lemma perfApplyProfile_eq :
    perfApplyProfile fs device p = (Setting.all.foldl (p.put device) fs, 0) := by
  -- from the last call to the first
  have hnext : ∀ {s : Setting} {fs₁ fs₂ : SysFs}, fs₁ = fs₂ →
      p.put device fs₁ s = p.put device fs₂ s := fun h => by rw [h]
  unfold perfApplyProfile
  refine Prod.ext ?_ rfl
  dsimp only
  refine Eq.trans (callIf_eq_put (p := p) (s := .vfsCachePressure) (by decide) rfl rfl) (hnext ?_)
  refine Eq.trans (callIf_eq_put (p := p) (s := .dirtyBackgroundRatio) (by decide) rfl rfl)
    (hnext ?_)
  refine Eq.trans (callIf_eq_put (p := p) (s := .dirtyRatio) (by decide) rfl rfl) (hnext ?_)
  refine Eq.trans (callIf_eq_put (p := p) (s := .swappiness) (by decide) rfl rfl) (hnext ?_)
  refine Eq.trans (callIf_eq_put (p := p) (s := .nrRequests) (by decide) rfl rfl) (hnext ?_)
  refine callIf_queueDepth_eq_put.trans (hnext ?_)
  refine Eq.trans (callIf_eq_put (p := p) (s := .readAhead) (by decide) rfl rfl) (hnext ?_)
  exact callIf_eq_put (p := p) (s := .scheduler) (by decide) rfl rfl

lemma foldl_put (l : List Setting) (fs : SysFs) :
    l.foldl (p.put device) fs =
      { fs with
        value := (l.filterMap (p.write fs.file device)).foldl
          (Slots.put fun f v => (fs.file f).accepts v) fs.value } := by
  induction l generalizing fs with
  | nil => rfl
  | cons s l ih =>
      rw [List.foldl_cons, ih]
      cases hwrite : p.write fs.file device s with
      | none => rw [List.filterMap_cons_none hwrite, TuningProfile.put, hwrite]; rfl
      | some w => rw [List.filterMap_cons_some hwrite, TuningProfile.put, hwrite]; rfl

/-- What is in a file afterwards. -/
lemma value_perfApplyProfile_iff {g text : CStr} :
    (perfApplyProfile fs device p).1.value g = text ↔ p.Leaves fs device g text := by
  rw [perfApplyProfile_eq, foldl_put, Slots.foldl_put_eq_iff, TuningProfile.Leaves]
  simp only [Setting.mem_all, forall_const]

lemma file_perfApplyProfile : (perfApplyProfile fs device p).1.file = fs.file := by
  rw [perfApplyProfile_eq, foldl_put]

end Writes

/-! ## Reading back -/

section Reading

variable {p : TuningProfile} {fs : SysFs} {device : CStr}

/-- The setting is shown by the file it is read from. -/
def TuningProfile.ReadsBack (p : TuningProfile) (fs : SysFs) (device : CStr) (s : Setting) : Prop :=
  ∃ g, s.source fs.file device = some g ∧ p.Shows s (fs.text g)

lemma readSetting_eq_iff {path : CStr} {v : ℤ} (hv : 0 ≤ v) :
    readSetting fs path = v ↔
      (fs.file path).readable = true ∧ scanInt (fs.text path) = some v := by
  unfold readSetting
  split_ifs with hread
  · rw [and_iff_right hread]
    cases scanInt (fs.text path) with
    | none => simp; omega
    | some n => simp
  · exact iff_of_false (by omega) fun h => hread h.1

/-- For a setting with a getter of its own. -/
lemma readsBack_getter_iff {s : Setting}
    (hs : s = .readAhead ∨ s = .swappiness ∨ s = .dirtyRatio) (hv : 0 ≤ p.number s) :
    p.ReadsBack fs device s ↔ readSetting fs (s.file device) = p.number s := by
  have hsource : s.source fs.file device =
      if (fs.file (s.file device)).readable then some (s.file device) else none := by
    rcases hs with rfl | rfl | rfl <;> simp [Setting.source]
  have hshows : ∀ text, p.Shows s text ↔ scanInt text = some (p.number s) := by
    rcases hs with rfl | rfl | rfl <;> exact fun _ => Iff.rfl
  rw [readSetting_eq_iff hv, TuningProfile.ReadsBack, hsource]
  simp only [hshows]
  split_ifs with hread
  · simp [hread]
  · simp [hread]

/-- For a setting of which the value of the file is meant. -/
lemma readsBack_value_iff {s : Setting}
    (hs : s = .nrRequests ∨ s = .dirtyBackgroundRatio ∨ s = .vfsCachePressure) :
    p.ReadsBack fs device s ↔ scanInt (fs.text (s.file device)) = some (p.number s) := by
  have hshows : ∀ text, p.Shows s text ↔ scanInt text = some (p.number s) := by
    rcases hs with rfl | rfl | rfl <;> exact fun _ => Iff.rfl
  rw [TuningProfile.ReadsBack, Setting.source, if_pos hs]
  simp only [hshows, Option.some.injEq, exists_eq_left']

lemma readsBack_scheduler_iff :
    p.ReadsBack fs device .scheduler ↔ perfGetScheduler fs device 32 = some p.scheduler := by
  unfold TuningProfile.ReadsBack perfGetScheduler Setting.source TuningProfile.Shows Setting.file
  by_cases hread : (fs.file (schedulerFile device)).readable = true <;> simp [hread]

lemma readsBack_queueDepth_iff (hv : 0 ≤ p.queueDepth.toInt) :
    p.ReadsBack fs device .queueDepth ↔ perfGetQueueDepth fs device = p.queueDepth.toInt := by
  have hnumber : p.number .queueDepth = p.queueDepth.toInt := rfl
  unfold TuningProfile.ReadsBack perfGetQueueDepth Setting.source TuningProfile.Shows Setting.file
  by_cases hread : (fs.file (queueDepthFile device)).readable = true
  · simp [hread, readSetting_eq_iff hv, hnumber]
  · by_cases hother : (fs.file (nrRequestsFile device)).readable = true
    · simp [hread, readSetting_eq_iff hv, hnumber, hother]
    · simp [hread, readSetting_eq_iff hv, hother]

lemma isSome_setting_iff (s : Setting) :
    (p.setting s).isSome = true ↔
      if s = .scheduler then 0 < p.scheduler.length
      else if s = .swappiness then 0 ≤ p.number s else 0 < p.number s := by
  have hite : ∀ (c : Prop) [Decidable c] (text : CStr),
      (if c then some text else none).isSome = true ↔ c := fun c _ text => by
    by_cases hc : c <;> simp [hc]
  cases s <;> exact hite _ _

/-- The profile is in force if what it specifies is shown by the files. -/
lemma profileInForce_iff :
    ProfileInForce fs device p ↔ ∀ s, (p.setting s).isSome = true → p.ReadsBack fs device s := by
  simp only [isSome_setting_iff]
  constructor
  · intro h s hs
    cases s with
    | scheduler => exact readsBack_scheduler_iff.mpr (h.scheduler hs)
    | readAhead =>
        exact (readsBack_getter_iff (s := .readAhead) (by simp) (le_of_lt hs)).mpr (h.readAhead hs)
    | queueDepth => exact (readsBack_queueDepth_iff (le_of_lt hs)).mpr (h.queueDepth hs)
    | nrRequests => exact (readsBack_value_iff (by simp)).mpr (h.nrRequests hs)
    | swappiness =>
        exact (readsBack_getter_iff (s := .swappiness) (by simp) hs).mpr (h.swappiness hs)
    | dirtyRatio =>
        exact (readsBack_getter_iff (s := .dirtyRatio) (by simp) (le_of_lt hs)).mpr
          (h.dirtyRatio hs)
    | dirtyBackgroundRatio =>
        exact (readsBack_value_iff (by simp)).mpr (h.dirtyBackgroundRatio hs)
    | vfsCachePressure => exact (readsBack_value_iff (by simp)).mpr (h.vfsCachePressure hs)
  · intro h
    exact {
      scheduler := fun hs => readsBack_scheduler_iff.mp (h .scheduler hs)
      readAhead := fun hs => (readsBack_getter_iff (s := .readAhead) (by simp) (le_of_lt hs)).mp
        (h .readAhead hs)
      queueDepth := fun hs => (readsBack_queueDepth_iff (le_of_lt hs)).mp (h .queueDepth hs)
      nrRequests := fun hs => (readsBack_value_iff (by simp)).mp (h .nrRequests hs)
      swappiness := fun hs =>
        (readsBack_getter_iff (s := .swappiness) (by simp) hs).mp (h .swappiness hs)
      dirtyRatio := fun hs => (readsBack_getter_iff (s := .dirtyRatio) (by simp) (le_of_lt hs)).mp
        (h .dirtyRatio hs)
      dirtyBackgroundRatio := fun hs =>
        (readsBack_value_iff (by simp)).mp (h .dirtyBackgroundRatio hs)
      vfsCachePressure := fun hs => (readsBack_value_iff (by simp)).mp (h .vfsCachePressure hs) }

end Reading

/-- **A profile that is reported applied is in force** exactly if for each setting it specifies
there is a file to read it from, and what the profile leaves in that file shows the setting. -/
theorem profile_in_force_iff (fs : SysFs) (device : CStr) (p : TuningProfile) :
    ((perfApplyProfile fs device p).2 = 0 →
        ProfileInForce (perfApplyProfile fs device p).1 device p) ↔
      ∀ s, (p.setting s).isSome = true → ∃ g, s.source fs.file device = some g ∧
        ∃ text, p.Leaves fs device g text ∧ p.Shows s ((fs.file g).form.show text) := by
  have hzero : (perfApplyProfile fs device p).2 = 0 := by rw [perfApplyProfile_eq]
  rw [forall_prop_of_true hzero, profileInForce_iff]
  refine forall₂_congr fun s _ => exists_congr fun g => ?_
  rw [file_perfApplyProfile]
  refine and_congr_right fun _ => ?_
  simp only [← value_perfApplyProfile_iff, exists_eq_left', SysFs.text, file_perfApplyProfile]

/-- Every file takes what is written to it; `device/queue_depth` is not there. -/
def noQueueDepth : SysFs where
  file path :=
    let found := path != queueDepthFile "/dev/vda".toList
    ⟨found, found, fun _ => true, .plain⟩
  value _ := []

lemma noScheduler_fits : ([] : CStr).length < 32 := by decide

/-- A queue depth and a number of requests, nothing else. -/
def twoDepths : TuningProfile := ⟨[], noScheduler_fits, 0, 32, 128, -1, 0, 0, 0⟩

/-- Both numbers go to one file, where the second replaces the first. -/
theorem profile_overwritten :
    ¬ ∀ (fs : SysFs) (device : CStr) (p : TuningProfile), (perfApplyProfile fs device p).2 = 0 →
      ProfileInForce (perfApplyProfile fs device p).1 device p := by
  intro hclaim
  have hforce := hclaim noQueueDepth "/dev/vda".toList twoDepths (by decide +kernel)
  have hread : perfGetQueueDepth (perfApplyProfile noQueueDepth "/dev/vda".toList twoDepths).1
      "/dev/vda".toList = 128 := by decide +kernel
  have hdepth := hforce.queueDepth (by decide)
  rw [hread] at hdepth
  exact absurd hdepth (by decide)

end Storage

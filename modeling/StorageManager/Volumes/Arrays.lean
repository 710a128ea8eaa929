import StorageManager.Volumes.Filesystems

/-!
# Creating arrays, groups and logical volumes

`raid_create`, `lvm_vg_create` and `lvm_lv_create`: the checks they make before anything is run, and
the commands they run after them.  What a call finds is an `FsEnv`, as for the file systems.
-/

namespace Storage

open CString Shell

variable {β : Type*} (env : FsEnv β)

/-! ## `raid_create` -/

/-- The levels `raid_create` accepts. -/
def raidLevels : List ℤ := [0, 1, 5, 10]

/-- The checks of `raid_create` up to that of the level: the code it returns if one fails. -/
def raidRefusal (level : ℤ) (count : ℕ) : Option Ret :=
  if env.isRoot = false then some .errorPermission
  else if count < 2 then some .errorInvalidParam
  else if level ∉ raidLevels then some .errorInvalidParam
  else none

/-- `mdadm --zero-superblock %s 2>/dev/null`. -/
def zeroText (device : CStr) : CStr :=
  "mdadm --zero-superblock ".toList ++ (device ++ " 2>/dev/null".toList)

/-- The loop that joins the names, with `str` in the buffer at the start: what the buffer holds
after each `strcat`, and what it holds at the end, or `none` if the loop is left at a device that is
not `found`.  A device is looked for when the names before it are in the buffer already. -/
def joinLoop (found : CStr → Bool) (str : CStr) : List CStr → List CStr × Option CStr
  | [] => ([], some str)
  | d :: ds =>
      if found d = false then ([], none)
      else if ds = [] then ([str ++ d], some (str ++ d))
      else
        let rest := joinLoop found (str ++ d ++ [' ']) ds
        ((str ++ d) :: (str ++ d ++ [' ']) :: rest.1, rest.2)

/-- The command, with `devices_str` in it. -/
def raidText (arrayName : CStr) (level : ℤ) (count : ℕ) (devicesStr : CStr) : CStr :=
  "mdadm --create ".toList ++ (arrayName ++ (" --level=".toList ++ (intText level ++
    (" --raid-devices=".toList ++ (decimal count ++ (' ' :: (devicesStr ++
      (" --force --run".toList ++ errToOut))))))))

/-- `raid_create`: what it returns and the commands it runs. -/
def raidCreate (arrayName : CStr) (level : ℤ) (devices : List CStr) : Ret × List CStr :=
  match raidRefusal env level devices.length with
  | some code => (code, [])
  | none =>
      match (joinLoop env.fileExists [] devices).2 with
      | none => (.errorNotFound, [])
      | some devicesStr =>
          let cmd := fit maxCommand (raidText arrayName level devices.length devicesStr)
          ((executeCommand (env.popen cmd) maxOutput).1,
            (devices.map fun d => fit maxCommand (zeroText d)) ++ [cmd])

/-! ## `lvm_vg_create` -/

/-- The command, with `pvs_str` in it. -/
def vgText (vgName pvsStr : CStr) : CStr :=
  "vgcreate ".toList ++ (vgName ++ (' ' :: (pvsStr ++ errToOut)))

/-- `pvs_str`: the loop looks for no device, and gets to its end. -/
def pvsStr (pvs : List CStr) : CStr := (joinLoop (fun _ => true) [] pvs).2.getD []

/-- `lvm_vg_create`. -/
def lvmVgCreate (vgName : CStr) (pvs : List CStr) : Ret × List CStr :=
  if env.isRoot = false then (.errorPermission, [])
  else if pvs.length < 1 then (.errorInvalidParam, [])
  else
    let cmd := fit maxCommand (vgText vgName (pvsStr pvs))
    ((executeCommand (env.popen cmd) maxOutput).1, [cmd])

/-! ## The joined names -/

/-- The names with a blank between them. -/
def devicesText (devices : List CStr) : CStr := (devices.intersperse [' ']).flatten

lemma devicesText_cons_cons (d e : CStr) (ds : List CStr) :
    devicesText (d :: e :: ds) = d ++ ' ' :: devicesText (e :: ds) := by
  simp [devicesText]

/-- A loop that finds all devices joins their names. -/
lemma joinLoop_snd {found : CStr → Bool} (str : CStr) {ds : List CStr}
    (h : ∀ d ∈ ds, found d = true) : (joinLoop found str ds).2 = some (str ++ devicesText ds) := by
  induction ds generalizing str with
  | nil => simp [joinLoop, devicesText]
  | cons d ds ih =>
      obtain ⟨hd, hds⟩ := List.forall_mem_cons.mp h
      cases ds with
      | nil => simp [joinLoop, devicesText, hd]
      | cons e ds =>
          rw [joinLoop, if_neg (by simp [hd]), if_neg (List.cons_ne_nil e ds), ih _ hds,
            devicesText_cons_cons]
          simp

/-- One that misses a device does not get to its end. -/
lemma joinLoop_snd_of_missing {found : CStr → Bool} (str : CStr) {ds : List CStr}
    (h : ∃ d ∈ ds, found d = false) : (joinLoop found str ds).2 = none := by
  induction ds generalizing str with
  | nil => exact absurd h (by simp)
  | cons d ds ih =>
      by_cases hd : found d = false
      · simp [joinLoop, hd]
      · obtain ⟨e, he, hmissing⟩ := h
        have hds : e ∈ ds := (List.mem_cons.mp he).resolve_left fun heq => hd (heq ▸ hmissing)
        rw [joinLoop, if_neg hd, if_neg (List.ne_nil_of_mem hds)]
        exact ih _ ⟨e, hds, hmissing⟩

@[simp] lemma pvsStr_eq (pvs : List CStr) : pvsStr pvs = devicesText pvs := by
  rw [pvsStr, joinLoop_snd [] fun _ _ => rfl]
  rfl

/-- What `raid_create` does once all devices are there. -/
lemma raidCreate_of_found {level : ℤ} {devices : List CStr}
    (hrefusal : raidRefusal env level devices.length = none)
    (hfound : ∀ d ∈ devices, env.fileExists d = true) (arrayName : CStr) :
    raidCreate env arrayName level devices =
      ((executeCommand (env.popen (fit maxCommand
          (raidText arrayName level devices.length (devicesText devices)))) maxOutput).1,
        (devices.map fun d => fit maxCommand (zeroText d)) ++
          [fit maxCommand (raidText arrayName level devices.length (devicesText devices))]) := by
  simp only [raidCreate, hrefusal, joinLoop_snd [] hfound, List.nil_append]

/-- And if one is not. -/
lemma raidCreate_of_missing {level : ℤ} {devices : List CStr}
    (hrefusal : raidRefusal env level devices.length = none)
    (hmissing : ∃ d ∈ devices, env.fileExists d = false) (arrayName : CStr) :
    raidCreate env arrayName level devices = (.errorNotFound, []) := by
  simp only [raidCreate, hrefusal, joinLoop_snd_of_missing [] hmissing]

lemma lvmVgCreate_of_root {pvs : List CStr} (hroot : env.isRoot = true) (hcount : 1 ≤ pvs.length)
    (vgName : CStr) :
    lvmVgCreate env vgName pvs =
      ((executeCommand (env.popen (fit maxCommand (vgText vgName (devicesText pvs))))
        maxOutput).1, [fit maxCommand (vgText vgName (devicesText pvs))]) := by
  rw [lvmVgCreate, if_neg (by simp [hroot]), if_neg (not_lt.mpr hcount), pvsStr_eq]

/-! ## `lvm_lv_create` -/

/-- `lvcreate -L %lluM -n %s %s 2>&1`. -/
def lvText (vgName lvName : CStr) (sizeMb : ℕ) : CStr :=
  "lvcreate -L ".toList ++ (decimal sizeMb ++ ("M -n ".toList ++ (lvName ++ (' ' :: (vgName ++
    errToOut)))))

/-- `lvm_lv_create`. -/
def lvmLvCreate (vgName lvName : CStr) (sizeMb : ℕ) : Ret × List CStr :=
  if env.isRoot = false then (.errorPermission, [])
  else if sizeMb = 0 then (.errorInvalidParam, [])
  else
    let cmd := fit maxCommand (lvText vgName lvName sizeMb)
    ((executeCommand (env.popen cmd) maxOutput).1, [cmd])

/-! ## Refused calls -/

lemma raidRefusal_ne_success (level : ℤ) (count : ℕ) :
    raidRefusal env level count ≠ some .success := by
  unfold raidRefusal
  split_ifs <;> simp

/-- `raid_create` gets past its check of the level. -/
lemma raidRefusal_eq_none_iff {level : ℤ} {count : ℕ} :
    raidRefusal env level count = none ↔
      env.isRoot = true ∧ 2 ≤ count ∧ level ∈ raidLevels := by
  unfold raidRefusal
  split_ifs with hroot hcount hlevel
  · exact iff_of_false (by simp) fun h => by simp [h.1] at hroot
  · exact iff_of_false (by simp) fun h => by omega
  · exact iff_of_true rfl ⟨by simpa using hroot, by omega, hlevel⟩
  · exact iff_of_false (by simp) fun h => hlevel h.2.2

/-- A call that fails a check runs nothing. -/
lemma raidCreate_of_refused {level : ℤ} {devices : List CStr}
    (h : raidRefusal env level devices.length ≠ none) (arrayName : CStr) :
    (raidCreate env arrayName level devices).1 ≠ .success ∧
      (raidCreate env arrayName level devices).2 = [] := by
  obtain ⟨code, hcode⟩ := Option.ne_none_iff_exists'.mp h
  have hne : code ≠ .success := by
    rintro rfl
    exact raidRefusal_ne_success env level devices.length hcode
  simp only [raidCreate, hcode]
  exact ⟨hne, trivial⟩

/-- A volume without a size is not created. -/
lemma lvmLvCreate_zero (vgName lvName : CStr) :
    (lvmLvCreate env vgName lvName 0).1 ≠ .success ∧ (lvmLvCreate env vgName lvName 0).2 = [] := by
  unfold lvmLvCreate
  cases env.isRoot <;> simp

end Storage

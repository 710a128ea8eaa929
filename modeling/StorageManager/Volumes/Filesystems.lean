import StorageManager.Common
import StorageManager.Lib.ShellLine

/-!
# File systems

`filesystem_ops.c` makes, checks, repairs and mounts file systems by running the tools for them.
The tools that write to a device that is in use destroy what is on it, so `fs_check` and
`fs_repair` ask `fs_is_mounted` first; `fs_create` does not.

`fs_is_mounted` compares the path it is given with the paths in `/proc/mounts`.  A block device has
several paths and is listed under one of them: `FsEnv.dev` is the device a path stands for, and
`FsEnv.Mounted` says that the device is mounted under whatever path.  The path and the label go into
a command line that is cut at its buffer, so what the tool works on is what the shell makes of that
line: `FsCall.Spares` is about the paths among its words, and `destructive_spares_mounted_iff` says
when a call leaves a mounted device alone.
-/

namespace Storage

open CString Shell

/-- `fs_type_t`. -/
inductive FsType
  | ext4
  | xfs
  | btrfs
  | unknown
  deriving DecidableEq, Repr

/-- `fs_type_to_string`. -/
def fsTypeToString : FsType → CStr
  | .ext4 => "ext4".toList
  | .xfs => "xfs".toList
  | .btrfs => "btrfs".toList
  | .unknown => "unknown".toList

/-- `fs_string_to_type`. -/
def fsStringToType (s : CStr) : FsType :=
  if s = "ext4".toList then .ext4
  else if s = "xfs".toList then .xfs
  else if s = "btrfs".toList then .btrfs
  else .unknown

/-- A line of `/proc/mounts`. -/
structure Mount where
  fsname : CStr
  dir : CStr
  deriving DecidableEq

/-- What a call finds: the caller, the files, whether `/proc/mounts` can be opened and what is in
it, the block device each path stands for, and what becomes of a command. -/
structure FsEnv (β : Type*) where
  isRoot : Bool
  fileExists : CStr → Bool
  procMounts : Bool
  mounts : List Mount
  dev : CStr → Option β
  popen : CStr → Option CommandRun

/-- The superuser's view where every file exists and every command prints this and succeeds. -/
def printingEnv (output : CStr) : FsEnv Unit where
  isRoot := true
  fileExists := fun _ => true
  procMounts := true
  mounts := []
  dev := fun _ => none
  popen := fun _ => some ⟨output, .exited 0⟩

section Functions

variable {β : Type*} (env : FsEnv β)

/-- `fs_is_mounted`. -/
def fsIsMounted (deviceOrMount : CStr) : ℤ :=
  if env.procMounts = false then -1
  else if ∃ m ∈ env.mounts, m.fsname = deviceOrMount ∨ m.dir = deviceOrMount then 1
  else 0

/-- Run a command: the code it comes to and the text the shell was given. -/
def runTool (text : CStr) : Ret × Option CStr :=
  let cmd := fit maxCommand text
  ((executeCommand (env.popen cmd) maxOutput).1, some cmd)

/-- The program `fs_create` chooses. -/
def mkfsCommand : FsType → Option CStr
  | .ext4 => some "mkfs.ext4 -F".toList
  | .xfs => some "mkfs.xfs -f".toList
  | .btrfs => some "mkfs.btrfs -f".toList
  | .unknown => none

/-- `%s -L "%s" %s 2>&1`, or `%s %s 2>&1` without a label. -/
def mkfsText (fsCmd : CStr) (label : Option CStr) (device : CStr) : CStr :=
  match label with
  | some (c :: l) =>
      fsCmd ++ (" -L \"".toList ++ (c :: l ++ ("\" ".toList ++ (device ++ errToOut))))
  | _ => fsCmd ++ ' ' :: (device ++ errToOut)

/-- `fs_create`. -/
def fsCreate (device : CStr) (type : FsType) (label : Option CStr) : Ret × Option CStr :=
  if env.isRoot = false then (.errorPermission, none)
  else if env.fileExists device = false then (.errorNotFound, none)
  else
    match mkfsCommand type with
    | none => (.errorInvalidParam, none)
    | some fsCmd => runTool env (mkfsText fsCmd label device)

/-- The common part of `fs_check` and `fs_repair`; `tool` is the command for the type, if there is
one. -/
def offlineTool (device : CStr) (tool : Option CStr) : Ret × Option CStr :=
  if env.isRoot = false then (.errorPermission, none)
  else if fsIsMounted env device ≠ 0 then (.errorGeneric, none)
  else
    match tool with
    | none => (.errorInvalidParam, none)
    | some tool => runTool env (tool ++ (device ++ errToOut))

/-- The command of `fs_check` up to the device. -/
def checkTool : FsType → Option CStr
  | .ext4 => some "e2fsck -n ".toList
  | .xfs => some "xfs_repair -n ".toList
  | _ => none

/-- The command of `fs_repair` up to the device. -/
def repairTool (autoRepair : Bool) : FsType → Option CStr
  | .ext4 => some (if autoRepair then "e2fsck -y ".toList else "e2fsck -p ".toList)
  | .xfs => some "xfs_repair ".toList
  | _ => none

/-- `fs_check`. -/
def fsCheck (device : CStr) (type : FsType) : Ret × Option CStr :=
  offlineTool env device (checkTool type)

/-- `fs_repair`. -/
def fsRepair (device : CStr) (type : FsType) (autoRepair : Bool) : Ret × Option CStr :=
  offlineTool env device (repairTool autoRepair type)

/-- The command of `fs_mount` up to the type. -/
def mountLead : CStr := "mount -t ".toList

/-- The option `-o`, in the middle of a line. -/
def optionsLead : CStr := " -o ".toList

/-- `mount -t %s -o %s %s %s 2>&1`, or the same without `-o %s`. -/
def mountText (type : FsType) (options : Option CStr) (device mountPoint : CStr) : CStr :=
  match options with
  | some (c :: o) =>
      mountLead ++ (fsTypeToString type ++ (optionsLead ++ (c :: o ++ (' ' :: (device ++
        (' ' :: (mountPoint ++ errToOut)))))))
  | _ =>
      mountLead ++ (fsTypeToString type ++ (' ' :: (device ++ (' ' :: (mountPoint ++ errToOut)))))

/-- `fs_mount`, after `fs_create_mount_point`, whose result it ignores. -/
def fsMount (device mountPoint : CStr) (type : FsType) (options : Option CStr) :
    Ret × Option CStr :=
  if env.isRoot = false then (.errorPermission, none)
  else if env.fileExists device = false then (.errorNotFound, none)
  else runTool env (mountText type options device mountPoint)

/-- The block device a path stands for is mounted, under this path or another. -/
def FsEnv.Mounted (device : CStr) : Prop :=
  ∃ b, env.dev device = some b ∧ ∃ m ∈ env.mounts, env.dev m.fsname = some b

/-- The table lists the very path. -/
def FsEnv.Listed (path : CStr) : Prop := ∃ m ∈ env.mounts, m.fsname = path ∨ m.dir = path

end Functions

/-- The calls that write to a device. -/
inductive FsCall
  | create (type : FsType) (label : Option CStr)
  | repair (type : FsType) (autoRepair : Bool)

section Calls

variable {β : Type*}

/-- The code the call returns and the command it runs. -/
def FsCall.exec (env : FsEnv β) (device : CStr) : FsCall → Ret × Option CStr
  | .create type label => fsCreate env device type label
  | .repair type autoRepair => fsRepair env device type autoRepair

/-- The call returns before its command. -/
def FsCall.Refused (env : FsEnv β) (device : CStr) : FsCall → Prop
  | .create type _ =>
      env.isRoot = false ∨ env.fileExists device = false ∨ type = .unknown
  | .repair type _ =>
      env.isRoot = false ∨ env.procMounts = false ∨ env.Listed device ∨
        type = .btrfs ∨ type = .unknown

/-- The words before the device in the command of a call, as the format strings have them. -/
def FsCall.leadPieces : FsCall → List Piece
  | .create type label =>
      (match type with
        | .ext4 => [.bare "mkfs.ext4".toList, .bare "-F".toList]
        | .xfs => [.bare "mkfs.xfs".toList, .bare "-f".toList]
        | .btrfs => [.bare "mkfs.btrfs".toList, .bare "-f".toList]
        | .unknown => []) ++
      match label with
      | some (c :: l) => [.bare "-L".toList, .quoted [] (c :: l)]
      | _ => []
  | .repair type autoRepair =>
      match type with
      | .ext4 => [.bare "e2fsck".toList, .bare (if autoRepair then "-y".toList else "-p".toList)]
      | .xfs => [.bare "xfs_repair".toList]
      | _ => []

/-- The command of the call before it is cut. -/
def FsCall.text (device : CStr) : FsCall → CStr
  | .create type label => mkfsText ((mkfsCommand type).getD []) label device
  | .repair type autoRepair => (repairTool autoRepair type).getD [] ++ (device ++ errToOut)

/-- The command, if one is run, is the tool with its options, and no path after them is that of a
mounted device. -/
def FsCall.Spares (env : FsEnv β) (device : CStr) (call : FsCall) : Prop :=
  ∀ cmd, (call.exec env device).2 = some cmd → ∃ paths, Shell.command cmd =
    some (call.leadPieces.map (·.word) ++ paths) ∧ ∀ p ∈ paths, ¬ env.Mounted p

/-- The device is one word of the command, and no option, the label stands for itself between its
quotes, and the command fits its buffer. -/
def FsCall.LineFits (device : CStr) (call : FsCall) : Prop :=
  ((Piece.bare device).Ok ∧ isOperand device = true) ∧
    (∀ type label, call = .create type (some label) → QuotedLiteral label) ∧
    (call.text device).length < maxCommand

variable (env : FsEnv β) (device : CStr)

/-- The check passes when the table can be read and does not list the path. -/
lemma fsIsMounted_eq_zero : fsIsMounted env device = 0 ↔
    env.procMounts = true ∧ ¬ env.Listed device := by
  unfold fsIsMounted
  cases hproc : env.procMounts with
  | false => simp
  | true =>
      by_cases hlisted : env.Listed device
      · have hfound : ∃ m ∈ env.mounts, m.fsname = device ∨ m.dir = device := hlisted
        simp [hlisted, hfound]
      · have hfound : ¬ ∃ m ∈ env.mounts, m.fsname = device ∨ m.dir = device := hlisted
        simp [hlisted, hfound]

lemma offlineTool_isSome (tool : Option CStr) : (offlineTool env device tool).2.isSome = true ↔
    env.isRoot = true ∧ env.procMounts = true ∧ ¬ env.Listed device ∧ tool.isSome = true := by
  have hguard := fsIsMounted_eq_zero env device
  unfold offlineTool
  split_ifs with hroot hmounted
  · simp [hroot]
  · rw [ne_eq, hguard] at hmounted
    exact iff_of_false (by simp) fun h => hmounted ⟨h.2.1, h.2.2.1⟩
  · rw [ne_eq, not_not, hguard] at hmounted
    cases tool with
    | none => simp
    | some tool => simp [runTool, hmounted, hroot]

lemma repairTool_isSome (autoRepair : Bool) (type : FsType) :
    (repairTool autoRepair type).isSome = true ↔ type ≠ .btrfs ∧ type ≠ .unknown := by
  cases type with
  | ext4 => exact iff_of_true rfl ⟨by decide, by decide⟩
  | xfs => exact iff_of_true rfl ⟨by decide, by decide⟩
  | btrfs => exact iff_of_false Bool.false_ne_true fun h => h.1 rfl
  | unknown => exact iff_of_false Bool.false_ne_true fun h => h.2 rfl

/-- Which calls reach their command. -/
lemma exec_isSome (call : FsCall) :
    (call.exec env device).2.isSome = true ↔ ¬ call.Refused env device := by
  cases call with
  | create type label =>
      simp only [FsCall.exec, FsCall.Refused, fsCreate]
      split_ifs with hroot hexists
      · simp [hroot]
      · simp [hexists]
      · cases type with
        | unknown => simp [mkfsCommand]
        | _ => exact iff_of_true rfl (by simp [hroot, hexists])
  | repair type autoRepair =>
      simp only [FsCall.exec, FsCall.Refused, fsRepair, offlineTool_isSome, repairTool_isSome,
        not_or, Bool.not_eq_false, ne_eq]

/-- The command of a call that gets to it. -/
lemma exec_eq_some {call : FsCall} {cmd : CStr} (h : (call.exec env device).2 = some cmd) :
    cmd = fit maxCommand (call.text device) := by
  cases call with
  | create type label =>
      simp only [FsCall.exec, fsCreate] at h
      split_ifs at h
      cases type <;> first | exact (Option.some.inj h).symm | exact absurd h (by simp [mkfsCommand])
  | repair type autoRepair =>
      simp only [FsCall.exec, fsRepair, offlineTool] at h
      split_ifs at h
      cases type <;> first | exact (Option.some.inj h).symm | exact absurd h (by simp [repairTool])

/-- The command of `fs_create` word by word, for any program and option. -/
lemma mkfsText_eq_line (a b : CStr) (label : Option CStr) :
    mkfsText (a ++ ' ' :: b) label device =
      line ([.bare a, .bare b] ++ (match label with
        | some (c :: l) => [.bare "-L".toList, .quoted [] (c :: l)]
        | _ => []) ++ [.bare device]) ++ errToOut := by
  have hplain : (a ++ ' ' :: b) ++ ' ' :: (device ++ errToOut) =
      line [.bare a, .bare b, .bare device] ++ errToOut := by
    simp [line, lineTail, Piece.text]
  have hlabel : ∀ l s : CStr,
      (a ++ ' ' :: b) ++ ((' ' :: (l ++ [' ', dquote])) ++ (s ++ ([dquote, ' '] ++
        (device ++ errToOut)))) =
      line [.bare a, .bare b, .bare l, .quoted [] s, .bare device] ++ errToOut := by
    intro l s
    simp [line, lineTail, Piece.text]
  rcases label with _ | _ | ⟨c, l⟩
  · exact hplain
  · exact hplain
  · exact hlabel "-L".toList (c :: l)

/-- The text of a call, word by word. -/
lemma FsCall.text_eq_line {call : FsCall} (hrefused : ¬ call.Refused env device) :
    call.text device = line (call.leadPieces ++ [.bare device]) ++ errToOut := by
  cases call with
  | create type label =>
      cases type with
      | ext4 => exact mkfsText_eq_line device "mkfs.ext4".toList "-F".toList label
      | xfs => exact mkfsText_eq_line device "mkfs.xfs".toList "-f".toList label
      | btrfs => exact mkfsText_eq_line device "mkfs.btrfs".toList "-f".toList label
      | unknown => exact absurd (.inr (.inr rfl)) hrefused
  | repair type autoRepair =>
      cases type with
      | ext4 =>
          cases autoRepair with
          | true => exact line_of_two "e2fsck".toList "-y".toList device errToOut
          | false => exact line_of_two "e2fsck".toList "-p".toList device errToOut
      | xfs => exact line_of_one "xfs_repair".toList device errToOut
      | btrfs => exact absurd (.inr (.inr (.inr (.inl rfl)))) hrefused
      | unknown => exact absurd (.inr (.inr (.inr (.inr rfl)))) hrefused

variable {device}

/-- The words before the device stand for themselves. -/
lemma leadPieces_ok {call : FsCall}
    (hlabel : ∀ type label, call = .create type (some label) → QuotedLiteral label) :
    ∀ p ∈ call.leadPieces, p.Ok := by
  cases call with
  | create type label =>
      refine List.forall_mem_append.mpr ⟨by cases type <;> decide, ?_⟩
      rcases label with _ | _ | ⟨c, l⟩
      · exact fun _ h => absurd h List.not_mem_nil
      · exact fun _ h => absurd h List.not_mem_nil
      · have hdash : (Piece.bare "-L".toList).Ok := by decide
        rw [List.forall_mem_cons, List.forall_mem_singleton]
        exact ⟨hdash, Piece.ok_quoted.mpr (hlabel type (c :: l) rfl)⟩
  | repair type autoRepair => cases type <;> cases autoRepair <;> decide

lemma FsCall.LineFits.command {call : FsCall} (h : call.LineFits device)
    (hrefused : ¬ call.Refused env device) :
    Shell.command (fit maxCommand (call.text device)) =
      some (call.leadPieces.map (·.word) ++ [device]) := by
  have hok : ∀ p ∈ call.leadPieces ++ [.bare device], p.Ok :=
    List.forall_mem_append.mpr ⟨leadPieces_ok h.2.1, List.forall_mem_singleton.mpr h.1.1⟩
  rw [fit_of_lt h.2.2, FsCall.text_eq_line env device hrefused, command_line_errToOut hok,
    List.map_append]
  rfl

variable (device)

/-- **A mounted device is left alone** exactly when the device is not mounted or the call returns
before its command, provided that the line of a call that does not is read as it is meant. -/
theorem destructive_spares_mounted_iff (call : FsCall)
    (hfits : ¬ call.Refused env device → call.LineFits device) :
    call.Spares env device ↔ ¬ env.Mounted device ∨ call.Refused env device := by
  by_cases hrefused : call.Refused env device
  · refine iff_of_true (fun cmd hcmd => ?_) (.inr hrefused)
    exact absurd hrefused ((exec_isSome env device call).mp (by rw [hcmd]; rfl))
  · rw [or_iff_left hrefused]
    have hwords := (hfits hrefused).command env hrefused
    constructor
    · intro h
      obtain ⟨cmd, hcmd⟩ := Option.isSome_iff_exists.mp ((exec_isSome env device call).mpr hrefused)
      obtain ⟨paths, hpaths, hspared⟩ := h cmd hcmd
      rw [exec_eq_some env device hcmd, hwords, Option.some.injEq, List.append_cancel_left_eq]
        at hpaths
      exact hspared device (hpaths ▸ List.mem_singleton_self device)
    · intro hfree cmd hcmd
      refine ⟨[device], by rw [exec_eq_some env device hcmd, hwords], fun p hp => ?_⟩
      rw [List.mem_singleton.mp hp]
      exact hfree

variable {env device}

/-- With one path per device, `fs_repair` is safe. -/
theorem repair_spares_mounted {type : FsType} {autoRepair : Bool}
    (hpaths : ∀ m ∈ env.mounts, env.dev m.fsname = env.dev device → m.fsname = device)
    (h : (fsRepair env device type autoRepair).2.isSome = true) : ¬ env.Mounted device := by
  rintro ⟨b, hdev, m, hm, hmount⟩
  have hunlisted := ((offlineTool_isSome env device _).mp h).2.2.1
  exact hunlisted ⟨m, hm, Or.inl (hpaths m hm (hmount.trans hdev.symm))⟩

end Calls

/-- Two disks, of which the first is mounted under the path it is known by. -/
def mountedDisk : FsEnv CStr where
  isRoot := true
  fileExists := fun _ => true
  procMounts := true
  mounts := [⟨['/', 'd', 'e', 'v', '/', 'a'], ['/', 'm', 'n', 't']⟩]
  dev := some
  popen := fun _ => none

lemma mountedDisk_mounted_iff (device : CStr) :
    mountedDisk.Mounted device ↔ device = ['/', 'd', 'e', 'v', '/', 'a'] := by
  simp [FsEnv.Mounted, mountedDisk, eq_comm]

/-- `fs_repair` refuses the one that is mounted; `fs_create` puts a labelled file system on the
other. -/
theorem destructive_spares_mounted_disks :
    (FsCall.repair .ext4 true).Spares mountedDisk ['/', 'd', 'e', 'v', '/', 'a'] ∧
    ((FsCall.create .ext4 (some ['d', 'a', 't', 'a'])).exec mountedDisk
        ['/', 'd', 'e', 'v', '/', 'b']).2.isSome = true ∧
    (FsCall.create .ext4 (some ['d', 'a', 't', 'a'])).Spares mountedDisk
      ['/', 'd', 'e', 'v', '/', 'b'] := by
  have hlisted : (FsCall.repair .ext4 true).Refused mountedDisk ['/', 'd', 'e', 'v', '/', 'a'] :=
    .inr (.inr (.inl ⟨_, List.mem_cons_self, .inl rfl⟩))
  have hfits : (FsCall.create .ext4 (some ['d', 'a', 't', 'a'])).LineFits
      ['/', 'd', 'e', 'v', '/', 'b'] := by
    refine ⟨by decide, fun type label h => ?_, by decide +kernel⟩
    obtain rfl : ['d', 'a', 't', 'a'] = label := by simpa using (FsCall.create.inj h).2
    decide
  refine ⟨(destructive_spares_mounted_iff mountedDisk _ _ fun h => absurd hlisted h).mpr
    (.inr hlisted), rfl, (destructive_spares_mounted_iff mountedDisk _ _ fun _ => hfits).mpr
    (.inl ?_)⟩
  rw [mountedDisk_mounted_iff]
  decide

/-- `fs_create` makes a file system on the mounted one. -/
theorem create_on_mounted :
    ¬ ∀ (env : FsEnv CStr) (device : CStr) (call : FsCall), call.Spares env device := by
  intro hclaim
  obtain ⟨paths, hpaths, hspared⟩ := hclaim mountedDisk ['/', 'd', 'e', 'v', '/', 'a']
    (.create .ext4 none) _ rfl
  have hwords : Shell.command (fit maxCommand (mkfsText "mkfs.ext4 -F".toList none
      ['/', 'd', 'e', 'v', '/', 'a'])) = some ((FsCall.create .ext4 none).leadPieces.map (·.word) ++
        [['/', 'd', 'e', 'v', '/', 'a']]) := by decide +kernel
  rw [hwords, Option.some.injEq, List.append_cancel_left_eq] at hpaths
  exact hspared _ (hpaths ▸ List.mem_singleton_self _) ((mountedDisk_mounted_iff _).mpr rfl)

end Storage

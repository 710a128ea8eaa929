import StorageManager.Backup.Readers
import StorageManager.Volumes.Arrays

/-!
# The command line

`main` of `storage_cli.c` finds the command in the arguments (`cliMain`) and calls the function for
it.  On the way four commands turn a token into a number or a type: `raid create` and
`lvm lv-create` with `atoi` and `strtoull`, `fs create` and `backup create` with a table.  Each of
them makes something of every token: the numbers stop at the first character that is no digit, and
the tables fall back to `ext4` and to a full backup.

`TokensExact` says that a command does what its token says and refuses every other token before
anything is run; `tokens_exact_iff` says when that is so.
-/

namespace Storage

open CString Shell Files

/-! ## Tokens -/

/-- `atoi`. -/
def atoi (s : CStr) : ℤ := (scanInt s).getD 0

/-- `strtoull (.., NULL, 10)`. -/
def strtoull (s : CStr) : ℕ := ((scanUnsigned s).map Prod.fst).getD 0

/-- `parse_fs_type`. -/
def parseFsType (s : CStr) : FsType :=
  if s = "ext4".toList then .ext4
  else if s = "xfs".toList then .xfs
  else if s = "btrfs".toList then .btrfs
  else .ext4

/-- The type `cmd_backup_create` takes a token for. -/
def parseBackupType (s : CStr) : BackupType :=
  if s = "incremental".toList then .incremental
  else if s = "differential".toList then .differential
  else .full

/-- The names of the types, as `main` prints them when arguments are missing. -/
def backupTypeName : BackupType → CStr
  | .full => "full".toList
  | .incremental => "incremental".toList
  | .differential => "differential".toList

/-! ## Commands -/

/-- What `main` does with its arguments: which function it calls, with the tokens it passes on or
converts first, or which lines it prints to `stderr` before it returns 1. -/
inductive CliCall
  | help (code : ℤ)
  | failed (lines : List CStr)
  | monitorStats (device : CStr)
  | monitorStart (interval : Option CStr)
  | monitorStop
  | backupCreate (source dest type : CStr)
  | backupList
  | backupRestore (backupId dest : CStr)
  | backupVerify (backupId : CStr)
  | perfBenchmark (device testFile : CStr)
  | perfTune (device : CStr) (scheduler : Option CStr) (readahead : Option CStr)
  | perfRecommend (device workload : CStr)
  | raidCreate (arrayName level : CStr) (devices : List CStr)
  | raidStatus (arrayName : CStr)
  | lvmPvCreate (device : CStr)
  | lvmVgCreate (vgName : CStr) (pvs : List CStr)
  | lvmLvCreate (vgName lvName sizeMb : CStr)
  | fsCreate (device type label : CStr)
  | fsMount (device mountPoint type : CStr)
  | fsUnmount (mountPoint : CStr)
  | fsCheck (device type : CStr)
  | memoryStatus
  | status
  deriving DecidableEq

/-- `Usage: <prog> <text>`. -/
def usageLine (prog text : CStr) : CStr := "Usage: ".toList ++ (prog ++ ' ' :: text)

/-- A call that ends with the usage of a command. -/
def usage (prog : CStr) (text : String) : CliCall := .failed [usageLine prog text.toList]

/-- What follows the option in the last argument that starts with it. -/
def lastOption (option : CStr) (args : List CStr) : Option CStr :=
  args.foldl
    (fun found a => if option.isPrefixOf a then some (a.drop option.length) else found) none

/-- The last branch of `main` and of each command. -/
def unknownCommand (prog command : CStr) : CliCall :=
  .failed ["Unknown command: ".toList ++ command,
    "Run '".toList ++ (prog ++ " help' for usage information".toList)]

/-- The branch of `main` for `monitor`. -/
def monitorCommand (prog : CStr) : List CStr → CliCall
  | [] => usage prog "monitor <stats|start|stop> [args]"
  | subcmd :: args =>
      if subcmd = "stats".toList then
        match args with
        | device :: _ => .monitorStats device
        | [] => usage prog "monitor stats <device>"
      else if subcmd = "start".toList then .monitorStart args.head?
      else if subcmd = "stop".toList then .monitorStop
      else unknownCommand prog "monitor".toList

/-- The branch of `main` for `backup`. -/
def backupCommand (prog : CStr) : List CStr → CliCall
  | [] => usage prog "backup reate|list|restore|verify> [args]"
  | subcmd :: args =>
      if subcmd = "create".toList then
        match args with
        | source :: dest :: type :: _ => .backupCreate source dest type
        | _ => .failed [usageLine prog "backup create <source> <dest> <type>".toList,
            "Types: full, incremental, differential".toList]
      else if subcmd = "list".toList then .backupList
      else if subcmd = "restore".toList then
        match args with
        | backupId :: dest :: _ => .backupRestore backupId dest
        | _ => usage prog "backup restore <backup_id> <dest>"
      else if subcmd = "verify".toList then
        match args with
        | backupId :: _ => .backupVerify backupId
        | [] => usage prog "backup verify <backup_id>"
      else unknownCommand prog "backup".toList

/-- The branch of `main` for `perf`. -/
def perfCommand (prog : CStr) : List CStr → CliCall
  | [] => usage prog "perf <benchmark|tune|recommend> [args]"
  | subcmd :: args =>
      if subcmd = "benchmark".toList then
        match args with
        | device :: testFile :: _ => .perfBenchmark device testFile
        | _ => usage prog "perf benchmark <device> <test_file>"
      else if subcmd = "tune".toList then
        match args with
        | device :: options =>
            .perfTune device (lastOption "--scheduler=".toList options)
              (lastOption "--readahead=".toList options)
        | [] => usage prog "perf tune <device> [--scheduler=X] [--readahead=Y]"
      else if subcmd = "recommend".toList then
        match args with
        | device :: workload :: _ => .perfRecommend device workload
        | _ => .failed [usageLine prog "perf recommend <device> <workload>".toList,
            "Workloads: database, web, fileserver, general".toList]
      else unknownCommand prog "perf".toList

/-- The branch of `main` for `raid`. -/
def raidCommand (prog : CStr) : List CStr → CliCall
  | [] => usage prog "raid reate|status> [args]"
  | subcmd :: args =>
      if subcmd = "create".toList then
        match args with
        | arrayName :: level :: device :: devices =>
            .raidCreate arrayName level (device :: devices)
        | _ => usage prog "raid create <array> <level> <dev1> [dev2 ...]"
      else if subcmd = "status".toList then
        match args with
        | arrayName :: _ => .raidStatus arrayName
        | [] => usage prog "raid status <array>"
      else unknownCommand prog "raid".toList

/-- The branch of `main` for `lvm`. -/
def lvmCommand (prog : CStr) : List CStr → CliCall
  | [] => usage prog "lvm <pv-create|vg-create|lv-create> [args]"
  | subcmd :: args =>
      if subcmd = "pv-create".toList then
        match args with
        | device :: _ => .lvmPvCreate device
        | [] => usage prog "lvm pv-create <device>"
      else if subcmd = "vg-create".toList then
        match args with
        | vgName :: pv :: pvs => .lvmVgCreate vgName (pv :: pvs)
        | _ => usage prog "lvm vg-create <vg_name> <pv1> [pv2 ...]"
      else if subcmd = "lv-create".toList then
        match args with
        | vgName :: lvName :: sizeMb :: _ => .lvmLvCreate vgName lvName sizeMb
        | _ => usage prog "lvm lv-create <vg_name> <lv_name> <size_mb>"
      else unknownCommand prog "lvm".toList

/-- The branch of `main` for `fs`. -/
def fsCommand (prog : CStr) : List CStr → CliCall
  | [] => usage prog "fs reate|mount|unmount|check> [args]"
  | subcmd :: args =>
      if subcmd = "create".toList then
        match args with
        | device :: type :: options =>
            .fsCreate device type ((lastOption "--label=".toList options).getD "storage_vol".toList)
        | _ => usage prog "fs create <device> <type> [--label=NAME]"
      else if subcmd = "mount".toList then
        match args with
        | device :: mountPoint :: type :: _ => .fsMount device mountPoint type
        | _ => usage prog "fs mount <device> <mount_point> <type>"
      else if subcmd = "unmount".toList then
        match args with
        | mountPoint :: _ => .fsUnmount mountPoint
        | [] => usage prog "fs unmount <mount_point>"
      else if subcmd = "check".toList then
        match args with
        | device :: type :: _ => .fsCheck device type
        | _ => usage prog "fs check <device> <type>"
      else unknownCommand prog "fs".toList

/-- The branch of `main` for `memory`. -/
def memoryCommand (prog : CStr) : List CStr → CliCall
  | [] => usage prog "memory status"
  | subcmd :: _ =>
      if subcmd = "status".toList then .memoryStatus else unknownCommand prog "memory".toList

/-- `main`, with `argv [0]` first. -/
def cliMain : List CStr → CliCall
  | prog :: command :: args =>
      if command = "monitor".toList then monitorCommand prog args
      else if command = "backup".toList then backupCommand prog args
      else if command = "perf".toList then perfCommand prog args
      else if command = "raid".toList then raidCommand prog args
      else if command = "lvm".toList then lvmCommand prog args
      else if command = "fs".toList then fsCommand prog args
      else if command = "memory".toList then memoryCommand prog args
      else if command = "status".toList then .status
      else if command = "help".toList ∨ command = "--help".toList ∨ command = "-h".toList then
        .help 0
      else unknownCommand prog command
  | _ => .help 1

/-! ## The functions behind four of them -/

/-- What the commands find: besides the devices, whether the database can be opened and what is in
it, the files, and the surroundings of `backup_create`. -/
structure CliEnv (β κ : Type*) extends FsEnv β where
  localtime : ℤ → Tm
  cwd : Path
  dbOpens : Bool
  rows : List CatRow
  fs : Path → Option κ
  create : CreateEnv

section Functions

variable {β κ : Type*} (env : CliEnv β κ)

/-- `cmd_raid_create`, after `atoi`. -/
def cmdRaidCreate (arrayName level : CStr) (devices : List CStr) : Ret × List CStr :=
  raidCreate env.toFsEnv arrayName (atoi level) devices

/-- `cmd_lvm_lv_create`, after `strtoull`. -/
def cmdLvmLvCreate (vgName lvName sizeMb : CStr) : Ret × List CStr :=
  lvmLvCreate env.toFsEnv vgName lvName (strtoull sizeMb)

/-- `cmd_fs_create`. -/
def cmdFsCreate (device type label : CStr) : Ret × Option CStr :=
  fsCreate env.toFsEnv device (parseFsType type) (some label)

/-- The commands of `backup_init`. -/
def backupInitCommands : List CStr :=
  ["mkdir -p /var/lib/storage_mgr".toList, "mkdir -p /backup".toList]

/-- The commands of `backup_create`.  `du` comes last, if the copy could be started. -/
def backupCreateCommands (source dest : CStr) (type : BackupType) : List CStr :=
  let c := createCall source dest type (env.localtime env.create.idNow)
  let newest := newestBackup (some env.rows) type env.create
  [fit 2048 (mkdirText c.destPath), fit 2048 (createText type newest source c.destPath)] ++
    if env.create.popen.isSome then [fit 512 (duLead ++ (c.destPath ++ duClose))] else []

/-- `cmd_backup_create`. -/
def cmdBackupCreate (source dest type : CStr) : ℤ × List CStr :=
  if env.dbOpens = false then (-1, backupInitCommands)
  else
    ((backupCreate env.localtime env.cwd ⟨some env.rows, env.fs⟩ source dest (parseBackupType type)
        env.create).2,
      backupInitCommands ++ backupCreateCommands env source dest (parseBackupType type))

/-! ## Exact tokens -/

/-- A decimal numeral that an `unsigned long long` holds. -/
def SizeNumeral (s : CStr) : Prop :=
  s ≠ [] ∧ (∀ c ∈ s, c.isDigit = true) ∧ Nat.ofDigitChars 10 s 0 < 2 ^ 64

/-- The command does what its token says, and any other token is an error before anything is
run. -/
def TokensExact : CliCall → Prop
  | .raidCreate arrayName level devices =>
      (raidRefusal env.toFsEnv (atoi level) devices.length = none → level = intText (atoi level)) ∧
        ((∀ l ∈ raidLevels, level ≠ intText l) →
          (cmdRaidCreate env arrayName level devices).1 ≠ .success ∧
            (cmdRaidCreate env arrayName level devices).2 = [])
  | .lvmLvCreate vgName lvName sizeMb =>
      (strtoull sizeMb ≠ 0 → SizeNumeral sizeMb ∧ Nat.ofDigitChars 10 sizeMb 0 = strtoull sizeMb) ∧
        (¬ SizeNumeral sizeMb →
          (cmdLvmLvCreate env vgName lvName sizeMb).1 ≠ .success ∧
            (cmdLvmLvCreate env vgName lvName sizeMb).2 = [])
  | .fsCreate device type label =>
      ((cmdFsCreate env device type label).2.isSome = true →
          type = fsTypeToString (parseFsType type)) ∧
        (fsStringToType type = .unknown →
          (cmdFsCreate env device type label).1 ≠ .success ∧
            (cmdFsCreate env device type label).2 = none)
  | .backupCreate source dest type =>
      (env.dbOpens = true → type = backupTypeName (parseBackupType type)) ∧
        ((∀ t, type ≠ backupTypeName t) →
          (cmdBackupCreate env source dest type).1 ≠ 0 ∧
            (cmdBackupCreate env source dest type).2 = [])
  | _ => True

/-- The token is one of those meant, or the call is refused for another reason. -/
def TokensMeant : CliCall → Prop
  | .raidCreate _ level devices =>
      (∃ l ∈ raidLevels, level = intText l) ∨ env.isRoot = false ∨ devices.length < 2 ∨
        atoi level ∉ raidLevels
  | .lvmLvCreate _ _ sizeMb => SizeNumeral sizeMb ∨ strtoull sizeMb = 0
  | .fsCreate device type _ =>
      fsStringToType type ≠ .unknown ∨ env.isRoot = false ∨ env.fileExists device = false
  | .backupCreate _ _ type => ∃ t, type = backupTypeName t
  | _ => True

end Functions

/-! ### Numbers -/

/-- The numerals of the levels are read as the levels. -/
lemma atoi_raidLevel {l : ℤ} (h : l ∈ raidLevels) : atoi (intText l) = l := by
  have hall : ∀ l ∈ raidLevels, atoi (intText l) = l := by decide +kernel
  exact hall l h

/-- A numeral that fits is read as its value. -/
lemma strtoull_numeral {s : CStr} (h : SizeNumeral s) : strtoull s = Nat.ofDigitChars 10 s 0 := by
  have hscan := scanUnsigned_append h.1 h.2.1 breaks_nil
  rw [List.append_nil] at hscan
  rw [strtoull, hscan, Option.map_some, Option.getD_some, saturate64]
  have hlt := h.2.2
  omega

/-! ### Types -/

lemma fsStringToType_eq_unknown_iff {s : CStr} :
    fsStringToType s = .unknown ↔ s ∉ ["ext4".toList, "xfs".toList, "btrfs".toList] := by
  unfold fsStringToType
  split_ifs with hext4 hxfs hbtrfs <;> simp_all

lemma parseFsType_ne_unknown (s : CStr) : parseFsType s ≠ .unknown := by
  unfold parseFsType
  split_ifs <;> simp

/-- The two tables agree on the names. -/
lemma parseFsType_eq_iff {s : CStr} :
    parseFsType s = fsStringToType s ↔ s ∈ ["ext4".toList, "xfs".toList, "btrfs".toList] := by
  rw [← not_iff_not, ← fsStringToType_eq_unknown_iff]
  constructor
  · intro hne
    unfold parseFsType fsStringToType at *
    split_ifs at * <;> simp_all
  · intro hunknown heq
    exact parseFsType_ne_unknown s (heq.trans hunknown)

/-- A token is the name of what it is taken for exactly when it is a name. -/
lemma eq_fsTypeToString_iff {s : CStr} :
    s = fsTypeToString (parseFsType s) ↔ fsStringToType s ≠ .unknown := by
  rw [ne_eq, fsStringToType_eq_unknown_iff, not_not]
  unfold parseFsType
  split_ifs with hext4 hxfs hbtrfs
  · exact iff_of_true hext4 (by simp [hext4])
  · exact iff_of_true hxfs (by simp [hxfs])
  · exact iff_of_true hbtrfs (by simp [hbtrfs])
  · exact iff_of_false hext4 fun hmem => by simp_all

lemma eq_backupTypeName_iff {s : CStr} :
    s = backupTypeName (parseBackupType s) ↔ ∃ t, s = backupTypeName t := by
  constructor
  · exact fun h => ⟨_, h⟩
  · rintro ⟨t, rfl⟩
    cases t <;> decide

section Exact

variable {β κ : Type*} (env : CliEnv β κ)

lemma tokensExact_raidCreate (arrayName level : CStr) (devices : List CStr) :
    TokensExact env (.raidCreate arrayName level devices) ↔
      TokensMeant env (.raidCreate arrayName level devices) := by
  constructor
  · rintro ⟨hexact, -⟩
    by_cases hpast : raidRefusal env.toFsEnv (atoi level) devices.length = none
    · exact Or.inl ⟨atoi level, (raidRefusal_eq_none_iff env.toFsEnv).mp hpast |>.2.2, hexact hpast⟩
    · rw [raidRefusal_eq_none_iff, not_and_or, not_and_or, Bool.not_eq_true, not_le] at hpast
      exact Or.inr hpast
  · rintro (⟨l, hl, rfl⟩ | hrefused)
    · refine ⟨fun _ => by rw [atoi_raidLevel hl], fun hother => absurd rfl (hother l hl)⟩
    · have hpast : raidRefusal env.toFsEnv (atoi level) devices.length ≠ none := by
        rw [ne_eq, raidRefusal_eq_none_iff, not_and_or, not_and_or, Bool.not_eq_true, not_le]
        exact hrefused
      exact ⟨fun hnone => absurd hnone hpast,
        fun _ => raidCreate_of_refused env.toFsEnv hpast arrayName⟩

lemma tokensExact_lvmLvCreate (vgName lvName sizeMb : CStr) :
    TokensExact env (.lvmLvCreate vgName lvName sizeMb) ↔
      TokensMeant env (.lvmLvCreate vgName lvName sizeMb) := by
  constructor
  · rintro ⟨hexact, -⟩
    by_cases hzero : strtoull sizeMb = 0
    · exact Or.inr hzero
    · exact Or.inl (hexact hzero).1
  · rintro (hnumeral | hzero)
    · exact ⟨fun _ => ⟨hnumeral, (strtoull_numeral hnumeral).symm⟩,
        fun hother => absurd hnumeral hother⟩
    · refine ⟨fun hne => absurd hzero hne, fun _ => ?_⟩
      rw [cmdLvmLvCreate, hzero]
      exact lvmLvCreate_zero env.toFsEnv vgName lvName

/-- `fs create` makes a file system unless the caller is not root or there is no device. -/
lemma cmdFsCreate_isSome (device type label : CStr) :
    (cmdFsCreate env device type label).2.isSome = true ↔
      env.isRoot = true ∧ env.fileExists device = true := by
  have hreached := exec_isSome env.toFsEnv device (.create (parseFsType type) (some label))
  simpa [cmdFsCreate, FsCall.exec, FsCall.Refused, parseFsType_ne_unknown] using hreached

lemma cmdFsCreate_refused {device : CStr} (type label : CStr)
    (h : env.isRoot = false ∨ env.fileExists device = false) :
    (cmdFsCreate env device type label).1 ≠ .success ∧
      (cmdFsCreate env device type label).2 = none := by
  unfold cmdFsCreate fsCreate
  cases hroot : env.isRoot with
  | false => simp
  | true => simp [h.resolve_left (by simp [hroot])]

lemma tokensExact_fsCreate (device type label : CStr) :
    TokensExact env (.fsCreate device type label) ↔
      TokensMeant env (.fsCreate device type label) := by
  constructor
  · rintro ⟨hexact, -⟩
    by_cases hreached : env.isRoot = true ∧ env.fileExists device = true
    · have hname := hexact ((cmdFsCreate_isSome env device type label).mpr hreached)
      exact Or.inl (eq_fsTypeToString_iff.mp hname)
    · rw [not_and_or, Bool.not_eq_true, Bool.not_eq_true] at hreached
      exact Or.inr hreached
  · rintro (hname | hrefused)
    · exact ⟨fun _ => eq_fsTypeToString_iff.mpr hname, fun hunknown => absurd hunknown hname⟩
    · have hnone := cmdFsCreate_refused env type label hrefused
      exact ⟨fun hsome => by simp [hnone.2] at hsome, fun _ => hnone⟩

/-- `backup create` runs commands whatever the token is. -/
lemma cmdBackupCreate_ne_nil (source dest type : CStr) :
    (cmdBackupCreate env source dest type).2 ≠ [] := by
  unfold cmdBackupCreate
  split_ifs <;> simp [backupInitCommands]

lemma tokensExact_backupCreate (source dest type : CStr) :
    TokensExact env (.backupCreate source dest type) ↔
      TokensMeant env (.backupCreate source dest type) := by
  constructor
  · rintro ⟨-, hother⟩
    by_contra hnone
    exact cmdBackupCreate_ne_nil env source dest type (hother (not_exists.mp hnone)).2
  · intro hname
    exact ⟨fun _ => eq_backupTypeName_iff.mpr hname,
      fun hother => absurd hname (not_exists.mpr hother)⟩

end Exact

/-- **The command line does what its tokens say** exactly when the token is one of those meant: the
numeral of a level, a numeral that fits, the name of a type; or when the call is refused for another
reason, or the number read from the token is refused.  The two tables of file system types agree
exactly on the names. -/
theorem tokens_exact_iff {β κ : Type*} (env : CliEnv β κ) :
    (∀ argv : List CStr, TokensExact env (cliMain argv) ↔ TokensMeant env (cliMain argv)) ∧
      ∀ s, parseFsType s = fsStringToType s ↔
        s ∈ ["ext4".toList, "xfs".toList, "btrfs".toList] := by
  refine ⟨fun argv => ?_, fun s => parseFsType_eq_iff⟩
  cases cliMain argv with
  | raidCreate arrayName level devices => exact tokensExact_raidCreate env arrayName level devices
  | lvmLvCreate vgName lvName sizeMb => exact tokensExact_lvmLvCreate env vgName lvName sizeMb
  | fsCreate device type label => exact tokensExact_fsCreate env device type label
  | backupCreate source dest type => exact tokensExact_backupCreate env source dest type
  | _ => exact Iff.rfl

/-- One disk, and a database that opens. -/
def rootCli : CliEnv CStr ℕ :=
  { mountedDisk with
    localtime := newYearClock
    cwd := []
    dbOpens := true
    rows := []
    fs := fun _ => none
    create := envAt 0 [] }

/-- `storage_cli fs create /dev/a ext3` runs `mkfs.ext4`. -/
theorem cli_makes_another_type :
    ¬ ∀ (env : CliEnv CStr ℕ) (argv : List CStr), TokensExact env (cliMain argv) := by
  intro hclaim
  have hexact := hclaim rootCli ["storage_cli".toList, "fs".toList, "create".toList,
    "/dev/a".toList, "ext3".toList]
  have hcall : cliMain ["storage_cli".toList, "fs".toList, "create".toList, "/dev/a".toList,
      "ext3".toList] = .fsCreate "/dev/a".toList "ext3".toList "storage_vol".toList := by
    decide +kernel
  rw [hcall] at hexact
  exact absurd (hexact.1 (by decide +kernel)) (by decide +kernel)

end Storage

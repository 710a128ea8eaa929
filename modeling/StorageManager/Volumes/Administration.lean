import StorageManager.CommandLines
import StorageManager.Lib.Told
import StorageManager.Volumes.DeviceLists
import StorageManager.Volumes.Physical

/-!
# Administering arrays, groups and volumes

The functions of `raid_manager.c` and `lvm_manager.c` that change something check a few things and
then run a tool, and the code they return is that of the last command.  What the tools do is a
parameter (`VolumeTools`): on the system itself, and on a picture of it in which there are the
arrays, groups and volumes, but not the superblocks that are left on devices outside an array.

`raid_create` and `raid_add_disk` wipe those superblocks before they know whether the rest will
work, so a call that fails may have changed the system.  It has not changed the picture
(`view_zeros`), and a call that succeeds has changed it as its tool should: the codes of a run tell
what there is (`volume_runs_told`).  `lvm_pv_remove` is the one function that looks at the output of
a command before it runs the next; the listing it takes is not seen in the picture either.
-/

namespace Storage

open CString Shell CommandCall

/-! ## The functions -/

/-- The command of `raid_add_disk` up to the array. -/
def addLead : CStr := "mdadm --add ".toList

/-- The command of `raid_fail_disk` up to the array. -/
def failLead : CStr := "mdadm --fail ".toList

/-- The command of `raid_remove_disk` up to the array. -/
def removeDiskLead : CStr := "mdadm --remove ".toList

/-- The command of `raid_stop` up to the array. -/
def stopLead : CStr := "mdadm --stop ".toList

/-- The command of `lvm_pv_create` up to the device. -/
def pvCreateLead : CStr := "pvcreate ".toList

/-- The command of `lvm_vg_extend` up to the group. -/
def vgExtendLead : CStr := "vgextend ".toList

/-- The command of `lvm_vg_remove` up to the group. -/
def vgRemoveLead : CStr := "vgremove -f ".toList

/-- The command of `lvm_lv_extend` up to the size. -/
def lvExtendLead : CStr := "lvextend -L +".toList

/-- The command of `lvm_lv_remove` up to the path of the volume. -/
def lvRemoveLead : CStr := "lvremove -f ".toList

/-- The command of `lvm_snapshot_create` up to the size. -/
def snapshotLead : CStr := "lvcreate -L ".toList

/-- The same between the size and the name of the snapshot. -/
def snapshotNameLead : CStr := "M -s -n ".toList

/-- The command of `lvm_snapshot_merge` up to the path of the snapshot. -/
def mergeLead : CStr := "lvconvert --merge ".toList

/-- `/dev/%s/%s`. -/
def volumePath (vgName lvName : CStr) : CStr :=
  ['/', 'd', 'e', 'v', '/'] ++ (vgName ++ '/' :: lvName)

/-- A command with one argument. -/
def oneText (lead a : CStr) : CStr := lead ++ (a ++ errToOut)

/-- A command with two arguments. -/
def pairText (lead a b : CStr) : CStr := lead ++ (a ++ (' ' :: (b ++ errToOut)))

/-- `lvextend -L +%lluM /dev/%s/%s 2>&1`. -/
def lvExtendText (vgName lvName : CStr) (addSizeMb : ℕ) : CStr :=
  lvExtendLead ++ (decimal addSizeMb ++ ('M' :: ' ' :: (volumePath vgName lvName ++ errToOut)))

/-- `lvcreate -L %lluM -s -n %s /dev/%s/%s 2>&1`. -/
def snapshotText (vgName originLv snapshotName : CStr) (sizeMb : ℕ) : CStr :=
  snapshotLead ++ (decimal sizeMb ++ (snapshotNameLead ++ (snapshotName ++ (' ' ::
    (volumePath vgName originLv ++ errToOut)))))

section Functions

variable {β : Type*} (env : FsEnv β)

/-- A command that is run for the superuser only. -/
def rootCommand (text : CStr) : Ret × List CStr :=
  if env.isRoot = false then (.errorPermission, [])
  else
    let cmd := fit maxCommand text
    ((executeCommand (env.popen cmd) maxOutput).1, [cmd])

/-- `raid_add_disk`: what it returns and the commands it runs. -/
def raidAddDisk (arrayName device : CStr) : Ret × List CStr :=
  if env.isRoot = false then (.errorPermission, [])
  else if env.fileExists arrayName = false then (.errorNotFound, [])
  else if env.fileExists device = false then (.errorNotFound, [])
  else
    let cmd := fit maxCommand (pairText addLead arrayName device)
    ((executeCommand (env.popen cmd) maxOutput).1, [fit maxCommand (zeroText device), cmd])

/-- `raid_fail_disk`. -/
def raidFailDisk (arrayName device : CStr) : Ret × List CStr :=
  rootCommand env (pairText failLead arrayName device)

/-- `raid_remove_disk`. -/
def raidRemoveDisk (arrayName device : CStr) : Ret × List CStr :=
  rootCommand env (pairText removeDiskLead arrayName device)

/-- `raid_stop`. -/
def raidStop (arrayName : CStr) : Ret × List CStr := rootCommand env (oneText stopLead arrayName)

/-- `lvm_pv_create`. -/
def lvmPvCreate (device : CStr) : Ret × List CStr :=
  if env.isRoot = false then (.errorPermission, [])
  else if env.fileExists device = false then (.errorNotFound, [])
  else
    let cmd := fit maxCommand (oneText pvCreateLead device)
    ((executeCommand (env.popen cmd) maxOutput).1, [cmd])

/-- `lvm_pv_remove`, with the listing it looks at. -/
def pvRemove (pvName : CStr) : Ret × List CStr :=
  let listing := fit maxCommand pvsText
  let r := lvmPvRemove env.isRoot (env.popen listing) pvName
    (env.popen (fit maxCommand (pvremoveText pvName)))
  (r.1, if env.isRoot = false then [] else listing :: r.2.toList)

/-- `lvm_vg_extend`. -/
def lvmVgExtend (vgName pv : CStr) : Ret × List CStr :=
  rootCommand env (pairText vgExtendLead vgName pv)

/-- `lvm_vg_remove`. -/
def lvmVgRemove (vgName : CStr) : Ret × List CStr := rootCommand env (oneText vgRemoveLead vgName)

/-- `lvm_lv_extend`. -/
def lvmLvExtend (vgName lvName : CStr) (addSizeMb : ℕ) : Ret × List CStr :=
  rootCommand env (lvExtendText vgName lvName addSizeMb)

/-- `lvm_lv_remove`. -/
def lvmLvRemove (vgName lvName : CStr) : Ret × List CStr :=
  rootCommand env (oneText lvRemoveLead (volumePath vgName lvName))

/-- `lvm_snapshot_create`. -/
def lvmSnapshotCreate (vgName originLv snapshotName : CStr) (sizeMb : ℕ) : Ret × List CStr :=
  rootCommand env (snapshotText vgName originLv snapshotName sizeMb)

/-- `lvm_snapshot_merge`. -/
def lvmSnapshotMerge (vgName snapshotName : CStr) : Ret × List CStr :=
  rootCommand env (oneText mergeLead (volumePath vgName snapshotName))

end Functions

/-! ## The calls -/

/-- The calls; `list` is `raid_create` or `lvm_vg_create`. -/
inductive VolumeCall
  | list (c : ListCall)
  | addDisk (arrayName device : CStr)
  | failDisk (arrayName device : CStr)
  | removeDisk (arrayName device : CStr)
  | stop (arrayName : CStr)
  | pvCreate (device : CStr)
  | pvRemove (pvName : CStr)
  | vgExtend (vgName pv : CStr)
  | vgRemove (vgName : CStr)
  | lvCreate (vgName lvName : CStr) (sizeMb : ℕ)
  | lvExtend (vgName lvName : CStr) (addSizeMb : ℕ)
  | lvRemove (vgName lvName : CStr)
  | snapshotCreate (vgName originLv snapshotName : CStr) (sizeMb : ℕ)
  | snapshotMerge (vgName snapshotName : CStr)

/-- The tool for arrays. -/
def mdadmWord : CStr := ['m', 'd', 'a', 'd', 'm']

/-- The command of `mdadm` that wipes a superblock. -/
def zeroWord : CStr :=
  ['-', '-', 'z', 'e', 'r', 'o', '-', 's', 'u', 'p', 'e', 'r', 'b', 'l', 'o', 'c', 'k']

/-- The tool for new volumes and snapshots. -/
def lvcreateWord : CStr := ['l', 'v', 'c', 'r', 'e', 'a', 't', 'e']

/-- The first option of the listing. -/
def noheadingsWord : CStr := "--noheadings".toList

/-- The words of the listing. -/
def pvsWords : List CStr :=
  [['p', 'v', 's'], noheadingsWord, "--units".toList, ['b'], "--nosuffix".toList, ['-', 'o'],
    "pv_name,pv_size,pv_free,vg_name".toList]

namespace VolumeCall

/-- What the call returns and the commands it runs. -/
def run {β : Type*} (env : FsEnv β) : VolumeCall → Ret × List CStr
  | list c => c.run env
  | addDisk arrayName device => raidAddDisk env arrayName device
  | failDisk arrayName device => raidFailDisk env arrayName device
  | removeDisk arrayName device => raidRemoveDisk env arrayName device
  | stop arrayName => raidStop env arrayName
  | pvCreate device => lvmPvCreate env device
  | pvRemove pvName => Storage.pvRemove env pvName
  | vgExtend vgName pv => lvmVgExtend env vgName pv
  | vgRemove vgName => lvmVgRemove env vgName
  | lvCreate vgName lvName sizeMb => lvmLvCreate env vgName lvName sizeMb
  | lvExtend vgName lvName addSizeMb => lvmLvExtend env vgName lvName addSizeMb
  | lvRemove vgName lvName => lvmLvRemove env vgName lvName
  | snapshotCreate vgName originLv snapshotName sizeMb =>
      lvmSnapshotCreate env vgName originLv snapshotName sizeMb
  | snapshotMerge vgName snapshotName => lvmSnapshotMerge env vgName snapshotName

/-- The last command, before it is cut. -/
def text : VolumeCall → CStr
  | list c => c.text
  | addDisk arrayName device => pairText addLead arrayName device
  | failDisk arrayName device => pairText failLead arrayName device
  | removeDisk arrayName device => pairText removeDiskLead arrayName device
  | stop arrayName => oneText stopLead arrayName
  | pvCreate device => oneText pvCreateLead device
  | pvRemove pvName => pvremoveText pvName
  | vgExtend vgName pv => pairText vgExtendLead vgName pv
  | vgRemove vgName => oneText vgRemoveLead vgName
  | lvCreate vgName lvName sizeMb => lvText vgName lvName sizeMb
  | lvExtend vgName lvName addSizeMb => lvExtendText vgName lvName addSizeMb
  | lvRemove vgName lvName => oneText lvRemoveLead (volumePath vgName lvName)
  | snapshotCreate vgName originLv snapshotName sizeMb =>
      snapshotText vgName originLv snapshotName sizeMb
  | snapshotMerge vgName snapshotName => oneText mergeLead (volumePath vgName snapshotName)

/-- The words the format string has in mind. -/
def words : VolumeCall → List CStr
  | list c => c.pieces.map (·.word)
  | addDisk arrayName device => [mdadmWord, ['-', '-', 'a', 'd', 'd'], arrayName, device]
  | failDisk arrayName device => [mdadmWord, ['-', '-', 'f', 'a', 'i', 'l'], arrayName, device]
  | removeDisk arrayName device =>
      [mdadmWord, ['-', '-', 'r', 'e', 'm', 'o', 'v', 'e'], arrayName, device]
  | stop arrayName => [mdadmWord, ['-', '-', 's', 't', 'o', 'p'], arrayName]
  | pvCreate device => [['p', 'v', 'c', 'r', 'e', 'a', 't', 'e'], device]
  | pvRemove pvName => [['p', 'v', 'r', 'e', 'm', 'o', 'v', 'e'], ['-', 'f'], pvName]
  | vgExtend vgName pv => [['v', 'g', 'e', 'x', 't', 'e', 'n', 'd'], vgName, pv]
  | vgRemove vgName => [['v', 'g', 'r', 'e', 'm', 'o', 'v', 'e'], ['-', 'f'], vgName]
  | lvCreate vgName lvName sizeMb =>
      [lvcreateWord, ['-', 'L'], decimal sizeMb ++ ['M'], ['-', 'n'], lvName, vgName]
  | lvExtend vgName lvName addSizeMb =>
      [['l', 'v', 'e', 'x', 't', 'e', 'n', 'd'], ['-', 'L'], '+' :: (decimal addSizeMb ++ ['M']),
        volumePath vgName lvName]
  | lvRemove vgName lvName =>
      [['l', 'v', 'r', 'e', 'm', 'o', 'v', 'e'], ['-', 'f'], volumePath vgName lvName]
  | snapshotCreate vgName originLv snapshotName sizeMb =>
      [lvcreateWord, ['-', 'L'], decimal sizeMb ++ ['M'], ['-', 's'], ['-', 'n'], snapshotName,
        volumePath vgName originLv]
  | snapshotMerge vgName snapshotName =>
      [['l', 'v', 'c', 'o', 'n', 'v', 'e', 'r', 't'], ['-', '-', 'm', 'e', 'r', 'g', 'e'],
        volumePath vgName snapshotName]

/-- The devices whose superblocks are wiped first. -/
def wiped : VolumeCall → List CStr
  | list (.raid _ _ devices) => devices
  | addDisk _ device => [device]
  | _ => []

/-- The strings it is given. -/
def strings : VolumeCall → List CStr
  | list c => c.target :: c.items
  | addDisk a b | failDisk a b | removeDisk a b | vgExtend a b => [a, b]
  | stop a | pvCreate a | pvRemove a | vgRemove a => [a]
  | lvCreate a b _ | lvExtend a b _ | lvRemove a b | snapshotMerge a b => [a, b]
  | snapshotCreate a b c _ => [a, b, c]

lemma words_ne_nil (c : VolumeCall) : c.words ≠ [] := by
  cases c with
  | list l => cases l <;> exact List.cons_ne_nil _ _
  | _ => exact List.cons_ne_nil _ _

lemma wiped_subset_strings (c : VolumeCall) : c.wiped ⊆ c.strings := by
  cases c with
  | list l => cases l <;> simp [wiped, strings, ListCall.items]
  | _ => simp [wiped, strings]

/-- A call with strings that stand for themselves, and commands that fit. -/
structure Plain (c : VolumeCall) : Prop where
  fits : c.text.length < maxCommand
  zero_fits : ∀ d ∈ c.wiped, (zeroText d).length < maxCommand
  strings : ∀ w ∈ c.strings, BareWord w

end VolumeCall

/-! ## The system -/

/-- The tools: what one does and prints when it is run with these words, and what it should do to
the picture of the system.  A line that the shell does not take for a simple command may do
anything.  Neither a wiped superblock nor a listing is seen in the picture. -/
structure VolumeTools (σ α : Type*) where
  fileExists : σ → CStr → Bool
  tool : List CStr → σ → Option σ
  output : List CStr → σ → CStr
  wild : σ → CStr → σ × CommandRun
  view : σ → α
  spec : List CStr → α → Option α
  tool_spec : ∀ {ws s s'}, tool ws s = some s' → spec ws (view s) = some (view s')
  zero_view : ∀ {d s s'}, tool [mdadmWord, zeroWord, d] s = some s' → view s' = view s
  pvs_view : ∀ {s s'}, tool pvsWords s = some s' → view s' = view s

/-- Who makes a call, which commands can be started, and whether the tools can do their work. -/
structure Operator where
  root : Bool
  started : CStr → Bool
  works : Bool

/-- The redirection at the end of the command that wipes a superblock. -/
def toNull : CStr := " 2>/dev/null".toList

/-- The words of a line, with or without a redirection at its end. -/
def readLine (cmd : CStr) : Option (List CStr) :=
  if toNull <:+ cmd then Shell.words (cmd.take (cmd.length - toNull.length))
  else (parse cmd).map Prod.fst

namespace VolumeTools

variable {σ α : Type*} (t : VolumeTools σ α) (k : Operator)

/-- A tool with its words, started by the shell. -/
def perform (s : σ) (ws : List CStr) : σ × Option CommandRun :=
  match if k.works then t.tool ws s else none with
  | some s' => (s', some ⟨t.output ws s, .exited 0⟩)
  | none => (s, some ⟨t.output ws s, .exited 1⟩)

/-- The shell with a command line. -/
def shell (s : σ) (cmd : CStr) : σ × Option CommandRun :=
  if k.started cmd then
    match readLine cmd with
    | some ws => t.perform k s ws
    | none => ((t.wild s cmd).1, some (t.wild s cmd).2)
  else (s, none)

/-- What a call meets. -/
def env (s : σ) : FsEnv Unit where
  isRoot := k.root
  fileExists := t.fileExists s
  procMounts := true
  mounts := []
  dev := fun _ => none
  popen := fun cmd => (t.shell k s cmd).2

/-- The commands one after the other. -/
def runAll (s : σ) (cmds : List CStr) : σ := cmds.foldl (fun s cmd => (t.shell k s cmd).1) s

/-- A call: the system after it and the code it returns.  All checks of files are made before the
first command.  The first command finds the system as the call does and the last one as the others
have left it; no other result is looked at. -/
def call (s : σ) (c : VolumeCall) : σ × Ret :=
  let cmds := (c.run (t.env k s)).2
  let before := t.runAll k s cmds.dropLast
  let popen := fun cmd =>
    if cmds.getLast? = some cmd then (t.env k before).popen cmd else (t.env k s).popen cmd
  (t.runAll k s cmds, (c.run { t.env k s with popen := popen }).1)

end VolumeTools

/-! ## The command lines -/

section CommandLines

lemma addLead_eq : addLead = mdadmWord ++ ' ' :: ['-', '-', 'a', 'd', 'd', ' '] :=
  String.toList_ofList

lemma failLead_eq : failLead = mdadmWord ++ ' ' :: ['-', '-', 'f', 'a', 'i', 'l', ' '] :=
  String.toList_ofList

lemma removeDiskLead_eq : removeDiskLead =
    mdadmWord ++ ' ' :: ['-', '-', 'r', 'e', 'm', 'o', 'v', 'e', ' '] := String.toList_ofList

lemma stopLead_eq : stopLead = mdadmWord ++ ' ' :: ['-', '-', 's', 't', 'o', 'p', ' '] :=
  String.toList_ofList

lemma pvCreateLead_eq : pvCreateLead = ['p', 'v', 'c', 'r', 'e', 'a', 't', 'e', ' '] :=
  String.toList_ofList

lemma vgExtendLead_eq : vgExtendLead = ['v', 'g', 'e', 'x', 't', 'e', 'n', 'd', ' '] :=
  String.toList_ofList

lemma vgRemoveLead_eq : vgRemoveLead =
    ['v', 'g', 'r', 'e', 'm', 'o', 'v', 'e', ' ', '-', 'f', ' '] := String.toList_ofList

lemma lvExtendLead_eq : lvExtendLead =
    ['l', 'v', 'e', 'x', 't', 'e', 'n', 'd', ' ', '-', 'L', ' ', '+'] := String.toList_ofList

lemma lvRemoveLead_eq : lvRemoveLead =
    ['l', 'v', 'r', 'e', 'm', 'o', 'v', 'e', ' ', '-', 'f', ' '] := String.toList_ofList

lemma snapshotLead_eq : snapshotLead = lvcreateWord ++ [' ', '-', 'L', ' '] :=
  String.toList_ofList

lemma snapshotNameLead_eq : snapshotNameLead = ['M', ' ', '-', 's', ' ', '-', 'n', ' '] :=
  String.toList_ofList

lemma mergeLead_eq : mergeLead = ['l', 'v', 'c', 'o', 'n', 'v', 'e', 'r', 't', ' ',
    '-', '-', 'm', 'e', 'r', 'g', 'e', ' '] := String.toList_ofList

lemma lvText_eq_line (vgName lvName : CStr) (sizeMb : ℕ) :
    lvText vgName lvName sizeMb =
      line ((VolumeCall.lvCreate vgName lvName sizeMb).words.map Piece.bare) ++ errToOut := by
  -- the same for any fixed words, so that the literals stay closed
  have hwords : ∀ a b m n : CStr, (a ++ ' ' :: (b ++ [' '])) ++ (decimal sizeMb ++
      ((m ++ ' ' :: (n ++ [' '])) ++ (lvName ++ (' ' :: (vgName ++ errToOut))))) =
      line ([a, b, decimal sizeMb ++ m, n, lvName, vgName].map Piece.bare) ++ errToOut := by
    intro a b m n
    simp [line, lineTail, Piece.text]
  exact hwords lvcreateWord ['-', 'L'] ['M'] ['-', 'n']

lemma ListCall.bare_word (c : ListCall) : ∀ p ∈ c.pieces, Piece.bare p.word = p := by
  cases c with
  | raid arrayName level devices =>
      simp only [pieces, raidPieces, List.forall_mem_cons, List.forall_mem_append,
        List.forall_mem_map]
      exact ⟨rfl, rfl, rfl, rfl, rfl, fun _ _ => rfl, rfl, rfl, by simp⟩
  | vg vgName pvs =>
      simp only [pieces, vgPieces, List.forall_mem_cons, List.forall_mem_map]
      exact ⟨rfl, rfl, fun _ _ => rfl⟩

lemma ListCall.map_bare_word (c : ListCall) :
    (c.pieces.map (·.word)).map Piece.bare = c.pieces := by
  rw [List.map_map]
  exact (List.map_congr_left c.bare_word).trans (List.map_id _)

/-- The text, word by word. -/
lemma VolumeCall.text_eq_line (c : VolumeCall) (h : ∀ l, c = list l → l.items ≠ []) :
    c.text = line (c.words.map Piece.bare) ++ errToOut := by
  cases c with
  | list l => rw [text, words, l.map_bare_word, Storage.text_eq_line l (h l rfl)]
  | addDisk => simp [text, words, pairText, addLead_eq, line, lineTail, Piece.text]
  | failDisk => simp [text, words, pairText, failLead_eq, line, lineTail, Piece.text]
  | removeDisk => simp [text, words, pairText, removeDiskLead_eq, line, lineTail, Piece.text]
  | stop => simp [text, words, oneText, stopLead_eq, line, lineTail, Piece.text]
  | pvCreate => simp [text, words, oneText, pvCreateLead_eq, line, lineTail, Piece.text]
  | pvRemove pvName => exact pvremoveText_eq_line pvName
  | vgExtend => simp [text, words, pairText, vgExtendLead_eq, line, lineTail, Piece.text]
  | vgRemove => simp [text, words, oneText, vgRemoveLead_eq, line, lineTail, Piece.text]
  | lvCreate vgName lvName sizeMb => exact lvText_eq_line vgName lvName sizeMb
  | lvExtend => simp [text, words, lvExtendText, lvExtendLead_eq, line, lineTail, Piece.text]
  | lvRemove => simp [text, words, oneText, lvRemoveLead_eq, line, lineTail, Piece.text]
  | snapshotCreate =>
      simp [text, words, snapshotText, snapshotLead_eq, snapshotNameLead_eq, line, lineTail,
        Piece.text]
  | snapshotMerge => simp [text, words, oneText, mergeLead_eq, line, lineTail, Piece.text]

lemma toNull_eq : toNull = [' ', '2', '>', '/', 'd', 'e', 'v', '/', 'n', 'u', 'l', 'l'] :=
  String.toList_ofList

/-- A line that ends in one redirection does not end in the other. -/
lemma not_toNull_suffix (s : CStr) : ¬ toNull <:+ s ++ errToOut := by
  rintro ⟨r, hr⟩
  have hlast := congrArg List.getLast? hr
  simp [toNull_eq, errToOut_eq] at hlast

lemma readLine_errToOut {ws : List CStr} (hne : ws ≠ []) (hws : ∀ w ∈ ws, BareWord w)
    (hlen : (line (ws.map Piece.bare) ++ errToOut).length < maxCommand) :
    readLine (fit maxCommand (line (ws.map Piece.bare) ++ errToOut)) = some ws := by
  have hparse := parse_fit_bare hne hws hlen
  rw [fit_of_lt hlen] at hparse ⊢
  rw [readLine, if_neg (not_toNull_suffix _), hparse, Option.map_some]

lemma readLine_zeroText {d : CStr} (hd : BareWord d) (hlen : (zeroText d).length < maxCommand) :
    readLine (fit maxCommand (zeroText d)) = some [mdadmWord, zeroWord, d] := by
  have hline : zeroText d = line ([mdadmWord, zeroWord, d].map Piece.bare) ++ toNull :=
    line_of_two mdadmWord zeroWord d toNull
  have hok : ∀ p ∈ [mdadmWord, zeroWord, d].map Piece.bare, p.Ok := by
    have hfixed : (Piece.bare mdadmWord).Ok ∧ (Piece.bare zeroWord).Ok := by decide
    simp only [List.map_cons, List.map_nil, List.forall_mem_cons]
    exact ⟨hfixed.1, hfixed.2, hd, by simp⟩
  rw [fit_of_lt hlen, hline, readLine, if_pos (List.suffix_append _ _), List.length_append,
    Nat.add_sub_cancel, List.take_left, words_line hok]
  rfl

instance (w : CStr) : Decidable (BareWord w) :=
  inferInstanceAs (Decidable (w ≠ [] ∧ BareStart w))

lemma readLine_pvsText : readLine (fit maxCommand pvsText) = some pvsWords := by
  have hline : pvsText = line (pvsWords.map Piece.bare) ++ errToOut := by decide +kernel
  rw [hline]
  exact readLine_errToOut (List.cons_ne_nil _ _) (by decide +kernel) (by decide +kernel)

lemma bareWord_volumePath {a b : CStr} (ha : BareWord a) (hb : BareWord b) :
    BareWord (volumePath a b) := by
  have hdev : BareWord ['/', 'd', 'e', 'v', '/'] := by decide
  have hslash : isBare '/' = true := by decide
  refine ⟨by simp [volumePath], ?_, hdev.2.2⟩
  have hrest := List.forall_mem_append.mpr ⟨ha.2.1, List.forall_mem_cons.mpr ⟨hslash, hb.2.1⟩⟩
  exact List.forall_mem_append.mpr ⟨hdev.2.1, hrest⟩

/-- A size with a letter behind it. -/
lemma bareWord_size (lead : CStr) (hlead : BareStart lead) (n : ℕ) :
    BareWord (lead ++ (decimal n ++ ['M'])) := by
  have hdigits : ∀ d ∈ decimal n, isBare d = true := fun _ => isBare_of_mem_decimal
  have hM : isBare 'M' = true := by decide
  refine ⟨by simp, ?_, ?_⟩
  · simp only [List.forall_mem_append, List.forall_mem_singleton]
    exact ⟨hlead.1, hdigits, hM⟩
  · cases lead with
    | cons c lead => exact hlead.2
    | nil =>
        obtain ⟨c, rest, hrest⟩ := List.exists_cons_of_ne_nil (decimal_ne_nil n)
        have hdigit : c.isDigit = true := isDigit_of_mem_decimal (by rw [hrest]; simp)
        intro d hd
        rw [hrest] at hd
        obtain rfl : c = d := by simpa using hd
        simp only [isLeading, Bool.or_eq_false_iff, beq_eq_false_iff_ne]
        constructor <;>
          · rintro rfl
            exact absurd hdigit (by decide)

/-- If the strings stand for themselves, all words do. -/
lemma VolumeCall.bareWord_words {c : VolumeCall} (h : ∀ w ∈ c.strings, BareWord w)
    (hlist : ∀ l, c = list l → ∀ p ∈ l.pieces, p.Ok) : ∀ w ∈ c.words, BareWord w := by
  have hsize : ∀ n, BareWord (decimal n ++ ['M']) := bareWord_size [] (by decide)
  have hplus : ∀ n, BareWord ('+' :: (decimal n ++ ['M'])) := bareWord_size ['+'] (by decide)
  cases c with
  | list l =>
      refine List.forall_mem_map.mpr fun p hp => ?_
      have hok := hlist l rfl p hp
      rwa [← l.bare_word p hp] at hok
  | addDisk | failDisk | removeDisk =>
      simp only [strings, List.forall_mem_cons] at h
      simp only [words, List.forall_mem_cons]
      exact ⟨by decide, by decide, h.1, h.2.1, by simp⟩
  | stop | pvRemove | vgRemove =>
      simp only [strings, List.forall_mem_cons] at h
      simp only [words, List.forall_mem_cons]
      exact ⟨by decide, by decide, h.1, by simp⟩
  | pvCreate =>
      simp only [strings, List.forall_mem_cons] at h
      simp only [words, List.forall_mem_cons]
      exact ⟨by decide, h.1, by simp⟩
  | vgExtend =>
      simp only [strings, List.forall_mem_cons] at h
      simp only [words, List.forall_mem_cons]
      exact ⟨by decide, h.1, h.2.1, by simp⟩
  | lvCreate =>
      simp only [strings, List.forall_mem_cons] at h
      simp only [words, List.forall_mem_cons]
      exact ⟨by decide, by decide, hsize _, by decide, h.2.1, h.1, by simp⟩
  | lvExtend =>
      simp only [strings, List.forall_mem_cons] at h
      simp only [words, List.forall_mem_cons]
      exact ⟨by decide, by decide, hplus _, bareWord_volumePath h.1 h.2.1, by simp⟩
  | lvRemove | snapshotMerge =>
      simp only [strings, List.forall_mem_cons] at h
      simp only [words, List.forall_mem_cons]
      exact ⟨by decide, by decide, bareWord_volumePath h.1 h.2.1, by simp⟩
  | snapshotCreate =>
      simp only [strings, List.forall_mem_cons] at h
      simp only [words, List.forall_mem_cons]
      exact ⟨by decide, by decide, hsize _, by decide, by decide, h.2.2.1,
        bareWord_volumePath h.1 h.2.1, by simp⟩

end CommandLines

/-! ## One call -/

section Cases

variable {β : Type*} (env : FsEnv β)

/-- The call fails before anything is run, whatever a command would come to. -/
def VolumeCall.Refused (c : VolumeCall) : Prop :=
  ∀ popen, (c.run { env with popen := popen }).1 ≠ .success ∧
    (c.run { env with popen := popen }).2 = []

/-- The call wipes its superblocks and then runs its tool. -/
def VolumeCall.Performed (c : VolumeCall) : Prop :=
  ∀ popen, c.run { env with popen := popen } =
    ((executeCommand (popen (fit maxCommand c.text)) maxOutput).1,
      (c.wiped.map fun d => fit maxCommand (zeroText d)) ++ [fit maxCommand c.text])

lemma rootCommand_cases (text : CStr) :
    (∀ popen, (rootCommand { env with popen := popen } text).1 ≠ .success ∧
      (rootCommand { env with popen := popen } text).2 = []) ∨
    ∀ popen, rootCommand { env with popen := popen } text =
      ((executeCommand (popen (fit maxCommand text)) maxOutput).1, [fit maxCommand text]) := by
  cases env.isRoot with
  | false =>
      left
      intro popen
      simp [rootCommand]
  | true =>
      right
      intro popen
      simp [rootCommand]

/-- A call of `raid_create` or `lvm_vg_create` that is let through. -/
lemma performed_of_accepted {l : ListCall} (h : l.Accepted env) :
    (VolumeCall.list l).Performed env := by
  intro popen
  cases l with
  | raid arrayName level devices =>
      exact raidCreate_of_found { env with popen := popen } h.1 h.2 arrayName
  | vg vgName pvs =>
      exact lvmVgCreate_of_root { env with popen := popen } h.1 h.2 vgName

/-- Every call that does not look at a listing either fails its checks or gets to its tool, and then
its text is the one that is meant. -/
lemma VolumeCall.run_cases (c : VolumeCall) (hblind : ∀ pvName, c ≠ pvRemove pvName) :
    c.Refused env ∨ c.Performed env ∧ ∀ l, c = list l → l.items ≠ [] ∧
      ((∀ w ∈ l.target :: l.items, BareWord w) → ∀ p ∈ l.pieces, p.Ok) := by
  cases c with
  | list l =>
      by_cases h : l.Accepted env
      · refine .inr ⟨performed_of_accepted env h, ?_⟩
        rintro _ ⟨rfl⟩
        exact ⟨items_ne_nil h, (pieces_ok_iff h).mpr⟩
      · exact .inl fun popen => run_of_not_accepted h
  | addDisk arrayName device =>
      by_cases h : env.isRoot = true ∧ env.fileExists arrayName = true ∧
          env.fileExists device = true
      · exact .inr ⟨fun popen => by simp [run, raidAddDisk, h, text, wiped], by simp⟩
      · left
        intro popen
        simp only [run, raidAddDisk]
        split_ifs with h1 h2 h3 <;> simp_all
  | pvCreate device =>
      by_cases h : env.isRoot = true ∧ env.fileExists device = true
      · exact .inr ⟨fun popen => by simp [run, lvmPvCreate, h, text, wiped], by simp⟩
      · left
        intro popen
        simp only [run, lvmPvCreate]
        split_ifs with h1 h2 <;> simp_all
  | pvRemove pvName => exact absurd rfl (hblind pvName)
  | lvCreate vgName lvName sizeMb =>
      by_cases h : env.isRoot = true ∧ sizeMb ≠ 0
      · exact .inr ⟨fun popen => by simp [run, lvmLvCreate, h, text, wiped], by simp⟩
      · left
        intro popen
        simp only [run, lvmLvCreate]
        split_ifs with h1 h2 <;> simp_all
  | failDisk | removeDisk | stop | vgExtend | vgRemove | lvExtend | lvRemove | snapshotCreate
  | snapshotMerge =>
      exact (rootCommand_cases env _).imp_right fun h => ⟨h, by simp⟩

end Cases

section Calls

variable {σ α : Type*} {t : VolumeTools σ α} {k : Operator} {s : σ} {c : VolumeCall}

/-- A line that is read as these words: the tool does its work and the command succeeds, or nothing
happens and it does not. -/
lemma shell_cases {cmd : CStr} {ws : List CStr} (h : readLine cmd = some ws) (s : σ) :
    (t.tool ws s = some (t.shell k s cmd).1 ∧
      (executeCommand (t.shell k s cmd).2 maxOutput).1 = .success) ∨
    (t.shell k s cmd).1 = s ∧ (executeCommand (t.shell k s cmd).2 maxOutput).1 ≠ .success := by
  cases hstarted : k.started cmd with
  | false => simp [VolumeTools.shell, hstarted, executeCommand]
  | true =>
      cases hdone : if k.works then t.tool ws s else none with
      | none => simp [VolumeTools.shell, hstarted, h, VolumeTools.perform, hdone, executeCommand]
      | some s' =>
          obtain ⟨hworks, htool⟩ := Option.ite_none_right_eq_some.mp hdone
          left
          simp [VolumeTools.shell, hstarted, h, VolumeTools.perform, hworks, htool, executeCommand]

/-- A command whose work is not seen in the picture. -/
lemma view_shell {cmd : CStr} {ws : List CStr} (h : readLine cmd = some ws)
    (hws : ∀ {s s'}, t.tool ws s = some s' → t.view s' = t.view s) (s : σ) :
    t.view (t.shell k s cmd).1 = t.view s := by
  rcases shell_cases (t := t) (k := k) h s with hdone | hnone
  · exact hws hdone.1
  · rw [hnone.1]

/-- Wiping superblocks is not seen in the picture. -/
lemma view_zeros {ds : List CStr} (hds : ∀ d ∈ ds, BareWord d)
    (hfits : ∀ d ∈ ds, (zeroText d).length < maxCommand) (s : σ) :
    t.view (t.runAll k s (ds.map fun d => fit maxCommand (zeroText d))) = t.view s := by
  induction ds generalizing s with
  | nil => rfl
  | cons d ds ih =>
      obtain ⟨hd, hds⟩ := List.forall_mem_cons.mp hds
      obtain ⟨hfit, hfits⟩ := List.forall_mem_cons.mp hfits
      exact (ih hds hfits _).trans (view_shell (readLine_zeroText hd hfit) t.zero_view s)

lemma call_of_refused (h : c.Refused (t.env k s)) :
    (t.call k s c).1 = s ∧ (t.call k s c).2 ≠ .success := by
  have hcmds : (c.run (t.env k s)).2 = [] := (h (t.env k s).popen).2
  simp only [VolumeTools.call, hcmds]
  exact ⟨rfl, (h _).1⟩

/-- The last command of a call, run in a system that is seen as it was. -/
def Reaches (t : VolumeTools σ α) (k : Operator) (s : σ) (c : VolumeCall) : Prop :=
  ∃ before, t.view before = t.view s ∧
    t.call k s c = ((t.shell k before (fit maxCommand c.text)).1,
      (executeCommand (t.shell k before (fit maxCommand c.text)).2 maxOutput).1)

lemma reaches_of_performed (hplain : c.Plain) (h : c.Performed (t.env k s)) :
    Reaches t k s c := by
  have hzeros : ∀ d ∈ c.wiped, BareWord d := fun d hd =>
    hplain.strings d (c.wiped_subset_strings hd)
  refine ⟨_, view_zeros (k := k) hzeros hplain.zero_fits s, ?_⟩
  have hcmds := congrArg Prod.snd (h (t.env k s).popen)
  have hcode := fun popen => congrArg Prod.fst (h popen)
  simp only [VolumeTools.call]
  rw [hcode]
  change ((t.runAll k s (c.run (t.env k s)).2, _) : σ × Ret) = _
  rw [show (c.run (t.env k s)).2 = _ from hcmds]
  simp [VolumeTools.runAll, VolumeTools.env]

/-- The text of a call is read as its words. -/
lemma VolumeCall.Plain.readLine_text (hplain : c.Plain)
    (hlist : ∀ l, c = .list l → l.items ≠ [] ∧
      ((∀ w ∈ l.target :: l.items, BareWord w) → ∀ p ∈ l.pieces, p.Ok)) :
    readLine (fit maxCommand c.text) = some c.words := by
  have hline := c.text_eq_line fun l hl => (hlist l hl).1
  have hwords : ∀ w ∈ c.words, BareWord w := by
    refine VolumeCall.bareWord_words hplain.strings ?_
    rintro l rfl
    exact (hlist l rfl).2 hplain.strings
  have hfits := hplain.fits
  rw [hline] at hfits ⊢
  exact readLine_errToOut c.words_ne_nil hwords hfits

/-- `lvm_pv_remove` takes a listing, and then fails or goes on to its tool. -/
lemma call_pvRemove_cases {pvName : CStr} (hplain : (VolumeCall.pvRemove pvName).Plain) :
    (t.view (t.call k s (.pvRemove pvName)).1 = t.view s ∧
      (t.call k s (.pvRemove pvName)).2 ≠ .success) ∨ Reaches t k s (.pvRemove pvName) := by
  have hview : t.view (t.shell k s (fit maxCommand pvsText)).1 = t.view s :=
    view_shell readLine_pvsText t.pvs_view s
  -- the two commands are not the same, so each of them has its own result
  have hne : fit maxCommand (pvremoveText pvName) ≠ fit maxCommand pvsText := by
    intro heq
    have hremove := hplain.readLine_text (by simp)
    rw [VolumeCall.text, heq, readLine_pvsText] at hremove
    simp [pvsWords, VolumeCall.words] at hremove
  cases hroot : k.root with
  | false =>
      left
      simp [VolumeTools.call, VolumeCall.run, pvRemove, lvmPvRemove, VolumeTools.env, hroot,
        VolumeTools.runAll]
  | true =>
      by_cases hused : (lvmPvInfo (t.shell k s (fit maxCommand pvsText)).2 pvName).1 = .success ∧
        ((lvmPvInfo (t.shell k s (fit maxCommand pvsText)).2 pvName).2.map
          (·.isAllocated)).getD false = true
      · left
        simp [VolumeTools.call, VolumeCall.run, pvRemove, lvmPvRemove, VolumeTools.env, hroot,
          VolumeTools.runAll, hused, hview]
      · right
        refine ⟨_, hview, ?_⟩
        simp [VolumeTools.call, VolumeCall.run, pvRemove, lvmPvRemove, VolumeTools.env, hroot,
          VolumeTools.runAll, hused, hne, VolumeCall.text]

/-- A call with plain strings: its tool has done its work and it returns success, or the picture is
what it was and it does not. -/
lemma call_cases (hplain : c.Plain) :
    (t.spec c.words (t.view s) = some (t.view (t.call k s c).1) ∧
      (t.call k s c).2 = .success) ∨
    t.view (t.call k s c).1 = t.view s ∧ (t.call k s c).2 ≠ .success := by
  have hreaches : (t.view (t.call k s c).1 = t.view s ∧ (t.call k s c).2 ≠ .success) ∨
      Reaches t k s c ∧ readLine (fit maxCommand c.text) = some c.words := by
    by_cases hremove : ∃ pvName, c = .pvRemove pvName
    · obtain ⟨pvName, rfl⟩ := hremove
      exact (call_pvRemove_cases hplain).imp_right fun h => ⟨h, hplain.readLine_text (by simp)⟩
    · rcases c.run_cases (t.env k s) (not_exists.mp hremove) with hrefused | ⟨hperformed, hlist⟩
      · obtain ⟨hstate, hcode⟩ := call_of_refused hrefused
        exact .inl ⟨by rw [hstate], hcode⟩
      · exact .inr ⟨reaches_of_performed hplain hperformed, hplain.readLine_text hlist⟩
  rcases hreaches with hfailed | ⟨⟨before, hview, hcall⟩, hread⟩
  · exact .inr hfailed
  · rw [hcall, ← hview]
    rcases shell_cases (t := t) (k := k) hread before with hdone | hnone
    · exact .inl ⟨t.tool_spec hdone.1, hdone.2⟩
    · exact .inr ⟨congrArg t.view hnone.1, hnone.2⟩

end Calls

/-! ## Runs -/

section Runs

variable {σ α : Type*} (t : VolumeTools σ α)

/-- The calls one after the other, and the codes they return. -/
def VolumeTools.run : σ → List (Operator × VolumeCall) → σ × List Ret :=
  Told.run fun s kc => t.call kc.1 s kc.2

/-- The picture as the codes tell it. -/
def VolumeTools.told : α → List ((Operator × VolumeCall) × Ret) → Option α :=
  Told.told (fun code => decide (code = .success)) fun kc a => t.spec kc.2.words a

lemma call_honest {kc : Operator × VolumeCall} (h : kc.2.Plain) :
    Told.Honest (fun s kc => t.call kc.1 s kc.2) (fun code => decide (code = .success))
      (fun kc a => t.spec kc.2.words a) t.view (fun _ => True) (fun _ _ => True) kc where
  keeps _ _ _ := trivial
  success s _ _ hcode := by
    rcases call_cases (t := t) (k := kc.1) (s := s) h with hdone | hnone
    · exact hdone.1
    · exact absurd (of_decide_eq_true hcode) hnone.2
  failure s _ _ hcode := by
    rcases call_cases (t := t) (k := kc.1) (s := s) h with hdone | hnone
    · exact absurd hdone.2 (of_decide_eq_false hcode)
    · exact hnone.1

/-- **The codes tell what there is.**  After any run of calls, made by anyone and whichever of the
commands can be started or do their work, the arrays, groups and volumes are those that the calls
which returned success have made, extended or removed, in that order and with the strings they were
given; every other call has left them alone. -/
theorem volume_runs_told (s : σ) (calls : List (Operator × VolumeCall))
    (hplain : ∀ kc ∈ calls, kc.2.Plain) :
    t.told (t.view s) (calls.zip (t.run s calls).2) = some (t.view (t.run s calls).1) :=
  (Told.told_run (fun kc hkc => call_honest t (hplain kc hkc)) trivial fun _ _ => trivial).2

end Runs

/-- Tools that write down what they are run with; no array has room for another disk, and the
listing has the volume of the group. -/
def journal : VolumeTools (List (List CStr)) (List (List CStr)) where
  fileExists _ _ := true
  tool ws s := if ws[1]? = some ['-', '-', 'a', 'd', 'd'] then none else some (s ++ [ws])
  output _ s := if s.any fun ws => ws.head? = some "vgextend".toList then
    "  /dev/sdb 4096 0 data\n".toList else []
  wild s _ := (s, ⟨[], .exited 127⟩)
  view s := s.filter fun ws => ws[1]? ≠ some zeroWord ∧ ws[1]? ≠ some noheadingsWord
  spec ws a := some
    (a ++ [ws].filter fun ws => ws[1]? ≠ some zeroWord ∧ ws[1]? ≠ some noheadingsWord)
  tool_spec {ws s s'} h := by
    obtain ⟨-, h⟩ := Option.ite_none_left_eq_some.mp h
    obtain rfl := Option.some.inj h
    rw [List.filter_append]
  zero_view {d s s'} h := by
    obtain ⟨-, h⟩ := Option.ite_none_left_eq_some.mp h
    obtain rfl := Option.some.inj h
    simp [List.filter_append]
  pvs_view {s s'} h := by
    obtain ⟨-, h⟩ := Option.ite_none_left_eq_some.mp h
    obtain rfl := Option.some.inj h
    simp [List.filter_append, pvsWords]

/-- A caller with all rights, whose commands start and work. -/
def superuser : Operator := ⟨true, fun _ => true, true⟩

/-- A new volume, a disk for an array that is full, the volume for a group, and that it should go;
another volume can. -/
def fullArrayCalls : List (Operator × VolumeCall) :=
  [(superuser, .pvCreate "/dev/sdb".toList),
    (superuser, .addDisk "/dev/md0".toList "/dev/sdc".toList),
    (superuser, .vgExtend "data".toList "/dev/sdb".toList),
    (superuser, .pvRemove "/dev/sdb".toList),
    (superuser, .pvRemove "/dev/sdd".toList)]

/-- The calls that fail have wiped a superblock and taken a listing, which the codes do not tell. -/
theorem volume_runs_told_full_array :
    (journal.run [] fullArrayCalls).2 =
        [.success, .errorSystemCall, .success, .errorGeneric, .success] ∧
      (journal.run [] fullArrayCalls).1 =
        [["pvcreate".toList, "/dev/sdb".toList], [mdadmWord, zeroWord, "/dev/sdc".toList],
          ["vgextend".toList, "data".toList, "/dev/sdb".toList], pvsWords, pvsWords,
          ["pvremove".toList, "-f".toList, "/dev/sdd".toList]] ∧
      journal.told (journal.view []) (fullArrayCalls.zip (journal.run [] fullArrayCalls).2) =
        some (journal.view (journal.run [] fullArrayCalls).1) := by
  have hrun : journal.run [] fullArrayCalls =
      ([["pvcreate".toList, "/dev/sdb".toList], [mdadmWord, zeroWord, "/dev/sdc".toList],
        ["vgextend".toList, "data".toList, "/dev/sdb".toList], pvsWords, pvsWords,
        ["pvremove".toList, "-f".toList, "/dev/sdd".toList]],
        [.success, .errorSystemCall, .success, .errorGeneric, .success]) := by
    decide +kernel
  refine ⟨congrArg Prod.snd hrun, congrArg Prod.fst hrun,
    volume_runs_told journal [] fullArrayCalls ?_⟩
  simp only [fullArrayCalls, List.forall_mem_cons]
  exact ⟨⟨by decide +kernel, by decide +kernel, by decide +kernel⟩,
    ⟨by decide +kernel, by decide +kernel, by decide +kernel⟩,
    ⟨by decide +kernel, by decide +kernel, by decide +kernel⟩,
    ⟨by decide +kernel, by decide +kernel, by decide +kernel⟩,
    ⟨by decide +kernel, by decide +kernel, by decide +kernel⟩, by simp⟩

end Storage

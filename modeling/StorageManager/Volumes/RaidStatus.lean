import StorageManager.Volumes.Filesystems
import Mathlib.Logic.Function.Iterate

/-!
# The state of an array

`raid_get_status` runs `mdadm --detail` and fills a `raid_array_t` from the lines it prints; a chain
of substring tests decides what a line is about.  `raid_monitor` does the same for the name that is
already in the structure, and hands down a pointer to it.

* `detailLine` — one turn of the loop; `detailLine_cases` is all it can do, `detailLine_number` and
  `detailLine_state` say what it does on a line of a known form.
* `raid_monitor_iff` — a pointer into the structure is read again after the structure is cleared,
  so a call that succeeds has lost the name.
-/

namespace Storage

open CString Shell

/-! ## `raid_array_t` -/

/-- The `RAID_STATUS_` strings that are used. -/
inductive RaidStatus
  | active
  | degraded
  | failed
  deriving DecidableEq, Repr

/-- `devices`: the entries before the first empty one. -/
structure DeviceTable where
  entries : List CStr
  length_le : entries.length ≤ 16
  ne_nil : ∀ d ∈ entries, d ≠ []
  length_lt : ∀ d ∈ entries, d.length < 256
  deriving DecidableEq

namespace DeviceTable

/-- `memset` of the table. -/
def empty : DeviceTable := ⟨[], by simp, by simp, by simp⟩

lemma length_append_le {t : DeviceTable} (h : t.entries.length < 16) (device : CStr) :
    (t.entries ++ [device]).length ≤ 16 := by
  rw [List.length_append, List.length_singleton]
  omega

lemma append_ne_nil (t : DeviceTable) {device : CStr} (h : device ≠ []) :
    ∀ d ∈ t.entries ++ [fit 256 device], d ≠ [] := by
  rw [List.forall_mem_append, List.forall_mem_singleton]
  exact ⟨t.ne_nil, by simp [fit, h]⟩

lemma append_length_lt (t : DeviceTable) (device : CStr) :
    ∀ d ∈ t.entries ++ [fit 256 device], d.length < 256 := by
  rw [List.forall_mem_append, List.forall_mem_singleton]
  exact ⟨t.length_lt, length_fit_lt (by decide) device⟩

/-- The two loops over the table: a path that is not there goes into the first empty entry. -/
def record (t : DeviceTable) (device : CStr) : DeviceTable :=
  if h : device ∉ t.entries ∧ t.entries.length < 16 ∧ device ≠ [] then
    { entries := t.entries ++ [fit 256 device]
      length_le := length_append_le h.2.1 _
      ne_nil := t.append_ne_nil h.2.2
      length_lt := t.append_length_lt device }
  else t

end DeviceTable

/-- `raid_array_t`.  A `status` that is empty is `none`. -/
structure RaidArray where
  name : {s : CStr // s.length < 64}
  raidLevel : ℤ
  numDevices : ℤ
  devices : DeviceTable
  status : Option RaidStatus
  numFailed : ℤ
  numActive : ℤ
  sizeKb : ℕ
  deriving DecidableEq

/-- `memset (array, 0, ..)`. -/
def RaidArray.zero : RaidArray := ⟨⟨[], by decide⟩, 0, 0, .empty, none, 0, 0, 0⟩

/-- `strncpy (array->name, s, 63)`. -/
def RaidArray.setName (a : RaidArray) (s : CStr) : RaidArray :=
  { a with name := ⟨fit 64 s, length_fit_lt (Nat.zero_lt_succ 63) s⟩ }

/-! ## The lines -/

/-- The lines with a number in them. -/
inductive DetailKey
  | raidLevel
  | raidDevices
  | failedDevices
  | activeDevices
  | arraySize
  deriving DecidableEq, Repr

namespace DetailKey

/-- The label without its colon. -/
def caption : DetailKey → CStr
  | raidLevel => "Raid Level ".toList
  | raidDevices => "Raid Devices ".toList
  | failedDevices => "Failed Devices ".toList
  | activeDevices => "Active Devices ".toList
  | arraySize => "Array Size ".toList

/-- What `strstr` looks for. -/
def label (k : DetailKey) : CStr := k.caption ++ [':']

/-- What stands between the label and the number. -/
def lead : DetailKey → CStr
  | raidLevel => " raid".toList
  | _ => [' ']

/-- The format of `sscanf` up to its conversion. -/
def format (k : DetailKey) : CStr := ' ' :: (k.label ++ k.lead)

/-- The conversion: `%llu` for the size, `%d` for the others. -/
def scanValue (k : DetailKey) (s : CStr) : Option ℤ :=
  match k with
  | arraySize => (scanUnsigned s).map fun p => p.1
  | _ => (scanSigned s).map fun p => p.1

/-- `sscanf` of a line. -/
def scan (k : DetailKey) (line : CStr) : Option ℤ := (scanFormat k.format line).bind k.scanValue

end DetailKey

namespace RaidArray

/-- The field that belongs to the key. -/
def get (a : RaidArray) : DetailKey → ℤ
  | .raidLevel => a.raidLevel
  | .raidDevices => a.numDevices
  | .failedDevices => a.numFailed
  | .activeDevices => a.numActive
  | .arraySize => a.sizeKb

/-- That field is assigned. -/
def set (a : RaidArray) (v : ℤ) : DetailKey → RaidArray
  | .raidLevel => { a with raidLevel := v }
  | .raidDevices => { a with numDevices := v }
  | .failedDevices => { a with numFailed := v }
  | .activeDevices => { a with numActive := v }
  | .arraySize => { a with sizeKb := v.toNat }

/-- A conversion that fails leaves the field as it is. -/
def read (a : RaidArray) (k : DetailKey) (line : CStr) : RaidArray :=
  match k.scan line with
  | some v => a.set v k
  | none => a

end RaidArray

/-- The label of the line with the state, without its colon. -/
def stateCaption : CStr := "State ".toList

/-- What `strstr` looks for. -/
def stateLabel : CStr := stateCaption ++ [':']

/-- The branch for the line with the state. -/
def lineStatus (line : CStr) : RaidStatus :=
  if "active".toList <:+: line then
    if "degraded".toList <:+: line then .degraded else .active
  else .failed

/-- What `strstr` and `sscanf (dev_start, "%s", device)` take out of a line.  The format has no
width; a path of more than 255 characters overruns `device`. -/
def devicePath (line : CStr) : Option CStr :=
  (strstr line "/dev/".toList).map fun devStart => devStart.takeWhile fun c => !isSpace c

/-- One turn of the loop of `raid_get_status`. -/
def detailLine (a : RaidArray) (line : CStr) : RaidArray :=
  if DetailKey.raidLevel.label <:+: line then a.read .raidLevel line
  else if stateLabel <:+: line then { a with status := some (lineStatus line) }
  else if DetailKey.raidDevices.label <:+: line then a.read .raidDevices line
  else if DetailKey.failedDevices.label <:+: line then a.read .failedDevices line
  else if DetailKey.activeDevices.label <:+: line then a.read .activeDevices line
  else if DetailKey.arraySize.label <:+: line then a.read .arraySize line
  else
    match devicePath line with
    | some device => if a.numDevices < 16 then { a with devices := a.devices.record device } else a
    | none => a

/-- The loop of `raid_get_status`. -/
def parseDetail (a : RaidArray) (output : CStr) : RaidArray :=
  (tokens '\n' output).foldl detailLine a

/-! ## The functions -/

/-- Where the argument `array_name` points: to a string of its own, or to the `name` of the
structure that is filled. -/
inductive NamePtr
  | copy (s : CStr)
  | own

/-- The string there, when this is in the structure. -/
def NamePtr.read (p : NamePtr) (a : RaidArray) : CStr :=
  match p with
  | copy s => s
  | own => a.name

/-- `mdadm --detail %s 2>&1`. -/
def detailText (arrayName : CStr) : CStr := "mdadm --detail ".toList ++ (arrayName ++ errToOut)

section Functions

variable {β : Type*} (env : FsEnv β)

/-- `raid_get_status`, for pointers that are not null. -/
def raidGetStatus (arrayName : NamePtr) (array : RaidArray) : Ret × RaidArray :=
  if env.fileExists (arrayName.read array) = false then (.errorNotFound, array)
  else
    let cmd := fit maxCommand (detailText (arrayName.read array))
    match executeCommand (env.popen cmd) maxOutput with
    | (.success, output) =>
        let array := RaidArray.zero
        let array := array.setName (arrayName.read array)
        (.success, parseDetail array (output.getD []))
    | (result, _) => (result, array)

/-- `raid_monitor`. -/
def raidMonitor (array : RaidArray) : Ret × RaidArray :=
  if array.name.1 = [] then (.errorInvalidParam, array) else raidGetStatus env .own array

/-- `cmd_raid_status`: what it returns and the structure it prints from. -/
def cmdRaidStatus (arrayName : CStr) : ℤ × Option RaidArray :=
  let monitored := raidMonitor env (RaidArray.zero.setName arrayName)
  if monitored.1 ≠ .success then (-1, none) else (0, some monitored.2)

/-- `mdadm --detail` is run for this name and succeeds. -/
def Detailed (name : CStr) : Prop :=
  env.fileExists name = true ∧
    ∃ r, env.popen (fit maxCommand (detailText name)) = some r ∧ r.status = .exited 0

end Functions

/-! ## Which branch a line takes -/

/-- What the tests look for, in their order and without the colons. -/
def detailCaptions : List CStr :=
  [DetailKey.raidLevel.caption, stateCaption, DetailKey.raidDevices.caption,
    DetailKey.failedDevices.caption, DetailKey.activeDevices.caption, DetailKey.arraySize.caption]

/-- One of the labels occurs in the line. -/
def Labelled (line : CStr) : Prop := ∃ l ∈ detailCaptions, l ++ [':'] <:+: line

instance (line : CStr) : Decidable (Labelled line) :=
  inferInstanceAs (Decidable (∃ l ∈ detailCaptions, _))

lemma labelled_iff {line : CStr} : Labelled line ↔
    DetailKey.raidLevel.label <:+: line ∨ stateLabel <:+: line ∨
      DetailKey.raidDevices.label <:+: line ∨ DetailKey.failedDevices.label <:+: line ∨
      DetailKey.activeDevices.label <:+: line ∨ DetailKey.arraySize.label <:+: line := by
  simp [Labelled, detailCaptions, DetailKey.label, stateLabel]

lemma caption_mem (k : DetailKey) : k.caption ∈ detailCaptions := by
  cases k <;> simp [detailCaptions]

lemma stateCaption_mem : stateCaption ∈ detailCaptions := by simp [detailCaptions]

lemma colon_notMem_caption : ∀ l ∈ detailCaptions, ':' ∉ l := by decide

/-- No caption is the end of another one. -/
lemma eq_of_caption_suffix :
    ∀ l ∈ detailCaptions, ∀ m ∈ detailCaptions, l <:+ m ∨ m <:+ l → l = m := by decide

/-- A label has a blank before its colon. -/
lemma blank_colon_infix_label : ∀ l ∈ detailCaptions, [' ', ':'] <:+: l ++ [':'] := by decide

section Branches

variable {line rest l m : CStr} {a : RaidArray}

/-- A line with one colon has only the label that ends there. -/
lemma label_infix_iff (hl : l ∈ detailCaptions) (hm : m ∈ detailCaptions) (hrest : ':' ∉ rest)
    (n : ℕ) : l ++ [':'] <:+: blanks n ++ (m ++ ':' :: rest) ↔ l = m := by
  constructor
  · intro h
    have hcolon : ':' ∉ blanks n ++ m := by
      rw [List.mem_append, not_or]
      exact ⟨notMem_blanks (by decide) n, colon_notMem_caption m hm⟩
    rw [← List.append_assoc] at h
    have hsuffix := suffix_of_infix hcolon hrest h
    exact eq_of_caption_suffix l hl m hm
      (List.suffix_or_suffix_of_suffix hsuffix (List.suffix_append (blanks n) m))
  · rintro rfl
    exact ⟨blanks n, rest, by simp⟩

/-- The line of a number is read as one. -/
lemma detailLine_number (k : DetailKey) (hrest : ':' ∉ rest) (n : ℕ) :
    detailLine a (blanks n ++ (k.caption ++ ':' :: rest)) =
      a.read k (blanks n ++ (k.caption ++ ':' :: rest)) := by
  have hkey : ∀ j : DetailKey,
      j.label <:+: blanks n ++ (k.caption ++ ':' :: rest) ↔ j.caption = k.caption :=
    fun j => label_infix_iff (caption_mem j) (caption_mem k) hrest n
  have hstate : stateLabel <:+: blanks n ++ (k.caption ++ ':' :: rest) ↔
      stateCaption = k.caption := label_infix_iff stateCaption_mem (caption_mem k) hrest n
  simp only [detailLine, hkey, hstate]
  cases k <;> rfl

/-- The line of the state is read as that. -/
lemma detailLine_state (hrest : ':' ∉ rest) (n : ℕ) :
    detailLine a (blanks n ++ (stateCaption ++ ':' :: rest)) =
      { a with status := some (lineStatus (blanks n ++ (stateCaption ++ ':' :: rest))) } := by
  have hlevel : ¬ DetailKey.raidLevel.label <:+: blanks n ++ (stateCaption ++ ':' :: rest) := by
    rw [DetailKey.label, label_infix_iff (caption_mem _) stateCaption_mem hrest]
    decide
  have hstate : stateLabel <:+: blanks n ++ (stateCaption ++ ':' :: rest) :=
    (label_infix_iff stateCaption_mem stateCaption_mem hrest n).mpr rfl
  rw [detailLine, if_neg hlevel, if_pos hstate]

end Branches

/-! ## What a turn of the loop can do -/

/-- The path a turn of the loop puts into `device`. -/
def deviceRead (a : RaidArray) (line : CStr) : Option CStr :=
  if Labelled line ∨ 16 ≤ a.numDevices then none else devicePath line

/-- The table after a turn that has put this into `device`. -/
def DeviceTable.recordRead (t : DeviceTable) (device : Option CStr) : DeviceTable :=
  device.elim t t.record

/-- A turn reads one number, sets the status, or adds to the table. -/
lemma detailLine_cases (a : RaidArray) (line : CStr) :
    (∃ k : DetailKey, k.label <:+: line ∧ detailLine a line = a.read k line) ∨
      (stateLabel <:+: line ∧ detailLine a line = { a with status := some (lineStatus line) }) ∨
      (¬ Labelled line ∧
        detailLine a line = { a with devices := a.devices.recordRead (deviceRead a line) }) := by
  by_cases hl : Labelled line
  · rw [labelled_iff] at hl
    by_cases hlevel : DetailKey.raidLevel.label <:+: line
    · exact .inl ⟨.raidLevel, hlevel, if_pos hlevel⟩
    by_cases hstate : stateLabel <:+: line
    · exact .inr (.inl ⟨hstate, by rw [detailLine, if_neg hlevel, if_pos hstate]⟩)
    by_cases hdevices : DetailKey.raidDevices.label <:+: line
    · refine .inl ⟨.raidDevices, hdevices, ?_⟩
      rw [detailLine, if_neg hlevel, if_neg hstate, if_pos hdevices]
    by_cases hfailed : DetailKey.failedDevices.label <:+: line
    · refine .inl ⟨.failedDevices, hfailed, ?_⟩
      rw [detailLine, if_neg hlevel, if_neg hstate, if_neg hdevices, if_pos hfailed]
    by_cases hactive : DetailKey.activeDevices.label <:+: line
    · refine .inl ⟨.activeDevices, hactive, ?_⟩
      rw [detailLine, if_neg hlevel, if_neg hstate, if_neg hdevices, if_neg hfailed,
        if_pos hactive]
    have hsize : DetailKey.arraySize.label <:+: line :=
      ((((hl.resolve_left hlevel).resolve_left hstate).resolve_left hdevices).resolve_left
        hfailed).resolve_left hactive
    refine .inl ⟨.arraySize, hsize, ?_⟩
    rw [detailLine, if_neg hlevel, if_neg hstate, if_neg hdevices, if_neg hfailed,
      if_neg hactive, if_pos hsize]
  · refine .inr (.inr ⟨hl, ?_⟩)
    have hnone := hl
    simp only [labelled_iff, not_or] at hnone
    simp only [detailLine, hnone, if_false]
    cases hpath : devicePath line with
    | none => simp [deviceRead, hpath, DeviceTable.recordRead]
    | some device =>
        rcases lt_or_ge a.numDevices 16 with hcount | hcount
        · simp [deviceRead, hl, hpath, DeviceTable.recordRead, hcount, not_le.mpr hcount]
        · simp [deviceRead, DeviceTable.recordRead, hcount, not_lt.mpr hcount]

section Turn

variable (a : RaidArray) (line : CStr)

/-- Reading a number leaves the rest. -/
lemma read_others (k : DetailKey) : (a.read k line).name = a.name ∧
    (a.read k line).devices = a.devices ∧ (a.read k line).status = a.status := by
  unfold RaidArray.read
  cases k.scan line with
  | none => exact ⟨rfl, rfl, rfl⟩
  | some v => cases k <;> exact ⟨rfl, rfl, rfl⟩

lemma detailLine_name : (detailLine a line).name = a.name := by
  rcases detailLine_cases a line with ⟨k, -, h⟩ | ⟨-, h⟩ | ⟨-, h⟩
  · rw [h, (read_others a line k).1]
  · rw [h]
  · rw [h]

lemma detailLine_devices :
    (detailLine a line).devices = a.devices.recordRead (deviceRead a line) := by
  have hlabelled : Labelled line → a.devices.recordRead (deviceRead a line) = a.devices := by
    intro hl
    rw [deviceRead, if_pos (Or.inl hl)]
    rfl
  rcases detailLine_cases a line with ⟨k, hk, h⟩ | ⟨hstate, h⟩ | ⟨-, h⟩
  · rw [h, (read_others a line k).2.1, hlabelled ⟨_, caption_mem k, hk⟩]
  · rw [h, hlabelled ⟨_, stateCaption_mem, hstate⟩]
  · rw [h]

variable {line}

lemma detailLine_status (hline : ¬ stateLabel <:+: line) :
    (detailLine a line).status = a.status := by
  rcases detailLine_cases a line with ⟨k, -, h⟩ | ⟨hstate, -⟩ | ⟨-, h⟩
  · rw [h, (read_others a line k).2.2]
  · exact absurd hstate hline
  · rw [h]

/-- A line without a number in it leaves the numbers. -/
lemma detailLine_get (hline : ∀ k : DetailKey, k.label <:+: line → k.scan line = none)
    (k : DetailKey) : (detailLine a line).get k = a.get k := by
  rcases detailLine_cases a line with ⟨j, hj, h⟩ | ⟨-, h⟩ | ⟨-, h⟩
  · rw [h, RaidArray.read, hline j hj]
  · rw [h]
    cases k <;> rfl
  · rw [h]
    cases k <;> rfl

end Turn

/-- Empty lines leave everything. -/
lemma foldl_detailLine_filter (a : RaidArray) (lines : List CStr) :
    (lines.filter (· ≠ [])).foldl detailLine a = lines.foldl detailLine a := by
  induction lines generalizing a with
  | nil => rfl
  | cons line lines ih =>
      by_cases hline : line = []
      · rw [hline, List.filter_cons_of_neg (by simp), ih]
        rfl
      · rw [List.filter_cons_of_pos (by simpa using hline), List.foldl_cons, List.foldl_cons, ih]

lemma parseDetail_name (a : RaidArray) (output : CStr) : (parseDetail a output).name = a.name := by
  unfold parseDetail
  induction tokens '\n' output generalizing a with
  | nil => rfl
  | cons line lines ih => rw [List.foldl_cons, ih, detailLine_name]

/-! ## The pointer into the structure -/

section Pointer

variable {β : Type*} {env : FsEnv β} {p : NamePtr} {a : RaidArray}

/-- A call that gets as far as the output clears the structure before it reads the name again. -/
lemma raidGetStatus_of_detailed {r : CommandRun} (hfile : env.fileExists (p.read a) = true)
    (hrun : env.popen (fit maxCommand (detailText (p.read a))) = some r)
    (hstatus : r.status = .exited 0) :
    raidGetStatus env p a =
      (.success, parseDetail (RaidArray.zero.setName (p.read .zero))
        (captured maxOutput r.output)) := by
  simp [raidGetStatus, hfile, hrun, executeCommand, hstatus, maxOutput]

/-- Any other call leaves the structure, and what it returns depends on the name alone. -/
lemma raidGetStatus_of_not_detailed (h : ¬ Detailed env (p.read a)) :
    ∃ code, code ≠ Ret.success ∧
      ∀ q b, q.read b = p.read a → raidGetStatus env q b = (code, b) := by
  by_cases hfile : env.fileExists (p.read a) = true
  · have hcode : (executeCommand (env.popen (fit maxCommand (detailText (p.read a))))
        maxOutput).1 = .errorSystemCall := by
      cases hrun : env.popen (fit maxCommand (detailText (p.read a))) with
      | none => rfl
      | some r =>
          have hstatus : r.status ≠ .exited 0 := fun hstatus => h ⟨hfile, r, hrun, hstatus⟩
          simp [executeCommand, hstatus]
    refine ⟨.errorSystemCall, by decide, fun q b hq => ?_⟩
    obtain ⟨output, houtput⟩ : ∃ output, executeCommand
        (env.popen (fit maxCommand (detailText (p.read a)))) maxOutput =
        (.errorSystemCall, output) := ⟨_, Prod.ext hcode rfl⟩
    simp [raidGetStatus, hq, hfile, houtput]
  · refine ⟨.errorNotFound, by decide, fun q b hq => ?_⟩
    simp [raidGetStatus, hq, hfile]

/-- **`raid_monitor` does what `raid_get_status` does with a copy of the name**, and does it again
when it is repeated, exactly if there is nothing to report: the array is missing or `mdadm` fails.
Otherwise the name is gone after the first call, and the second is refused. -/
theorem raid_monitor_iff (env : FsEnv β) (a : RaidArray) (hname : a.name.1 ≠ []) :
    (raidMonitor env a = raidGetStatus env (.copy a.name) a ∧
      ∀ n, raidMonitor env ((fun b => (raidMonitor env b).2)^[n] a) = raidMonitor env a) ↔
      ¬ Detailed env a.name := by
  have hown : raidMonitor env a = raidGetStatus env .own a := if_neg hname
  constructor
  · rintro ⟨hsame, -⟩ ⟨hfile, r, hrun, hstatus⟩
    have hmonitor := raidGetStatus_of_detailed (p := .own) hfile hrun hstatus
    have hcopy := raidGetStatus_of_detailed (p := .copy a.name) (a := a) hfile hrun hstatus
    rw [hown, hmonitor, hcopy] at hsame
    have hnames := congrArg (fun q => (Prod.snd q).name.1) hsame
    simp only [parseDetail_name] at hnames
    -- the cleared name on one side, the name on the other
    have hfit : fit 64 a.name.1 = a.name.1 := fit_of_lt a.name.2
    exact hname (hfit.symm.trans hnames.symm)
  · intro h
    obtain ⟨code, -, hcode⟩ := raidGetStatus_of_not_detailed (p := .own) h
    have hstays : raidMonitor env a = (code, a) := hown.trans (hcode _ _ rfl)
    refine ⟨hstays.trans (hcode (.copy a.name) a rfl).symm, fun n => ?_⟩
    have hfixed : (fun b => (raidMonitor env b).2)^[n] a = a :=
      Function.iterate_fixed (congrArg Prod.snd hstays) n
    rw [hfixed]

/-- A call that succeeds leaves no name. -/
lemma raidMonitor_name (h : (raidMonitor env a).1 = .success) :
    (raidMonitor env a).2.name.1 = [] := by
  unfold raidMonitor at h ⊢
  split_ifs at h ⊢
  by_cases hdetailed : Detailed env (NamePtr.own.read a)
  · obtain ⟨hfile, r, hrun, hstatus⟩ := hdetailed
    rw [raidGetStatus_of_detailed hfile hrun hstatus, parseDetail_name]
    rfl
  · obtain ⟨code, hne, hcode⟩ := raidGetStatus_of_not_detailed hdetailed
    rw [hcode _ _ rfl] at h
    exact absurd h hne

/-- The command line prints the state under an empty name. -/
theorem cmdRaidStatus_name {arrayName : CStr} {printed : RaidArray}
    (h : (cmdRaidStatus env arrayName).2 = some printed) : printed.name.1 = [] := by
  unfold cmdRaidStatus at h
  dsimp only at h
  split_ifs at h with hcode
  rw [← Option.some.inj h]
  exact raidMonitor_name (not_not.mp hcode)

end Pointer

/-- A structure with nothing in it but the name. -/
def md0Array : RaidArray := RaidArray.zero.setName "/dev/md0".toList

/-- An array without a file: both calls fail in the same way. -/
theorem raid_monitor_missing :
    md0Array.name.1 ≠ [] ∧
      raidMonitor { printingEnv [] with fileExists := fun _ => false } md0Array =
        raidGetStatus { printingEnv [] with fileExists := fun _ => false } (.copy md0Array.name)
          md0Array :=
  ⟨by decide, ((raid_monitor_iff { printingEnv [] with fileExists := fun _ => false } md0Array
    (by decide)).mpr fun h => absurd h.1 (by decide)).1⟩

/-- The name is lost on the first call and missed on the second. -/
theorem raid_monitor_forgets_name :
    ¬ ∀ (env : FsEnv Unit) (a : RaidArray), a.name.1 ≠ [] →
      raidMonitor env a = raidGetStatus env (.copy a.name) a ∧
        ∀ n, raidMonitor env ((fun b => (raidMonitor env b).2)^[n] a) = raidMonitor env a := by
  intro hclaim
  obtain ⟨-, hrepeat⟩ := hclaim (printingEnv []) md0Array (by decide)
  have hfirst : raidMonitor (printingEnv []) md0Array = (.success, .zero) := by decide +kernel
  have hsecond : raidMonitor (printingEnv []) .zero = (.errorInvalidParam, .zero) := by
    decide +kernel
  have hsame := hrepeat 1
  rw [Function.iterate_one, hfirst, hsecond] at hsame
  exact absurd hsame (by decide)

end Storage

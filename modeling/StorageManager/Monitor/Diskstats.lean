import StorageManager.Lib.Columns
import StorageManager.Lib.Slots
import StorageManager.Monitor.Performance
import Mathlib.Data.List.Nodup

/-!
# Counters from `/proc/diskstats`

`parse_diskstats` looks for the line of a device and takes four of its columns.  It compares the
whole third column with the last component of the device's path, so a name that only begins like
another one is not taken for it, and it reads the columns it does not need into one variable.

**What is read.**  A line of a device table gives the counters of its row, and only to the device
of that name (`scanDiskstats_row`).  The search stops at the first match (`parseDiskstats_rows`),
which with distinct names is the only one.

**What does not matter.**  The rows of other devices: `device_stats_read` has no condition on them
but that they are rows.

A name of more than 63 characters would overrun `dev_name`; a row has no such name.
-/

namespace Storage

open CString

/-! ## The functions -/

/-- The name after the last slash of a path. -/
def baseName (device : CStr) : CStr := afterLast '/' device

/-- The variables that `sscanf` fills in. -/
structure DiskLine where
  major : ℤ
  minor : ℤ
  devName : CStr
  rd : UInt64
  dummy : UInt64
  rdSec : UInt64
  wr : UInt64
  wrSec : UInt64

/-- Their contents before: nothing is read of them unless `sscanf` fills in all. -/
def DiskLine.unread : DiskLine := ⟨0, 0, [], 0, 0, 0, 0, 0⟩

/-- `%llu`. -/
def counterTo (store : UInt64 → DiskLine → DiskLine) : Conversion DiskLine :=
  unsignedTo fun n => store (.ofNat n)

/-- `"%d %d %s %llu %llu %llu %llu %llu %llu %llu"`. -/
def diskstatsFormat : List (Conversion DiskLine) :=
  [signedTo fun n l => { l with major := n },
    signedTo fun n l => { l with minor := n },
    textTo fun w l => { l with devName := w },
    counterTo fun v l => { l with rd := v },
    counterTo fun v l => { l with dummy := v },
    counterTo fun v l => { l with rdSec := v },
    counterTo fun v l => { l with dummy := v },
    counterTo fun v l => { l with wr := v },
    counterTo fun v l => { l with dummy := v },
    counterTo fun v l => { l with wrSec := v }]

/-- One turn of the loop of `parse_diskstats`. -/
def scanDiskstats (base line : CStr) : Option DiskCounters :=
  let r := runScan diskstatsFormat .unread line
  if 10 ≤ r.2 ∧ r.1.devName = base then some ⟨r.1.rd, r.1.wr, r.1.rdSec, r.1.wrSec⟩ else none

/-- `parse_diskstats`, or `none` when it returns -1; `file` is `none` when `/proc/diskstats` cannot
be opened. -/
def parseDiskstats (file : Option CStr) (device : CStr) : Option DiskCounters :=
  file.bind fun content => (fgetsAll 512 content).findSome? (scanDiskstats (baseName device))

/-- `monitor_get_device_stats` with the file it reads: its value and `*stats`. -/
def deviceStatsFrom (file : Option CStr) (device : CStr) (now : ℤ) : ℤ × DiskStats :=
  match monitorGetDeviceStats device (parseDiskstats file device) now with
  | some stats => (0, stats)
  | none => (-1, ⟨fit 64 device, 0, 0, 0, 0, 0, 0, 0, 0⟩)

/-! ## The file -/

/-- What the kernel says of a device: the counters up to the one the daemon reads last, and the
ones after it. -/
structure DiskFigures where
  major : ℕ
  minor : ℕ
  name : CStr
  readsCompleted : UInt64
  readsMerged : UInt64
  sectorsRead : UInt64
  msReading : UInt64
  writesCompleted : UInt64
  writesMerged : UInt64
  sectorsWritten : UInt64
  more : List UInt64

/-- The columns of the line. -/
def DiskFigures.fields (r : DiskFigures) : List CStr :=
  [decimal r.major, decimal r.minor, r.name, decimal r.readsCompleted.toNat,
    decimal r.readsMerged.toNat, decimal r.sectorsRead.toNat, decimal r.msReading.toNat,
    decimal r.writesCompleted.toNat, decimal r.writesMerged.toNat,
    decimal r.sectorsWritten.toNat] ++ r.more.map fun v => decimal v.toNat

/-- A line of the file. -/
structure DiskRow extends DiskFigures where
  spacing : Spacing
  name_ne_nil : name ≠ []
  name_le : name.length ≤ 63
  name_noSpace : ∀ c ∈ name, isSpace c = false
  short : (spacing.text 0 toDiskFigures.fields).length < 511

namespace DiskRow

/-- The line as it is printed. -/
def text (r : DiskRow) : CStr := r.spacing.text 0 r.fields

/-- The four counters that are meant to be read. -/
def counters (r : DiskRow) : DiskCounters :=
  ⟨r.readsCompleted, r.writesCompleted, r.sectorsRead, r.sectorsWritten⟩

end DiskRow

/-- The contents of the file. -/
def diskstatsText (rows : List DiskRow) : CStr := rows.flatMap fun r => r.text ++ ['\n']

/-! ## One line -/

lemma baseName_path (dir : CStr) {d : CStr} (hd : '/' ∉ d) : baseName (dir ++ '/' :: d) = d := by
  have hname : ∀ c ∈ d.reverse, decide (c ≠ '/') = true := by
    intro c hc
    refine decide_eq_true ?_
    rintro rfl
    exact hd (List.mem_reverse.mp hc)
  have hrev : (dir ++ '/' :: d).reverse = d.reverse ++ '/' :: dir.reverse := by simp
  rw [baseName, afterLast, hrev, List.takeWhile_append_of_pos hname]
  simp

/-- A device is named by its path or by its name alone. -/
lemma baseName_device {device d : CStr} (hd : '/' ∉ d)
    (hdevice : device = d ∨ ∃ dir, device = dir ++ '/' :: d) : baseName device = d := by
  rcases hdevice with rfl | ⟨dir, rfl⟩
  · refine List.rtakeWhile_eq_self_iff.mpr fun c hc => decide_eq_true ?_
    rintro rfl
    exact hd hc
  · exact baseName_path dir hd

/-- A counter and the conversion for it. -/
def counterColumn (store : UInt64 → DiskLine → DiskLine) (v : UInt64) : Column DiskLine where
  conversion := counterTo store
  field := decimal v.toNat
  effect := store v
  reads := by
    have hread := reads_unsignedTo (fun n => store (.ofNat n)) v.toNat_lt
    rwa [UInt64.ofNat_toNat] at hread

namespace DiskRow

variable (r : DiskRow)

/-- The ten columns that are read. -/
def columns : List (Column DiskLine) :=
  [⟨_, decimal r.major, _, reads_signedTo_asInt (fun n l => { l with major := n }) r.major⟩,
    ⟨_, decimal r.minor, _, reads_signedTo_asInt (fun n l => { l with minor := n }) r.minor⟩,
    ⟨_, r.name, _,
      reads_textTo (fun w l => { l with devName := w }) r.name_ne_nil r.name_noSpace⟩,
    counterColumn (fun v l => { l with rd := v }) r.readsCompleted,
    counterColumn (fun v l => { l with dummy := v }) r.readsMerged,
    counterColumn (fun v l => { l with rdSec := v }) r.sectorsRead,
    counterColumn (fun v l => { l with dummy := v }) r.msReading,
    counterColumn (fun v l => { l with wr := v }) r.writesCompleted,
    counterColumn (fun v l => { l with dummy := v }) r.writesMerged,
    counterColumn (fun v l => { l with wrSec := v }) r.sectorsWritten]

/-- **The columns of a row.**  All ten conversions succeed, and the variable for the columns that
are not needed keeps the last of them. -/
lemma runScan_text :
    runScan diskstatsFormat .unread (r.text ++ ['\n'])
      = (⟨asInt r.major, asInt r.minor, r.name, r.readsCompleted, r.writesMerged, r.sectorsRead,
          r.writesCompleted, r.sectorsWritten⟩, 10) := by
  have hformat : r.columns.map (·.conversion) = diskstatsFormat := rfl
  have hfields : r.columns.map (·.field) ++ (r.more.map fun v => decimal v.toNat) = r.fields := rfl
  have hscan := runScan_columns r.spacing r.columns .unread 0
    (r.more.map fun v => decimal v.toNat) breaks_newline
  rw [hformat, hfields] at hscan
  exact hscan

/-- The line of a device is taken for that device and for no other. -/
lemma scanDiskstats_row (base : CStr) :
    scanDiskstats base (r.text ++ ['\n']) = if r.name = base then some r.counters else none := by
  simp only [scanDiskstats, runScan_text, Nat.le_refl, true_and]
  rfl

lemma newline_notMem_text : '\n' ∉ r.text := by
  refine r.spacing.newline_notMem_text ?_ 0
  have hname : '\n' ∉ r.name := fun h => absurd (r.name_noSpace _ h) (by decide)
  simp only [DiskFigures.fields, List.forall_mem_append, List.forall_mem_cons, List.forall_mem_map,
    List.not_mem_nil, false_imp_iff, implies_true, and_true, newline_notMem_decimal,
    not_false_eq_true, hname]

end DiskRow

/-! ## The table -/

/-- The search through the lines is a search through the rows by name. -/
lemma findSome?_rows (rows : List DiskRow) (base : CStr) :
    (rows.map fun r => r.text ++ ['\n']).findSome? (scanDiskstats base)
      = (rows.find? fun r => r.name = base).map DiskRow.counters := by
  rw [List.findSome?_map]
  simp only [Function.comp_def, DiskRow.scanDiskstats_row]
  exact Slots.findSome?_ite _ DiskRow.counters rows

lemma parseDiskstats_rows (rows : List DiskRow) (device : CStr) :
    parseDiskstats (some (diskstatsText rows)) device
      = (rows.find? fun r => r.name = baseName device).map DiskRow.counters := by
  have hlines : ∀ t ∈ rows.map DiskRow.text, '\n' ∉ t ∧ t.length + 1 < 512 := by
    intro t ht
    obtain ⟨r, -, rfl⟩ := List.mem_map.mp ht
    exact ⟨r.newline_notMem_text, Nat.succ_lt_succ r.short⟩
  have hread := fgetsAll_lines hlines
  rw [List.flatMap_map, List.map_map] at hread
  rw [← findSome?_rows, parseDiskstats, Option.bind_some, diskstatsText, hread]
  rfl

/-- The rows of other devices are passed over. -/
lemma find?_eq_of_filter {rows rows' : List DiskRow} {d : CStr}
    (h : rows'.filter (·.name = d) = rows.filter (·.name = d)) :
    (rows'.find? fun r => r.name = d) = rows.find? fun r => r.name = d := by
  rw [← List.head?_filter, ← List.head?_filter, h]

/-- With distinct names there is one row of a name to find. -/
lemma find?_of_mem {rows : List DiskRow} {r : DiskRow}
    (hnames : (rows.map fun r => r.name).Nodup) (hr : r ∈ rows) :
    (rows.find? fun r' => r'.name = r.name) = some r :=
  Slots.find?_of_unique hr (decide_eq_true rfl) fun _ hr' hname =>
    List.inj_on_of_nodup_map hnames hr' hr (of_decide_eq_true hname)

/-- The call succeeds when the device is listed. -/
lemma deviceStatsFrom_eq_zero_iff (file : Option CStr) (device : CStr) (now : ℤ) :
    (deviceStatsFrom file device now).1 = 0 ↔ (parseDiskstats file device).isSome := by
  cases hparse : parseDiskstats file device <;>
    simp [deviceStatsFrom, hparse, monitorGetDeviceStats]

/-- **Device counters come from the right line and the right columns.**  In a table of devices with
distinct names a device is found, under any directory or under none, exactly when it is in the
table; then the figures are those of its own row, with 512 bytes a sector modulo 2^64.  Any other
file whose rows for the device are the same gives the same result. -/
theorem device_stats_read (rows : List DiskRow) (hnames : (rows.map fun r => r.name).Nodup)
    (device d : CStr) (hd : '/' ∉ d) (hdevice : device = d ∨ ∃ dir, device = dir ++ '/' :: d)
    (now : ℤ) :
    ((deviceStatsFrom (some (diskstatsText rows)) device now).1 = 0 ↔
      d ∈ rows.map fun r => r.name) ∧
    (∀ r ∈ rows, r.name = d →
      let stats := (deviceStatsFrom (some (diskstatsText rows)) device now).2
      stats.reads = r.readsCompleted ∧ stats.writes = r.writesCompleted ∧
        stats.readBytes.toNat = 512 * r.sectorsRead.toNat % 2 ^ 64 ∧
        stats.writeBytes.toNat = 512 * r.sectorsWritten.toNat % 2 ^ 64) ∧
    ∀ rows' : List DiskRow, rows'.filter (·.name = d) = rows.filter (·.name = d) →
      deviceStatsFrom (some (diskstatsText rows')) device now
        = deviceStatsFrom (some (diskstatsText rows)) device now := by
  have hparse : ∀ rows : List DiskRow, parseDiskstats (some (diskstatsText rows)) device
      = (rows.find? fun r => r.name = d).map DiskRow.counters := by
    intro rows
    rw [parseDiskstats_rows, baseName_device hd hdevice]
  refine ⟨?_, fun r hr hname => ?_, fun rows' hrows => ?_⟩
  · rw [deviceStatsFrom_eq_zero_iff, hparse, Option.isSome_map, List.find?_isSome]
    simp only [decide_eq_true_eq, List.mem_map]
  · have hfind := find?_of_mem hnames hr
    rw [hname] at hfind
    rw [deviceStatsFrom, hparse, hfind]
    refine ⟨rfl, rfl, ?_, ?_⟩
    · simp [monitorGetDeviceStats, DiskRow.counters, Nat.mul_comm]
    · simp [monitorGetDeviceStats, DiskRow.counters, Nat.mul_comm]
  · rw [deviceStatsFrom, deviceStatsFrom, hparse, hparse, find?_eq_of_filter hrows]

/-- A row with single blanks. -/
def plainSpacing : Spacing where
  gap := fun _ => [' ']
  trail := []
  gap_space := fun _ => List.forall_mem_singleton.mpr rfl
  gap_line := fun _ => by decide
  gap_ne_nil := fun _ => List.cons_ne_nil _ _
  trail_space := fun _ h => absurd h List.not_mem_nil
  trail_line := List.not_mem_nil

/-- A disk and its first partition. -/
def diskSda : DiskRow where
  toDiskFigures := ⟨8, 0, "sda".toList, 100, 1, 2000, 30, 200, 2, 4000, [60, 0, 90, 90]⟩
  spacing := plainSpacing
  name_ne_nil := by decide
  name_le := by decide
  name_noSpace := noSpace_of_all rfl
  short := by decide

/-- The line of the partition. -/
def diskSda1 : DiskRow where
  toDiskFigures := ⟨8, 1, "sda1".toList, 7, 0, 8, 3, 5, 0, 9, [6, 0, 9, 9]⟩
  spacing := plainSpacing
  name_ne_nil := by decide
  name_le := by decide
  name_noSpace := noSpace_of_all rfl
  short := by decide

/-- The partition is read, and not the disk whose line comes first. -/
theorem device_stats_read_sda1 :
    let stats := (deviceStatsFrom (some (diskstatsText [diskSda, diskSda1]))
      "/dev/sda1".toList 0).2
    stats.reads = 7 ∧ stats.writes = 5 ∧ stats.readBytes.toNat = 4096 ∧
      stats.writeBytes.toNat = 4608 :=
  (device_stats_read [diskSda, diskSda1] (by decide) "/dev/sda1".toList "sda1".toList (by decide)
    (Or.inr ⟨"/dev".toList, rfl⟩) 0).2.1 diskSda1 (by simp) rfl

end Storage

import StorageManager.Lib.Columns
import StorageManager.Volumes.Physical

/-!
# The listings of LVM

`lvm_pv_list`, `lvm_vg_list` and `lvm_lv_list` are one loop over the lines of a tool: the entry at
`*count` is cleared, `sscanf` stores into it, and `*count` goes up if enough conversions succeed.
What a line that does not count has stored is left for the next line to clear.

* `listLoop_spec` — the entries of a run are those of the lines that count, in order; nothing is
  written at the limit or behind it.
* `Listing` — a function and the rows that are printed for it, with the law that a row is read back;
  `pvListing`, `vgListing`, `lvListing`.
* `lvm_listings_decode` — a table mixed with lines that do not count is decoded.
* `lvmPvList_eq_entries` — `lvmPvList` is what the loop leaves in the first entries.
-/

namespace Storage

open CString

/-! ## The entries -/

/-- `vg_info_t`; `pv_list` stays empty. -/
structure VgInfo where
  name : CStr
  sizeBytes : ℕ
  freeBytes : ℕ
  pvCount : ℤ
  lvCount : ℤ
  deriving DecidableEq

/-- `lv_info_t`; `origin` stays empty. -/
structure LvInfo where
  name : CStr
  vgName : CStr
  sizeBytes : ℕ
  path : CStr
  isSnapshot : Bool
  isActive : Bool
  deriving DecidableEq

/-- `memset` of an entry. -/
def PvInfo.zero : PvInfo := ⟨[], 0, 0, [], false⟩

/-- `memset` of an entry. -/
def VgInfo.zero : VgInfo := ⟨[], 0, 0, 0, 0⟩

/-- `memset` of an entry. -/
def LvInfo.zero : LvInfo := ⟨[], [], 0, [], false, false⟩

/-- `"%255s %llu %llu %63s"`, the last into `vg_temp`. -/
def pvConversions : List (Conversion (PvInfo × CStr)) :=
  [wordTo 255 fun w p => ({ p.1 with name := w }, p.2),
    unsignedTo fun n p => ({ p.1 with sizeBytes := n }, p.2),
    unsignedTo fun n p => ({ p.1 with freeBytes := n }, p.2),
    wordTo 63 fun w p => (p.1, w)]

/-- A turn of `lvm_pv_list`: what is in the entry after it, and whether it counts. -/
def pvEntry (line : CStr) : PvInfo × Bool :=
  let parsed := runScan pvConversions (.zero, []) line
  let pv := parsed.1.1
  if 3 ≤ parsed.2 then
    if parsed.2 = 4 ∧ 0 < parsed.1.2.length then
      ({ pv with vgName := fit 64 parsed.1.2, isAllocated := true }, true)
    else ({ pv with isAllocated := false }, true)
  else (pv, false)

/-- `"%63s %llu %llu %d %d"`. -/
def vgConversions : List (Conversion VgInfo) :=
  [wordTo 63 fun w vg => { vg with name := w },
    unsignedTo fun n vg => { vg with sizeBytes := n },
    unsignedTo fun n vg => { vg with freeBytes := n },
    signedTo fun n vg => { vg with pvCount := n },
    signedTo fun n vg => { vg with lvCount := n }]

/-- A turn of `lvm_vg_list`. -/
def vgEntry (line : CStr) : VgInfo × Bool :=
  let parsed := runScan vgConversions .zero line
  (parsed.1, parsed.2 = 5)

/-- `"%63s %63s %llu %255s"`. -/
def lvConversions : List (Conversion LvInfo) :=
  [wordTo 63 fun w lv => { lv with name := w },
    wordTo 63 fun w lv => { lv with vgName := w },
    unsignedTo fun n lv => { lv with sizeBytes := n },
    wordTo 255 fun w lv => { lv with path := w }]

/-- A turn of `lvm_lv_list`. -/
def lvEntry (line : CStr) : LvInfo × Bool :=
  let parsed := runScan lvConversions .zero line
  if 3 ≤ parsed.2 then ({ parsed.1 with isActive := true, isSnapshot := false }, true)
  else (parsed.1, false)

/-! ## The functions -/

section Loop

variable {α : Type*} (scan : CStr → α × Bool)

/-- The loop over the lines, with `mem` in the array and `count` entries filled. -/
def listLoop (max : ℕ) (mem : ℕ → α) (count : ℕ) : List CStr → (ℕ → α) × ℕ
  | [] => (mem, count)
  | line :: lines =>
      if count < max then
        let line := line.dropWhile isSpace
        if 0 < line.length then
          let entry := scan line
          listLoop max (Function.update mem count entry.1)
            (if entry.2 then count + 1 else count) lines
        else listLoop max mem count lines
      else (mem, count)

/-- A listing, given what becomes of its command: the code, the array and `*count`. -/
def lvmList (command : Option CommandRun) (mem : ℕ → α) (max : ℕ) : Ret × (ℕ → α) × ℕ :=
  match executeCommand command maxOutput with
  | (.success, output) => (.success, listLoop scan max mem 0 (tokens '\n' (output.getD [])))
  | _ => (.success, mem, 0)

end Loop

/-- `lvm_pv_list`, with the array it fills. -/
def lvmPvEntries (pvs : Option CommandRun) (mem : ℕ → PvInfo) (maxPvs : ℕ) :
    Ret × (ℕ → PvInfo) × ℕ := lvmList pvEntry pvs mem maxPvs

/-- `lvm_vg_list`. -/
def lvmVgList (vgs : Option CommandRun) (mem : ℕ → VgInfo) (maxVgs : ℕ) :
    Ret × (ℕ → VgInfo) × ℕ := lvmList vgEntry vgs mem maxVgs

/-- `lvm_lv_list`. -/
def lvmLvList (lvs : Option CommandRun) (mem : ℕ → LvInfo) (maxLvs : ℕ) :
    Ret × (ℕ → LvInfo) × ℕ := lvmList lvEntry lvs mem maxLvs

/-! ## What the loop leaves -/

section Spec

variable {α : Type*} {scan : CStr → α × Bool}

/-- The entry of a line that counts. -/
def countedEntry (scan : CStr → α × Bool) (line : CStr) : Option α :=
  let entry := scan (line.dropWhile isSpace)
  if entry.2 then some entry.1 else none

/-- The array and the count that a run leaves which began with `mem` and `count`, when these were
the entries of the lines that count. -/
structure Fills (max : ℕ) (mem : ℕ → α) (count : ℕ) (entries : List α) (r : (ℕ → α) × ℕ) :
    Prop where
  count_eq : r.2 = min max (count + entries.length)
  before : ∀ i < count, r.1 i = mem i
  filled : ∀ i, count + i < r.2 → entries[i]? = some (r.1 (count + i))
  beyond : ∀ i, max ≤ i → r.1 i = mem i

section Fills

variable {max count : ℕ} {mem : ℕ → α} {entries : List α} {r : (ℕ → α) × ℕ} {x : α}

lemma Fills.done (h : count ≤ max) : Fills max mem count [] (mem, count) where
  count_eq := (min_eq_right h).symm
  before := fun _ _ => rfl
  filled := fun i hi => absurd hi (by simp)
  beyond := fun _ _ => rfl

/-- There is no room for another entry. -/
lemma Fills.full (h : count ≤ max) (hfull : ¬ count < max) :
    Fills max mem count entries (mem, count) where
  count_eq := by
    rw [min_eq_left (by omega)]
    omega
  before := fun _ _ => rfl
  filled := fun i hi => absurd hi (by simp)
  beyond := fun _ _ => rfl

/-- A line that does not count may have changed the next entry. -/
lemma Fills.skip (hroom : count < max)
    (h : Fills max (Function.update mem count x) count entries r) :
    Fills max mem count entries r where
  count_eq := h.count_eq
  before := fun i hi => (h.before i hi).trans (Function.update_of_ne (by omega) _ _)
  filled := h.filled
  beyond := fun i hi => (h.beyond i hi).trans (Function.update_of_ne (by omega) _ _)

/-- A line that counts has changed it for good. -/
lemma Fills.cons (hroom : count < max)
    (h : Fills max (Function.update mem count x) (count + 1) entries r) :
    Fills max mem count (x :: entries) r where
  count_eq := by
    rw [h.count_eq, List.length_cons]
    omega
  before := fun i hi =>
    (h.before i (by omega)).trans (Function.update_of_ne (by omega) _ _)
  filled := by
    intro i hi
    cases i with
    | zero =>
        rw [List.getElem?_cons_zero, h.before (count + 0) (by omega), Nat.add_zero,
          Function.update_self]
    | succ i =>
        have hindex : count + (i + 1) = count + 1 + i := by omega
        rw [List.getElem?_cons_succ, hindex, h.filled i (by omega)]
  beyond := fun i hi => (h.beyond i hi).trans (Function.update_of_ne (by omega) _ _)

/-- The first entries as a list. -/
lemma Fills.take_eq (h : Fills max mem 0 entries r) :
    entries.take max = (List.range r.2).map r.1 := by
  have hcount := h.count_eq
  refine List.ext_getElem? fun i => ?_
  by_cases hi : i < r.2
  · have hentry := h.filled i (by omega)
    rw [Nat.zero_add] at hentry
    rw [List.getElem?_take_of_lt (by omega), hentry, List.getElem?_map, List.getElem?_range hi,
      Option.map_some]
  · rw [List.getElem?_eq_none (by rw [List.length_take]; omega),
      List.getElem?_eq_none (by rw [List.length_map, List.length_range]; omega)]

end Fills

/-- **What the loop leaves**: the entries of the lines that count. -/
lemma listLoop_spec (hnil : (scan []).2 = false) {max count : ℕ} (hcount : count ≤ max)
    (mem : ℕ → α) (lines : List CStr) :
    Fills max mem count (lines.filterMap (countedEntry scan))
      (listLoop scan max mem count lines) := by
  induction lines generalizing mem count with
  | nil => exact .done hcount
  | cons line lines ih =>
      dsimp only [listLoop]
      split_ifs with hroom hline hcounts
      · -- the entry at `count` is filled for good
        have htake : countedEntry scan line = some (scan (line.dropWhile isSpace)).1 :=
          if_pos hcounts
        rw [List.filterMap_cons_some htake]
        exact .cons hroom (ih hroom _)
      · have hskip : countedEntry scan line = none := if_neg hcounts
        rw [List.filterMap_cons_none hskip]
        exact .skip hroom (ih hcount _)
      · -- only white space
        have hempty : line.dropWhile isSpace = [] :=
          List.length_eq_zero_iff.mp (Nat.eq_zero_of_not_pos hline)
        have hskip : countedEntry scan line = none := by simp [countedEntry, hempty, hnil]
        rw [List.filterMap_cons_none hskip]
        exact ih hcount mem
      · exact .full hcount hroom

end Spec

/-! ## Tables -/

/-- A turn of the loop, and what the tool prints for it: the fields of a record, the entry they
stand for, and that the entry is read back whatever the white space. -/
structure Listing (α ρ : Type) where
  scan : CStr → α × Bool
  fields : ρ → List CStr
  entry : ρ → α
  scan_skip : ∀ s, scan (s.dropWhile isSpace) = scan s
  scan_nil : (scan []).2 = false
  scan_row : ∀ (r : ρ) (sp : Spacing), scan (sp.text 0 (fields r)) = (entry r, true)
  one_line : ∀ r, ∀ f ∈ fields r, '\n' ∉ f

section Tables

variable {α ρ : Type}

/-- A line of the output: a record, or a line on which `sscanf` reads too few fields. -/
inductive TableLine (L : Listing α ρ)
  | record (r : ρ) (sp : Spacing)
  | warning (text : CStr) (no_newline : '\n' ∉ text) (no_entry : (L.scan text).2 = false)

/-- The line as it is printed. -/
def TableLine.text {L : Listing α ρ} : TableLine L → CStr
  | record r sp => sp.text 0 (L.fields r)
  | warning text _ _ => text

/-- The record of the line, if it has one. -/
def TableLine.record? {L : Listing α ρ} : TableLine L → Option ρ
  | record r _ => some r
  | warning _ _ _ => none

/-- An output that leaves a byte to spare in the buffer. -/
structure Table (L : Listing α ρ) where
  lines : List (TableLine L)
  length_lt : ((lines.map (·.text)).flatMap fun l => l ++ ['\n']).length < maxOutput - 1

namespace Table

variable {L : Listing α ρ} (t : Table L)

/-- The output. -/
def text : CStr := (t.lines.map (·.text)).flatMap fun l => l ++ ['\n']

/-- The records in their order. -/
def records : List ρ := t.lines.filterMap (·.record?)

/-- The tool prints the table and succeeds. -/
def command : Option CommandRun := some ⟨t.text, .exited 0⟩

/-- The call has decoded the table into an array of `max` entries that held `mem`. -/
structure Decoded (mem : ℕ → α) (max : ℕ) (r : Ret × (ℕ → α) × ℕ) : Prop where
  code : r.1 = .success
  count : r.2.2 = min max t.records.length
  entry : ∀ i (h : i < t.records.length), i < max → r.2.1 i = L.entry (t.records.get ⟨i, h⟩)
  beyond : ∀ i, max ≤ i → r.2.1 i = mem i

end Table

variable {L : Listing α ρ}

lemma countedEntry_text (l : TableLine L) :
    countedEntry L.scan l.text = l.record?.map L.entry := by
  unfold countedEntry
  rw [L.scan_skip]
  cases l with
  | record r sp => rw [TableLine.text, L.scan_row]; rfl
  | warning text _ no_entry => simp [TableLine.text, TableLine.record?, no_entry]

/-- A table is decoded by the loop that goes with it. -/
lemma Table.decoded (t : Table L) (mem : ℕ → α) (max : ℕ) :
    t.Decoded mem max (lvmList L.scan t.command mem max) := by
  have hlines : ∀ l ∈ t.lines.map (·.text), '\n' ∉ l := by
    intro l hl
    obtain ⟨line, -, rfl⟩ := List.mem_map.mp hl
    cases line with
    | record r sp => exact sp.newline_notMem_text (L.one_line r) 0
    | warning text no_newline _ => exact no_newline
  -- lines of nothing but white space do not count, so it does not matter that empty ones are lost
  have hentries : (tokens '\n' t.text).filterMap (countedEntry L.scan) =
      t.records.map L.entry := by
    have hempty : countedEntry L.scan [] = none := by simp [countedEntry, L.scan_nil]
    rw [Table.text, tokens_lines hlines, List.filterMap_filter, List.filterMap_map, Table.records,
      List.map_filterMap]
    refine List.filterMap_congr fun l _ => ?_
    rw [Function.comp_apply, ← countedEntry_text]
    by_cases hl : l.text = []
    · simp [hl, hempty]
    · simp [hl]
  have hrun : lvmList L.scan t.command mem max =
      (.success, listLoop L.scan max mem 0 (tokens '\n' t.text)) := by
    have houtput : captured maxOutput t.text = t.text := captured_of_lt t.length_lt
    have hsize : 0 < maxOutput := by decide
    simp [lvmList, Table.command, executeCommand, houtput, hsize]
  obtain ⟨hcount, -, hfilled, hbeyond⟩ :=
    listLoop_spec L.scan_nil (Nat.zero_le max) mem (tokens '\n' t.text)
  rw [hentries] at hcount hfilled
  rw [hrun]
  rw [Nat.zero_add, List.length_map] at hcount
  refine ⟨rfl, hcount, fun i hi hmax => ?_, hbeyond⟩
  have hentry := hfilled i (by omega)
  rw [Nat.zero_add, List.getElem?_map, List.getElem?_eq_getElem hi, Option.map_some] at hentry
  exact (Option.some.inj hentry).symm

end Tables

/-! ## What the tools print -/

/-- What `pvs` prints about a physical volume. -/
structure PvRecord where
  name : Word
  size : ℕ
  free : ℕ
  vg : Option Word
  name_le : name.text.length ≤ 255
  size_lt : size < 2 ^ 64
  free_lt : free < 2 ^ 64
  vg_le : ∀ w ∈ vg, w.text.length ≤ 63

/-- What `vgs` prints about a volume group. -/
structure VgRecord where
  name : Word
  size : ℕ
  free : ℕ
  pvCount : ℕ
  lvCount : ℕ
  name_le : name.text.length ≤ 63
  size_lt : size < 2 ^ 64
  free_lt : free < 2 ^ 64
  pvCount_lt : pvCount < 2 ^ 31
  lvCount_lt : lvCount < 2 ^ 31

/-- What `lvs` prints about a logical volume; some have no path. -/
structure LvRecord where
  name : Word
  vg : Word
  size : ℕ
  path : Option Word
  name_le : name.text.length ≤ 63
  vg_le : vg.text.length ≤ 63
  size_lt : size < 2 ^ 64
  path_le : ∀ w ∈ path, w.text.length ≤ 255

/-- A word that may be missing. -/
def wordText (w : Option Word) : CStr := (w.map (·.text)).getD []

/-- The columns of `pvs -o pv_name,pv_size,pv_free,vg_name`. -/
def PvRecord.fields (r : PvRecord) : List CStr :=
  r.name.text :: decimal r.size :: decimal r.free :: (r.vg.map (·.text)).toList

/-- The `pv_info_t` the record stands for. -/
def PvRecord.entry (r : PvRecord) : PvInfo :=
  ⟨r.name.text, r.size, r.free, wordText r.vg, r.vg.isSome⟩

/-- The columns of `vgs -o vg_name,vg_size,vg_free,pv_count,lv_count`. -/
def VgRecord.fields (r : VgRecord) : List CStr :=
  [r.name.text, decimal r.size, decimal r.free, decimal r.pvCount, decimal r.lvCount]

/-- The `vg_info_t` the record stands for. -/
def VgRecord.entry (r : VgRecord) : VgInfo := ⟨r.name.text, r.size, r.free, r.pvCount, r.lvCount⟩

/-- The columns of `lvs -o lv_name,vg_name,lv_size,lv_path`. -/
def LvRecord.fields (r : LvRecord) : List CStr :=
  r.name.text :: r.vg.text :: decimal r.size :: (r.path.map (·.text)).toList

/-- The `lv_info_t` the record stands for. -/
def LvRecord.entry (r : LvRecord) : LvInfo :=
  ⟨r.name.text, r.vg.text, r.size, wordText r.path, false, true⟩

/-! ## Rows that are read back -/

section ReadBack

variable (sp : Spacing)

lemma reads_word {α : Type} {width : ℕ} (store : CStr → α → α) (w : Word)
    (h : w.text.length ≤ width) : Reads (wordTo width store) w.text (store w.text) :=
  reads_wordTo store w.ne_nil w.noSpace h

/-- The three fields every row of `pvs` has; the last conversion is left with the rest. -/
lemma runScan_pv (r : PvRecord) (rest : List CStr) :
    let last := runScan [wordTo 63 fun w (p : PvInfo × CStr) => (p.1, w)]
      (⟨r.name.text, r.size, r.free, [], false⟩, []) (sp.text 3 rest)
    runScan pvConversions (.zero, [])
        (sp.text 0 (r.name.text :: decimal r.size :: decimal r.free :: rest)) =
      (last.1, last.2 + 3) := by
  have hname := reads_word (fun w (p : PvInfo × CStr) => ({ p.1 with name := w }, p.2)) r.name
    r.name_le
  have hsize := reads_unsignedTo
    (fun n (p : PvInfo × CStr) => ({ p.1 with sizeBytes := n }, p.2)) r.size_lt
  have hfree := reads_unsignedTo
    (fun n (p : PvInfo × CStr) => ({ p.1 with freeBytes := n }, p.2)) r.free_lt
  rw [pvConversions, runScan_field sp hname, runScan_field sp hsize, runScan_field sp hfree]
  rfl

lemma pvEntry_row (r : PvRecord) : pvEntry (sp.text 0 r.fields) = (r.entry, true) := by
  cases hvg : r.vg with
  | none =>
      have hstop : Stops (wordTo 63 fun w (p : PvInfo × CStr) => (p.1, w)) :=
        stops_wordTo (by decide) _
      have hscan := runScan_pv sp r []
      rw [runScan_trail sp hstop] at hscan
      simp [pvEntry, hscan, PvRecord.fields, PvRecord.entry, hvg, wordText]
  | some w =>
      have hword := reads_word (fun w (p : PvInfo × CStr) => (p.1, w)) w (r.vg_le w hvg)
      have hscan := runScan_pv sp r [w.text]
      rw [runScan_field sp hword] at hscan
      have hlen : 0 < w.text.length := List.length_pos_iff_ne_nil.mpr w.ne_nil
      have hfit : fit 64 w.text = w.text := fit_of_lt (Nat.lt_succ_of_le (r.vg_le w hvg))
      simp [pvEntry, hscan, runScan, PvRecord.fields, PvRecord.entry, hvg, wordText, hlen, hfit]

lemma vgEntry_row (r : VgRecord) : vgEntry (sp.text 0 r.fields) = (r.entry, true) := by
  have hname := reads_word (fun w (vg : VgInfo) => { vg with name := w }) r.name r.name_le
  have hsize := reads_unsignedTo (fun n (vg : VgInfo) => { vg with sizeBytes := n }) r.size_lt
  have hfree := reads_unsignedTo (fun n (vg : VgInfo) => { vg with freeBytes := n }) r.free_lt
  have hpvs := reads_signedTo (fun n (vg : VgInfo) => { vg with pvCount := n }) r.pvCount_lt
  have hlvs := reads_signedTo (fun n (vg : VgInfo) => { vg with lvCount := n }) r.lvCount_lt
  have hscan : runScan vgConversions .zero (sp.text 0 r.fields) = (r.entry, 5) := by
    rw [vgConversions, VgRecord.fields, runScan_field sp hname, runScan_field sp hsize,
      runScan_field sp hfree, runScan_field sp hpvs, runScan_field sp hlvs]
    rfl
  simp [vgEntry, hscan]

/-- The three fields every row of `lvs` has. -/
lemma runScan_lv (r : LvRecord) (rest : List CStr) :
    let last := runScan [wordTo 255 fun w (lv : LvInfo) => { lv with path := w }]
      ⟨r.name.text, r.vg.text, r.size, [], false, false⟩ (sp.text 3 rest)
    runScan lvConversions .zero
        (sp.text 0 (r.name.text :: r.vg.text :: decimal r.size :: rest)) =
      (last.1, last.2 + 3) := by
  have hname := reads_word (fun w (lv : LvInfo) => { lv with name := w }) r.name r.name_le
  have hvg := reads_word (fun w (lv : LvInfo) => { lv with vgName := w }) r.vg r.vg_le
  have hsize := reads_unsignedTo (fun n (lv : LvInfo) => { lv with sizeBytes := n }) r.size_lt
  rw [lvConversions, runScan_field sp hname, runScan_field sp hvg, runScan_field sp hsize]
  rfl

lemma lvEntry_row (r : LvRecord) : lvEntry (sp.text 0 r.fields) = (r.entry, true) := by
  cases hpath : r.path with
  | none =>
      have hstop : Stops (wordTo 255 fun w (lv : LvInfo) => { lv with path := w }) :=
        stops_wordTo (by decide) _
      have hscan := runScan_lv sp r []
      rw [runScan_trail sp hstop] at hscan
      simp [lvEntry, hscan, LvRecord.fields, LvRecord.entry, hpath, wordText]
  | some w =>
      have hword := reads_word (fun w (lv : LvInfo) => { lv with path := w }) w (r.path_le w hpath)
      have hscan := runScan_lv sp r [w.text]
      rw [runScan_field sp hword] at hscan
      simp [lvEntry, hscan, runScan, LvRecord.fields, LvRecord.entry, hpath, wordText]

end ReadBack

/-! ## The three listings -/

/-- What `lvm_pv_list` reads, and `pvs` prints. -/
def pvListing : Listing PvInfo PvRecord where
  scan := pvEntry
  fields := PvRecord.fields
  entry := PvRecord.entry
  scan_skip := fun s => by
    rw [pvEntry, pvConversions, runScan_dropWhile (skips_wordTo _), ← pvConversions, ← pvEntry]
  scan_nil := rfl
  scan_row := fun r sp => pvEntry_row sp r
  one_line := fun r f hf => by
    simp only [PvRecord.fields, List.mem_cons, Option.mem_toList,
      Option.map_eq_some_iff] at hf
    rcases hf with rfl | rfl | rfl | ⟨w, -, rfl⟩
    · exact r.name.newline_notMem
    · exact newline_notMem_decimal _
    · exact newline_notMem_decimal _
    · exact w.newline_notMem

/-- What `lvm_vg_list` reads, and `vgs` prints. -/
def vgListing : Listing VgInfo VgRecord where
  scan := vgEntry
  fields := VgRecord.fields
  entry := VgRecord.entry
  scan_skip := fun s => by
    rw [vgEntry, vgConversions, runScan_dropWhile (skips_wordTo _), ← vgConversions, ← vgEntry]
  scan_nil := rfl
  scan_row := fun r sp => vgEntry_row sp r
  one_line := fun r f hf => by
    simp only [VgRecord.fields, List.mem_cons, List.not_mem_nil, or_false] at hf
    rcases hf with rfl | rfl | rfl | rfl | rfl
    · exact r.name.newline_notMem
    all_goals exact newline_notMem_decimal _

/-- What `lvm_lv_list` reads, and `lvs` prints. -/
def lvListing : Listing LvInfo LvRecord where
  scan := lvEntry
  fields := LvRecord.fields
  entry := LvRecord.entry
  scan_skip := fun s => by
    rw [lvEntry, lvConversions, runScan_dropWhile (skips_wordTo _), ← lvConversions, ← lvEntry]
  scan_nil := rfl
  scan_row := fun r sp => lvEntry_row sp r
  one_line := fun r f hf => by
    simp only [LvRecord.fields, List.mem_cons, Option.mem_toList,
      Option.map_eq_some_iff] at hf
    rcases hf with rfl | rfl | rfl | ⟨w, -, rfl⟩
    · exact r.name.newline_notMem
    · exact r.vg.newline_notMem
    · exact newline_notMem_decimal _
    · exact w.newline_notMem

/-- **The listings decode what the tools print**, whatever else stands between the records, whatever
the array held before and however many entries it has. -/
theorem lvm_listings_decode (max : ℕ) (pvMem : ℕ → PvInfo) (vgMem : ℕ → VgInfo)
    (lvMem : ℕ → LvInfo) (pvTable : Table pvListing) (vgTable : Table vgListing)
    (lvTable : Table lvListing) :
    pvTable.Decoded pvMem max (lvmPvEntries pvTable.command pvMem max) ∧
      vgTable.Decoded vgMem max (lvmVgList vgTable.command vgMem max) ∧
      lvTable.Decoded lvMem max (lvmLvList lvTable.command lvMem max) :=
  ⟨pvTable.decoded pvMem max, vgTable.decoded vgMem max, lvTable.decoded lvMem max⟩

/-! ### Three tables -/

lemma isSpace_of_mem_twoBlanks {c : Char} (h : c ∈ [' ', ' ']) : isSpace c = true := by
  rw [List.eq_of_mem_replicate (n := 2) h]
  rfl

lemma newline_notMem_twoBlanks : '\n' ∉ [' ', ' '] := by decide

lemma twoBlanks_ne_nil : [' ', ' '] ≠ [] := List.cons_ne_nil _ _

lemma isSpace_of_mem_noTrail {c : Char} (h : c ∈ ([] : CStr)) : isSpace c = true :=
  absurd h List.not_mem_nil

lemma newline_notMem_noTrail : '\n' ∉ ([] : CStr) := List.not_mem_nil

/-- Two blanks in front of each field, as the tools print it. -/
def twoBlanks : Spacing where
  gap _ := [' ', ' ']
  trail := []
  gap_space _ _ := isSpace_of_mem_twoBlanks
  gap_line _ := newline_notMem_twoBlanks
  gap_ne_nil _ := twoBlanks_ne_nil
  trail_space _ := isSpace_of_mem_noTrail
  trail_line := newline_notMem_noTrail

/-- A physical volume. -/
def sdaWord : Word := ⟨"/dev/sda".toList, by decide, noSpace_of_all rfl⟩

/-- Another one. -/
def sdbWord : Word := ⟨"/dev/sdb".toList, by decide, noSpace_of_all rfl⟩

/-- A group. -/
def vgWord : Word := ⟨"data".toList, by decide, noSpace_of_all rfl⟩

/-- A logical volume. -/
def lvWord : Word := ⟨"home".toList, by decide, noSpace_of_all rfl⟩

/-- A line that is no record. -/
def missingWarning : CStr := "  WARNING: VG data is missing".toList

-- the fields of the records below

lemma length_pvWords : sdaWord.text.length ≤ 255 ∧ sdbWord.text.length ≤ 255 := by decide

lemma length_vgWords : vgWord.text.length ≤ 63 ∧ lvWord.text.length ≤ 63 := by decide

lemma length_vgWord_of_mem : ∀ w ∈ some vgWord, w.text.length ≤ 63 := by simp [vgWord]

lemma small_lt {n : ℕ} (h : n ≤ 8192) : n < 2 ^ 64 := by omega

lemma newline_notMem_missingWarning : '\n' ∉ missingWarning := by decide

lemma pvListing_missingWarning : (pvListing.scan missingWarning).2 = false := by decide +kernel

lemma vgListing_missingWarning : (vgListing.scan missingWarning).2 = false := by decide +kernel

/-- A volume in a group, a warning, and a volume in none. -/
def pvExample : Table pvListing where
  lines := [.record ⟨sdaWord, 4096, 1024, some vgWord, length_pvWords.1,
      small_lt (Nat.le_of_ble_eq_true rfl), small_lt (Nat.le_of_ble_eq_true rfl),
      length_vgWord_of_mem⟩ twoBlanks,
    .warning missingWarning newline_notMem_missingWarning pvListing_missingWarning,
    .record ⟨sdbWord, 8192, 8192, none, length_pvWords.2, small_lt le_rfl, small_lt le_rfl,
      fun _ h => absurd h (Option.not_mem_none _)⟩ twoBlanks]
  length_lt := by decide +kernel

/-- A warning and a group. -/
def vgExample : Table vgListing where
  lines := [.warning missingWarning newline_notMem_missingWarning vgListing_missingWarning,
    .record ⟨vgWord, 4096, 1024, 1, 1, length_vgWords.1, small_lt (Nat.le_of_ble_eq_true rfl),
      small_lt (Nat.le_of_ble_eq_true rfl), Nat.one_lt_two_pow (Nat.succ_ne_zero 30),
      Nat.one_lt_two_pow (Nat.succ_ne_zero 30)⟩ twoBlanks]
  length_lt := by decide +kernel

/-- A volume without a path. -/
def lvExample : Table lvListing where
  lines :=
    [.record ⟨lvWord, vgWord, 3072, none, length_vgWords.2, length_vgWords.1,
      small_lt (Nat.le_of_ble_eq_true rfl), fun _ h => absurd h (Option.not_mem_none _)⟩ twoBlanks]
  length_lt := by decide +kernel

/-- The warnings are passed over, and the volume in no group is not taken for one in a group. -/
theorem lvm_listings_decode_warning :
    ((lvmPvEntries pvExample.command (fun _ => .zero) 8).2.2 = 2 ∧
        (lvmPvEntries pvExample.command (fun _ => .zero) 8).2.1 1
          = ⟨"/dev/sdb".toList, 8192, 8192, [], false⟩) ∧
      (lvmVgList vgExample.command (fun _ => ⟨[], 0, 0, 0, 0⟩) 8).2.1 0
          = ⟨"data".toList, 4096, 1024, 1, 1⟩ ∧
      (lvmLvList lvExample.command (fun _ => ⟨[], [], 0, [], false, false⟩) 8).2.1 0
          = ⟨"home".toList, "data".toList, 3072, [], false, true⟩ := by
  obtain ⟨hpv, hvg, hlv⟩ := lvm_listings_decode 8 (fun _ => .zero) (fun _ => ⟨[], 0, 0, 0, 0⟩)
    (fun _ => ⟨[], [], 0, [], false, false⟩) pvExample vgExample lvExample
  exact ⟨⟨hpv.count, hpv.entry 1 (by decide) (by decide)⟩, hvg.entry 0 (by decide) (by decide),
    hlv.entry 0 (by decide) (by decide)⟩

/-! ## `lvmPvList` -/

/-- The entry of a line that counts is what `pvScan` reads. -/
lemma countedEntry_pvEntry (line : CStr) : countedEntry pvEntry line = pvScan line := by
  rw [countedEntry, ← pvScan_dropWhile]
  generalize line.dropWhile isSpace = s
  -- how far the conversions get
  cases hname : scanWord 255 s with
  | none => simp [pvEntry, pvConversions, runScan, wordTo, pvScan, hname]
  | some name =>
      cases hsize : scanUnsigned name.2 with
      | none => simp [pvEntry, pvConversions, runScan, wordTo, unsignedTo, pvScan, hname, hsize]
      | some size =>
          cases hfree : scanUnsigned size.2 with
          | none =>
              simp [pvEntry, pvConversions, runScan, wordTo, unsignedTo, pvScan, hname, hsize,
                hfree]
          | some free =>
              cases hvg : scanWord 63 free.2 with
              | none =>
                  simp [pvEntry, pvConversions, runScan, wordTo, unsignedTo, pvScan, hname, hsize,
                    hfree, hvg, PvInfo.zero]
              | some vg =>
                  have hlen : 0 < vg.1.length :=
                    List.length_pos_iff_ne_nil.mpr (ne_nil_of_scanWord hvg)
                  simp [pvEntry, pvConversions, runScan, wordTo, unsignedTo, pvScan, hname, hsize,
                    hfree, hvg, hlen]

/-- `lvmPvList` is the list of the entries up to `*count`, whatever the array held before. -/
theorem lvmPvList_eq_entries (pvs : Option CommandRun) (mem : ℕ → PvInfo) (maxPvs : ℕ) :
    lvmPvList pvs maxPvs =
      ((lvmPvEntries pvs mem maxPvs).1,
        (List.range (lvmPvEntries pvs mem maxPvs).2.2).map (lvmPvEntries pvs mem maxPvs).2.1) := by
  have hcounted : countedEntry pvEntry = pvScan := funext countedEntry_pvEntry
  have hnil : (pvEntry []).2 = false := rfl
  obtain ⟨⟨code, output⟩, hexec⟩ : ∃ e, executeCommand pvs maxOutput = e := ⟨_, rfl⟩
  rw [lvmPvList, lvmPvEntries, lvmList, hexec]
  cases code with
  | success =>
      have hloop := listLoop_spec hnil (Nat.zero_le maxPvs) mem (tokens '\n' (output.getD []))
      rw [hcounted] at hloop
      simp only [pvListLoop_eq maxPvs [] _ (Nat.zero_le _), List.nil_append, List.length_nil,
        Nat.sub_zero, hloop.take_eq]
  | _ => rfl

end Storage

import StorageManager.Lib.Slots
import StorageManager.Volumes.Physical
import StorageManager.Volumes.RaidStatus

/-!
# The members of an array

What `mdadm --detail` prints (`Detail`) is the name of the array and a colon, lines about it, and a
table with a row for each member that ends in its path.  `raid_get_status` finds the numbers by
their labels, but a path anywhere: also in the line with the name, which is the first one.

* `pathsRead_lines` — the paths that get into `device`: those of the lines before the table, while
  fewer than 16 devices are announced, and then the members if fewer than 16 are announced.
* `get_foldl_lines` — the numbers are always those that are printed.
* `raid_members_iff` — when the entries are the members.
-/

namespace Storage

open CString Shell Slots

/-! ## The output -/

namespace DetailKey

/-- The numbers that can be read back. -/
def bound : DetailKey → ℕ
  | arraySize => 2 ^ 64
  | _ => 2 ^ 31

end DetailKey

/-- A line with a number, and what stands around it. -/
structure DetailNumber where
  key : DetailKey
  value : ℕ
  indent : ℕ
  rest : CStr
  value_lt : value < key.bound
  breaks : Breaks rest
  no_colon : ':' ∉ rest
  no_newline : '\n' ∉ rest

/-- Any other line before the table. -/
structure DetailOther where
  text : CStr
  no_newline : '\n' ∉ text
  no_number : ∀ k : DetailKey, k.label <:+: text → k.scan text = none

/-- A line before the table. -/
inductive DetailLine
  | number (n : DetailNumber)
  | other (o : DetailOther)

/-- A row of the table: the columns before the path, and the path. -/
structure MemberRow where
  columns : CStr
  path : Word
  no_slash : '/' ∉ columns
  no_colon : ':' ∉ columns
  no_newline : '\n' ∉ columns
  is_device : "/dev/".toList <+: path.text

/-- The output of `mdadm --detail`. -/
structure Detail where
  array : Word
  props : List DetailLine
  rows : List MemberRow
  nonempty : rows ≠ []
  length_le : rows.length ≤ 16
  nodup : (rows.map (·.path.text)).Nodup

/-- The line as it is printed. -/
def DetailNumber.text (n : DetailNumber) : CStr :=
  blanks n.indent ++ (n.key.caption ++ ':' :: (n.key.lead ++ (decimal n.value ++ n.rest)))

/-- The line as it is printed. -/
def DetailLine.text : DetailLine → CStr
  | number n => n.text
  | other o => o.text

/-- The number a line gives for `k`. -/
def DetailLine.valueOf (k : DetailKey) : DetailLine → Option ℕ
  | number n => if n.key = k then some n.value else none
  | other _ => none

/-- The row as it is printed. -/
def MemberRow.text (r : MemberRow) : CStr := r.columns ++ r.path.text

namespace Detail

variable (d : Detail)

/-- The first line. -/
def header : CStr := d.array.text ++ [':']

/-- The paths of the members, in the order of the table. -/
def members : List CStr := d.rows.map (·.path.text)

/-- All lines. -/
def lines : List CStr := d.header :: (d.props.map (·.text) ++ d.rows.map (·.text))

/-- The output. -/
def text : CStr := d.lines.flatMap fun l => l ++ ['\n']

/-- The number that is printed for `k`: the last one if there are several. -/
def printed (k : DetailKey) : ℕ := (d.props.filterMap (DetailLine.valueOf k)).getLastD 0

end Detail

/-! ## Paths that are not in the table -/

/-- The path in a line without a label. -/
def strayPath (line : CStr) : Option CStr := if Labelled line then none else devicePath line

/-- The paths in the lines before the table, while fewer than 16 devices are announced. -/
def strayPaths (count : ℕ) : List DetailLine → List CStr
  | [] => []
  | .number n :: lines => strayPaths (if n.key = .raidDevices then n.value else count) lines
  | .other o :: lines =>
      (if count < 16 then (strayPath o.text).toList else []) ++ strayPaths count lines

/-- The paths before the table that are taken for members. -/
def Detail.strays (d : Detail) : List CStr := (strayPath d.header).toList ++ strayPaths 0 d.props

/-- The paths before the table are the first members, or all of them if the table is not read, and
none that is read overruns `device`. -/
def Detail.Clean (d : Detail) : Prop :=
  (∀ path ∈ d.strays, path.length < 256) ∧
    if d.printed .raidDevices < 16 then
      (∀ path ∈ d.members, path.length < 256) ∧ d.strays.eraseDups.take 16 <+: d.members
    else d.strays.eraseDups.take 16 = d.members

/-! ## What gets into `device` -/

/-- The paths a run of the loop puts into `device`. -/
def pathsRead (a : RaidArray) : List CStr → List CStr
  | [] => []
  | line :: lines => (deviceRead a line).toList ++ pathsRead (detailLine a line) lines

lemma pathsRead_append (a : RaidArray) (l m : List CStr) :
    pathsRead a (l ++ m) = pathsRead a l ++ pathsRead (l.foldl detailLine a) m := by
  induction l generalizing a with
  | nil => rfl
  | cons line l ih => simp only [List.cons_append, pathsRead, ih, List.append_assoc,
      List.foldl_cons]

lemma foldl_detailLine_devices (a : RaidArray) (lines : List CStr) :
    (lines.foldl detailLine a).devices =
      (pathsRead a lines).foldl DeviceTable.record a.devices := by
  induction lines generalizing a with
  | nil => rfl
  | cons line lines ih =>
      rw [List.foldl_cons, ih, detailLine_devices, pathsRead, List.foldl_append]
      cases deviceRead a line <;> rfl

/-! ## Lines with a number -/

section Number

variable (n : DetailNumber) (a : RaidArray)

/-- A caption is two words. -/
lemma caption_words (k : DetailKey) : ∃ v w : CStr, k.caption = v ++ ' ' :: (w ++ [' ']) ∧
    v ≠ [] ∧ w ≠ [] ∧ (∀ c ∈ v, isSpace c = false) ∧ ∀ c ∈ w, isSpace c = false := by
  cases k
  · exact ⟨"Raid".toList, "Level".toList, rfl, by decide, by decide, noSpace_of_all rfl,
      noSpace_of_all rfl⟩
  · exact ⟨"Raid".toList, "Devices".toList, rfl, by decide, by decide, noSpace_of_all rfl,
      noSpace_of_all rfl⟩
  · exact ⟨"Failed".toList, "Devices".toList, rfl, by decide, by decide, noSpace_of_all rfl,
      noSpace_of_all rfl⟩
  · exact ⟨"Active".toList, "Devices".toList, rfl, by decide, by decide, noSpace_of_all rfl,
      noSpace_of_all rfl⟩
  · exact ⟨"Array".toList, "Size".toList, rfl, by decide, by decide, noSpace_of_all rfl,
      noSpace_of_all rfl⟩

lemma scanFormat_lead (k : DetailKey) {c : Char} (hc : isSpace c = false) (s : CStr) :
    scanFormat k.lead (k.lead ++ c :: s) = some (c :: s) := by
  have hblank : scanFormat [' '] ([' '] ++ c :: s) = some (c :: s) := by
    have hspace : isSpace ' ' = true := rfl
    have hskip : ([' '] ++ c :: s).dropWhile isSpace = c :: s := by simp [hspace, hc]
    rw [scanFormat_blank, hskip, scanFormat_nil]
  cases k with
  | raidLevel =>
      have hraid := scanFormat_word (b := [' ']) (w := "raid".toList)
        (List.forall_mem_singleton.mpr rfl) (noSpace_of_all rfl) (by decide) [] (c :: s)
      rwa [List.append_nil, scanFormat_nil] at hraid
  | _ => exact hblank

/-- The format finds the number behind its label. -/
lemma scanFormat_format (k : DetailKey) (indent : ℕ) {c : Char} (hc : isSpace c = false)
    (s : CStr) :
    scanFormat k.format (blanks indent ++ (k.caption ++ ':' :: (k.lead ++ c :: s))) =
      some (c :: s) := by
  obtain ⟨v, w, hcaption, hv, hw, hvs, hws⟩ := caption_words k
  have hcolon : ∀ c ∈ [':'], isSpace c = false := List.forall_mem_singleton.mpr rfl
  have hblank : ∀ c ∈ [' '], isSpace c = true := List.forall_mem_singleton.mpr rfl
  have hformat : k.format = ' ' :: (v ++ ' ' :: (w ++ ' ' :: ([':'] ++ k.lead))) := by
    simp [DetailKey.format, DetailKey.label, hcaption]
  have htext : k.caption ++ ':' :: (k.lead ++ c :: s) =
      v ++ ([' '] ++ (w ++ ([' '] ++ ([':'] ++ (k.lead ++ c :: s))))) := by
    simp [hcaption]
  rw [hformat, htext, scanFormat_word (fun _ => isSpace_of_mem_blanks) hvs hv,
    scanFormat_word hblank hws hw, scanFormat_word hblank hcolon (by decide), scanFormat_lead k hc]

/-- The number in a line is read back. -/
lemma scan_text : n.key.scan n.text = some (n.value : ℤ) := by
  have hdigits : ∀ c ∈ decimal n.value, c.isDigit = true := fun _ => isDigit_of_mem_decimal
  obtain ⟨c, ds, hds⟩ := List.exists_cons_of_ne_nil (decimal_ne_nil n.value)
  have hc : isSpace c = false :=
    not_isSpace_of_isDigit (hdigits c (hds ▸ List.mem_cons_self))
  have hformat : scanFormat n.key.format n.text = some (decimal n.value ++ n.rest) := by
    rw [DetailNumber.text, hds]
    exact scanFormat_format n.key n.indent hc (ds ++ n.rest)
  have hlt := n.value_lt
  rw [DetailKey.scan, hformat, Option.bind_some]
  cases hkey : n.key with
  | arraySize =>
      have hscan := scanUnsigned_append (decimal_ne_nil n.value) hdigits n.breaks
      have hsat : saturate64 n.value = n.value := by
        rw [hkey] at hlt
        exact min_eq_left (Nat.le_pred_of_lt hlt)
      rw [decimal, Nat.ofDigitChars_ten_toDigits, ← decimal, hsat] at hscan
      rw [DetailKey.scanValue, hscan]
      rfl
  | _ =>
      have hscan := scanNumber_append (fun m => asInt (-(m : ℤ))) (fun m => asInt m)
        (decimal_ne_nil n.value) hdigits n.breaks
      rw [hkey] at hlt
      rw [decimal, Nat.ofDigitChars_ten_toDigits, ← decimal, asInt_of_small hlt] at hscan
      have hvalue : (scanSigned (decimal n.value ++ n.rest)).map (fun p => p.1) =
          some (n.value : ℤ) := by
        rw [scanSigned, hscan]
        rfl
      exact hvalue

lemma colon_notMem_rest : ':' ∉ n.key.lead ++ (decimal n.value ++ n.rest) := by
  simp only [List.mem_append, not_or]
  refine ⟨by cases n.key <;> decide, fun h => ?_, n.no_colon⟩
  exact absurd (isDigit_of_mem_decimal h) (by decide)

lemma detailLine_text : detailLine a n.text = a.set n.value n.key := by
  have hread := detailLine_number (a := a) n.key (colon_notMem_rest n) n.indent
  rw [← DetailNumber.text] at hread
  rw [hread, RaidArray.read, scan_text]

lemma labelled_text : Labelled n.text :=
  ⟨_, caption_mem n.key, (label_infix_iff (caption_mem n.key) (caption_mem n.key)
    (colon_notMem_rest n) n.indent).mpr rfl⟩

lemma deviceRead_text : deviceRead a n.text = none := if_pos (Or.inl (labelled_text n))

end Number

/-! ## The first line and the table -/

/-- There is no label where no blank stands before a colon. -/
lemma not_labelled_of {line : CStr} (h : ¬ [' ', ':'] <:+: line) : ¬ Labelled line := by
  rintro ⟨l, hl, hsub⟩
  exact h ((blank_colon_infix_label l hl).trans hsub)

lemma not_labelled_header (d : Detail) : ¬ Labelled d.header := by
  refine not_labelled_of fun h => ?_
  have hmem : ' ' ∈ d.header := h.subset List.mem_cons_self
  rcases List.mem_append.mp hmem with hmem | hmem
  · exact absurd (d.array.noSpace ' ' hmem) (by decide)
  · exact absurd (List.mem_singleton.mp hmem) (by decide)

section Row

variable (r : MemberRow)

lemma not_labelled_row : ¬ Labelled r.text := by
  refine not_labelled_of fun h => ?_
  have hblank : ' ' ∉ r.path.text := fun hmem => absurd (r.path.noSpace ' ' hmem) (by decide)
  have hhead := pair_infix_append h r.no_colon hblank
  obtain ⟨s, hs⟩ := r.is_device
  rw [← hs] at hhead
  exact absurd hhead (by simp)

lemma devicePath_row : devicePath r.text = some r.path.text := by
  have hword : r.path.text.takeWhile (fun c => !isSpace c) = r.path.text :=
    List.takeWhile_eq_self_iff.mpr fun c hc => by simp [r.path.noSpace c hc]
  rw [devicePath, MemberRow.text, strstr_append rfl r.no_slash r.is_device, Option.map_some, hword]

lemma deviceRead_row (a : RaidArray) :
    deviceRead a r.text = if a.numDevices < 16 then some r.path.text else none := by
  unfold deviceRead
  rcases lt_or_ge a.numDevices 16 with h | h
  · rw [if_neg (not_or.mpr ⟨not_labelled_row r, not_le.mpr h⟩), if_pos h, devicePath_row]
  · rw [if_pos (Or.inr h), if_neg (not_lt.mpr h)]

end Row

/-! ## A run over the output -/

section Run

variable {a : RaidArray}

lemma detailLine_get_of_not_labelled {line : CStr} (h : ¬ Labelled line) (k : DetailKey) :
    (detailLine a line).get k = a.get k :=
  detailLine_get a (fun j hj => absurd ⟨_, caption_mem j, hj⟩ h) k

lemma RaidArray.get_set (v : ℕ) (j k : DetailKey) :
    (a.set v j).get k = if j = k then (v : ℤ) else a.get k := by
  cases j <;> cases k <;> rfl

lemma get_foldl_props (props : List DetailLine) (k : DetailKey) :
    ((props.map (·.text)).foldl detailLine a).get k =
      ((props.filterMap (DetailLine.valueOf k)).map (fun v : ℕ => (v : ℤ))).getLastD (a.get k) := by
  induction props generalizing a with
  | nil => rfl
  | cons line props ih =>
      rw [List.map_cons, List.foldl_cons, ih]
      cases line with
      | number n =>
          rw [DetailLine.text, detailLine_text, RaidArray.get_set]
          by_cases hkey : n.key = k
          · have hvalue : DetailLine.valueOf k (.number n) = some n.value := if_pos hkey
            rw [List.filterMap_cons_some hvalue, List.map_cons, List.getLastD_cons, if_pos hkey]
          · have hvalue : DetailLine.valueOf k (.number n) = none := if_neg hkey
            rw [List.filterMap_cons_none hvalue, if_neg hkey]
      | other o =>
          rw [DetailLine.text, detailLine_get a o.no_number]
          simp [DetailLine.valueOf]

lemma get_foldl_rows (rows : List MemberRow) (k : DetailKey) :
    ((rows.map (·.text)).foldl detailLine a).get k = a.get k := by
  induction rows generalizing a with
  | nil => rfl
  | cons r rows ih =>
      rw [List.map_cons, List.foldl_cons, ih, detailLine_get_of_not_labelled (not_labelled_row r)]

/-- The numbers after a run that began with zeros. -/
lemma get_foldl_lines (d : Detail) (ha : ∀ k, a.get k = 0) (k : DetailKey) :
    (d.lines.foldl detailLine a).get k = d.printed k := by
  rw [Detail.lines, List.foldl_cons, List.foldl_append, get_foldl_rows, get_foldl_props,
    detailLine_get_of_not_labelled (not_labelled_header d), ha, Detail.printed]
  exact List.getLastD_map (f := fun v : ℕ => (v : ℤ)) (a := 0)

lemma pathsRead_props {count : ℕ} (h : a.numDevices = count) (props : List DetailLine) :
    pathsRead a (props.map (·.text)) = strayPaths count props := by
  induction props generalizing a count with
  | nil => rfl
  | cons line props ih =>
      rw [List.map_cons, pathsRead]
      cases line with
      | number n =>
          have hcount : (a.set n.value n.key).numDevices =
              ((if n.key = .raidDevices then n.value else count : ℕ) : ℤ) := by
            have hget := RaidArray.get_set (a := a) n.value n.key .raidDevices
            rw [Nat.cast_ite, ← h]
            exact hget
          rw [DetailLine.text, deviceRead_text, detailLine_text, ih hcount]
          rfl
      | other o =>
          have hcount : (detailLine a o.text).numDevices = count :=
            (detailLine_get a o.no_number .raidDevices).trans h
          have hread : (deviceRead a o.text).toList =
              if count < 16 then (strayPath o.text).toList else [] := by
            rw [deviceRead, strayPath, h]
            rcases lt_or_ge count 16 with hlt | hge
            · rw [if_pos hlt]
              congr 1
              simp only [or_iff_left (show ¬ (16 : ℤ) ≤ count by omega)]
            · rw [if_neg (not_lt.mpr hge), if_pos (Or.inr (by omega))]
              rfl
          rw [DetailLine.text, ih hcount, strayPaths, hread]

lemma pathsRead_rows (rows : List MemberRow) :
    pathsRead a (rows.map (·.text)) =
      if a.numDevices < 16 then rows.map (·.path.text) else [] := by
  induction rows generalizing a with
  | nil => simp [pathsRead]
  | cons r rows ih =>
      have hcount : (detailLine a r.text).numDevices = a.numDevices :=
        detailLine_get_of_not_labelled (not_labelled_row r) .raidDevices
      rw [List.map_cons, pathsRead, ih, hcount, deviceRead_row]
      split_ifs <;> rfl

/-- **The paths that get into `device`.** -/
lemma pathsRead_lines (d : Detail) (ha : ∀ k, a.get k = 0) :
    pathsRead a d.lines =
      d.strays ++ if d.printed .raidDevices < 16 then d.members else [] := by
  have hzero : a.numDevices = 0 := ha .raidDevices
  have hheader : deviceRead a d.header = strayPath d.header := by
    rw [deviceRead, strayPath, hzero, if_neg (not_labelled_header d),
      if_neg (not_or.mpr ⟨not_labelled_header d, by decide⟩)]
  have hfirst : ∀ k, (detailLine a d.header).get k = 0 := fun k =>
    (detailLine_get_of_not_labelled (not_labelled_header d) k).trans (ha k)
  have hcount : ((d.props.map (·.text)).foldl detailLine (detailLine a d.header)).numDevices =
      d.printed .raidDevices := by
    have hlines := get_foldl_lines d ha .raidDevices
    rw [Detail.lines, List.foldl_cons, List.foldl_append, get_foldl_rows] at hlines
    exact hlines
  have hnone : (detailLine a d.header).numDevices = (0 : ℕ) := hfirst .raidDevices
  have hlt : ((d.printed .raidDevices : ℕ) : ℤ) < 16 ↔ d.printed .raidDevices < 16 := by omega
  rw [Detail.lines, pathsRead, pathsRead_append, pathsRead_rows, hheader, hcount,
    pathsRead_props hnone, Detail.strays, List.append_assoc]
  simp only [hlt, Detail.members]

lemma pathsRead_filter (lines : List CStr) :
    pathsRead a (lines.filter (· ≠ [])) = pathsRead a lines := by
  have hnone : ∀ b : RaidArray, deviceRead b [] = none := fun b => by
    rw [deviceRead]
    split_ifs <;> rfl
  induction lines generalizing a with
  | nil => rfl
  | cons line lines ih =>
      by_cases hline : line = []
      · rw [hline, List.filter_cons_of_neg (by simp), pathsRead, hnone, ih]
        rfl
      · rw [List.filter_cons_of_pos (by simpa using hline), pathsRead, pathsRead, ih]

end Run

/-! ## The table -/

section Table

variable {a : RaidArray} {t : DeviceTable}

lemma devicePath_ne_nil {line path : CStr} (h : devicePath line = some path) : path ≠ [] := by
  obtain ⟨devStart, hstart, rfl⟩ := Option.map_eq_some_iff.mp h
  obtain ⟨s, rfl⟩ := prefix_of_strstr hstart
  exact List.cons_ne_nil _ _

lemma ne_nil_of_mem_pathsRead {lines : List CStr} {path : CStr} (h : path ∈ pathsRead a lines) :
    path ≠ [] := by
  induction lines generalizing a with
  | nil => exact absurd h List.not_mem_nil
  | cons line lines ih =>
      rcases List.mem_append.mp h with h | h
      · have hread := Option.mem_toList.mp h
        rw [deviceRead] at hread
        split_ifs at hread
        exact devicePath_ne_nil hread
      · exact ih h

/-- A path that fits is recorded as it is. -/
lemma record_entries {device : CStr} (hne : device ≠ []) (hlen : device.length < 256) :
    (t.record device).entries = addNew 16 t.entries device := by
  unfold DeviceTable.record addNew
  by_cases hnew : device ∉ t.entries ∧ t.entries.length < 16
  · rw [dif_pos ⟨hnew.1, hnew.2, hne⟩, if_pos hnew]
    exact congrArg (fun d => t.entries ++ [d]) (fit_of_lt hlen)
  · rw [dif_neg fun h => hnew ⟨h.1, h.2.1⟩, if_neg hnew]

lemma foldl_record_entries {devices : List CStr} (hne : ∀ d ∈ devices, d ≠ [])
    (hlen : ∀ d ∈ devices, d.length < 256) :
    (devices.foldl DeviceTable.record t).entries = devices.foldl (addNew 16) t.entries := by
  induction devices generalizing t with
  | nil => rfl
  | cons device devices ih =>
      rw [List.forall_mem_cons] at hne hlen
      rw [List.foldl_cons, ih hne.2 hlen.2, record_entries hne.1 hlen.1, List.foldl_cons]

/-- Unless a path overruns `device`, the entries are the first sixteen that are read. -/
lemma foldl_detailLine_entries (ha : a.devices = .empty) {lines : List CStr}
    (hlen : ∀ path ∈ pathsRead a lines, path.length < 256) :
    (lines.foldl detailLine a).devices.entries = (pathsRead a lines).eraseDups.take 16 := by
  rw [foldl_detailLine_devices, ha,
    foldl_record_entries (fun _ => ne_nil_of_mem_pathsRead) hlen]
  exact foldl_addNew List.nodup_nil (Nat.zero_le 16) (pathsRead a lines)

end Table

/-! ## The members -/

/-- No path that is read overruns `device`, and the entries are the members. -/
lemma entries_eq_members_iff {a : RaidArray} (hnum : ∀ k, a.get k = 0) (hdev : a.devices = .empty)
    (d : Detail) :
    ((∀ path ∈ pathsRead a d.lines, path.length < 256) ∧
      (d.lines.foldl detailLine a).devices.entries = d.members) ↔ d.Clean := by
  have hentries : (∀ path ∈ pathsRead a d.lines, path.length < 256) →
      (d.lines.foldl detailLine a).devices.entries = (pathsRead a d.lines).eraseDups.take 16 :=
    foldl_detailLine_entries hdev
  rw [and_congr_right fun h => by rw [hentries h], pathsRead_lines d hnum, Detail.Clean]
  split_ifs with hcount
  · have hlen : d.members.length ≤ 16 := by
      rw [Detail.members, List.length_map]
      exact d.length_le
    have hnodup : d.members.Nodup := d.nodup
    rw [List.forall_mem_append, take_eraseDups_append_iff hnodup hlen, and_assoc]
  · rw [List.append_nil]

lemma newline_notMem_lines (d : Detail) : ∀ l ∈ d.lines, '\n' ∉ l := by
  intro l hl
  simp only [Detail.lines, List.mem_cons, List.mem_append, List.mem_map] at hl
  rcases hl with rfl | ⟨line, -, rfl⟩ | ⟨r, -, rfl⟩
  · simp [Detail.header, d.array.newline_notMem]
  · cases line with
    | other o => exact o.no_newline
    | number n =>
        simp only [DetailLine.text, DetailNumber.text, List.mem_append, List.mem_cons, not_or]
        refine ⟨notMem_blanks (by decide) _, ?_, by decide, ?_, newline_notMem_decimal _,
          n.no_newline⟩
        · cases n.key <;> decide
        · cases n.key <;> decide
  · simp [MemberRow.text, r.no_newline, r.path.newline_notMem]

/-- **The entries are the members** and the numbers those that are printed, exactly if the paths in
the lines before the table are the first members of it — or all of them when 16 devices or more are
announced, since the table is then skipped — and the paths that are read fit into `device`. -/
theorem raid_members_iff {β : Type*} (env : FsEnv β) (p : NamePtr) (a : RaidArray) (d : Detail)
    (hfile : env.fileExists (p.read a) = true)
    (hrun : env.popen (fit maxCommand (detailText (p.read a))) = some ⟨d.text, .exited 0⟩)
    (hlen : d.text.length < maxOutput - 1) :
    ((∀ path ∈ pathsRead (RaidArray.zero.setName (p.read .zero)) (tokens '\n' d.text),
        path.length < 256) ∧
      (raidGetStatus env p a).1 = .success ∧
      (raidGetStatus env p a).2.devices.entries = d.members ∧
      ∀ k, (raidGetStatus env p a).2.get k = d.printed k) ↔ d.Clean := by
  set start := RaidArray.zero.setName (p.read .zero) with hstart
  have hnum : ∀ k, start.get k = 0 := fun k => by cases k <;> rfl
  have hlines : tokens '\n' d.text = d.lines.filter (· ≠ []) :=
    tokens_lines (newline_notMem_lines d)
  have hresult : raidGetStatus env p a = (.success, d.lines.foldl detailLine start) := by
    rw [raidGetStatus_of_detailed hfile hrun rfl, captured_of_lt hlen, parseDetail, hlines,
      foldl_detailLine_filter]
  rw [hresult, hlines, pathsRead_filter, ← entries_eq_members_iff hnum rfl d]
  constructor
  · rintro ⟨hfits, -, hentries, -⟩
    exact ⟨hfits, hentries⟩
  · rintro ⟨hfits, hentries⟩
    exact ⟨hfits, rfl, hentries, get_foldl_lines d hnum⟩

/-- The columns before the path of the first member. -/
def sdbColumns : CStr := "  0  8  16  0  active sync  ".toList

/-- The columns before the path of the second member. -/
def sdcColumns : CStr := "  1  8  32  1  active sync  ".toList

/-- The path of the first member. -/
def sdbPath : CStr := "/dev/sdb".toList

/-- The path of the second member. -/
def sdcPath : CStr := "/dev/sdc".toList

lemma sdbColumns_plain : '/' ∉ sdbColumns ∧ ':' ∉ sdbColumns ∧ '\n' ∉ sdbColumns := by decide

lemma sdcColumns_plain : '/' ∉ sdcColumns ∧ ':' ∉ sdcColumns ∧ '\n' ∉ sdcColumns := by decide

lemma paths_ne_nil : sdbPath ≠ [] ∧ sdcPath ≠ [] := by decide

lemma paths_device : "/dev/".toList <+: sdbPath ∧ "/dev/".toList <+: sdcPath := by decide

lemma paths_nodup : [sdbPath, sdcPath].Nodup := by decide

lemma colon_notMem_noRest : ':' ∉ ([] : CStr) := List.not_mem_nil

lemma newline_notMem_noRest : '\n' ∉ ([] : CStr) := List.not_mem_nil

lemma two_lt_bound : 2 < DetailKey.raidDevices.bound := by decide

/-- Two members, under this name of the array. -/
def twoMembers (array : Word) : Detail where
  array := array
  props := [.number ⟨.raidDevices, 2, 3, [], two_lt_bound, breaks_nil, colon_notMem_noRest,
    newline_notMem_noRest⟩]
  rows := [⟨sdbColumns, ⟨sdbPath, paths_ne_nil.1, noSpace_of_all rfl⟩, sdbColumns_plain.1,
      sdbColumns_plain.2.1, sdbColumns_plain.2.2, paths_device.1⟩,
    ⟨sdcColumns, ⟨sdcPath, paths_ne_nil.2, noSpace_of_all rfl⟩, sdcColumns_plain.1,
      sdcColumns_plain.2.1, sdcColumns_plain.2.2, paths_device.2⟩]
  nonempty := List.cons_ne_nil _ _
  length_le := Nat.le_of_ble_eq_true rfl
  nodup := paths_nodup

/-- An array that is not named by a path under `/dev`. -/
def relativeName : Word := ⟨"md0".toList, by decide, noSpace_of_all rfl⟩

/-- An array that is. -/
def devName : Word := ⟨"/dev/md0".toList, by decide, noSpace_of_all rfl⟩

/-- An array that is not named by its path: the members are those of the table. -/
theorem raid_members_relative :
    (twoMembers relativeName).Clean ∧
      (raidGetStatus (printingEnv (twoMembers relativeName).text) (.copy "md0".toList)
        .zero).2.devices.entries = ["/dev/sdb".toList, "/dev/sdc".toList] :=
  have hclean : (twoMembers relativeName).Clean :=
    ⟨by decide +kernel, by rw [if_pos (by decide +kernel)]; decide +kernel⟩
  ⟨hclean, ((raid_members_iff (printingEnv (twoMembers relativeName).text) (.copy "md0".toList)
    .zero (twoMembers relativeName) rfl rfl (by decide +kernel)).mpr hclean).2.2.1⟩

/-- The line with the name of the array is a member. -/
theorem raid_members_header :
    ¬ ∀ (env : FsEnv Unit) (p : NamePtr) (a : RaidArray) (d : Detail),
      env.fileExists (p.read a) = true →
      env.popen (fit maxCommand (detailText (p.read a))) = some ⟨d.text, .exited 0⟩ →
      d.text.length < maxOutput - 1 →
      (∀ path ∈ pathsRead (RaidArray.zero.setName (p.read .zero)) (tokens '\n' d.text),
          path.length < 256) ∧
        (raidGetStatus env p a).1 = .success ∧
        (raidGetStatus env p a).2.devices.entries = d.members ∧
        ∀ k, (raidGetStatus env p a).2.get k = d.printed k := by
  intro hclaim
  have hentries := (hclaim (printingEnv (twoMembers devName).text) (.copy "/dev/md0".toList) .zero
    (twoMembers devName) rfl rfl (by decide +kernel)).2.2.1
  have hread : (raidGetStatus (printingEnv (twoMembers devName).text) (.copy "/dev/md0".toList)
      .zero).2.devices.entries = ["/dev/md0:".toList, "/dev/sdb".toList, "/dev/sdc".toList] := by
    decide +kernel
  rw [hread] at hentries
  exact absurd hentries (by decide +kernel)

end Storage

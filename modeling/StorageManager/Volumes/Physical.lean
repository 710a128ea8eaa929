import StorageManager.Common
import StorageManager.Lib.ShellLine
import Mathlib.Data.List.Nodup

/-!
# Physical volumes

`lvm_pv_remove` runs `pvremove -f` unless the volume is in use, and finds that out from the output
of `pvs`: `execute_command` keeps the beginning of it, `lvm_pv_list` reads it line by line into 32
entries and turns an error into an empty list, `lvm_pv_info` looks for the name.  Whatever is lost
on the way is a volume not in use.

A line is in columns (`Pv.line`); `pvScan_take` says what is read of one that breaks off, and
`mem_take_readLines` which lines the 32 entries come from.  `shown_iff` puts in figures which
volumes get through.

The name goes into the command as it is, so that what is removed depends on the words the shell
makes of the line.  `pv_remove_spares_used_iff` is about those: no word is the name of a volume in
use exactly when the volume is not in use or its line gets through, for a name that is one word.
-/

namespace Storage

open CString Shell

/-! ## The functions -/

/-- `pv_info_t`. -/
structure PvInfo where
  name : CStr
  sizeBytes : ℕ
  freeBytes : ℕ
  vgName : CStr
  isAllocated : Bool
  deriving DecidableEq

/-- `sscanf (line, "%255s %llu %llu %63s", ..)`, as far as `lvm_pv_list` uses it: nothing unless
three conversions succeed. -/
def pvScan (line : CStr) : Option PvInfo :=
  (scanWord 255 line).bind fun name =>
    (scanUnsigned name.2).bind fun size =>
      (scanUnsigned size.2).map fun free =>
        match scanWord 63 free.2 with
        | some vg => ⟨name.1, size.1, free.1, fit 64 vg.1, true⟩
        | none => ⟨name.1, size.1, free.1, [], false⟩

/-- The loop of `lvm_pv_list`, when `pvs` is filled so far. -/
def pvListLoop (maxPvs : ℕ) (pvs : List PvInfo) : List CStr → List PvInfo
  | [] => pvs
  | line :: lines =>
      if pvs.length < maxPvs then
        let line := line.dropWhile isSpace
        pvListLoop maxPvs (if 0 < line.length then pvs ++ (pvScan line).toList else pvs) lines
      else pvs

/-- The command of `lvm_pv_list`. -/
def pvsText : CStr :=
  "pvs --noheadings --units b --nosuffix -o pv_name,pv_size,pv_free,vg_name 2>&1".toList

/-- `lvm_pv_list`, given what becomes of the `pvs` command. -/
def lvmPvList (pvs : Option CommandRun) (maxPvs : ℕ) : Ret × List PvInfo :=
  match executeCommand pvs maxOutput with
  | (.success, output) => (.success, pvListLoop maxPvs [] (tokens '\n' (output.getD [])))
  | _ => (.success, [])

/-- `lvm_pv_info`. -/
def lvmPvInfo (pvs : Option CommandRun) (name : CStr) : Ret × Option PvInfo :=
  match lvmPvList pvs 32 with
  | (.success, list) =>
      match list.find? fun pv => pv.name = name with
      | some info => (.success, some info)
      | none => (.errorNotFound, none)
  | (ret, _) => (ret, none)

/-- `pvremove -f %s 2>&1`. -/
def pvremoveText (name : CStr) : CStr := "pvremove -f ".toList ++ (name ++ errToOut)

/-- `lvm_pv_remove`: the code it returns and the `pvremove` command it runs, if it does. -/
def lvmPvRemove (isRoot : Bool) (pvs : Option CommandRun) (name : CStr)
    (pvremove : Option CommandRun) : Ret × Option CStr :=
  if isRoot = false then (.errorPermission, none)
  else
    let info := lvmPvInfo pvs name
    if info.1 = .success ∧ (info.2.map (·.isAllocated)).getD false = true then
      (.errorGeneric, none)
    else ((executeCommand pvremove maxOutput).1, some (fit maxCommand (pvremoveText name)))

/-! ## The system -/

/-- A name as the tools print it. -/
structure Word where
  text : CStr
  ne_nil : text ≠ []
  noSpace : ∀ c ∈ text, isSpace c = false

lemma Word.newline_notMem (w : Word) : '\n' ∉ w.text := fun h =>
  absurd (w.noSpace _ h) (by decide)

/-- A physical volume, and the widths of the blanks in its line. -/
structure Pv where
  name : Word
  size : ℕ
  free : ℕ
  vg : Option Word
  lead : ℕ
  sizeGap : ℕ
  freeGap : ℕ
  vgGap : ℕ
  trail : ℕ

namespace Pv

/-- The rest of the line after the free space. -/
def vgText (p : Pv) : CStr :=
  match p.vg with
  | some vg => blanks (p.vgGap + 1) ++ (vg.text ++ blanks p.trail)
  | none => blanks p.trail

/-- The rest of the line after the size. -/
def freeText (p : Pv) : CStr := blanks (p.freeGap + 1) ++ (decimal p.free ++ p.vgText)

/-- The rest of the line after the name. -/
def sizeText (p : Pv) : CStr := blanks (p.sizeGap + 1) ++ (decimal p.size ++ p.freeText)

/-- The line `pvs` prints. -/
def line (p : Pv) : CStr := blanks p.lead ++ (p.name.text ++ p.sizeText)

/-- Where the free space is in the line. -/
def freeColumn (p : Pv) : ℕ :=
  p.lead + p.name.text.length + (p.sizeGap + 1) + (decimal p.size).length + (p.freeGap + 1)

/-- Where the name of the volume group is. -/
def vgColumn (p : Pv) : ℕ := p.freeColumn + (decimal p.free).length + (p.vgGap + 1)

end Pv

/-- Physical volumes with names of their own. -/
structure PvSystem where
  pvs : List Pv
  nodup : (pvs.map (·.name.text)).Nodup

/-- The output of `pvs`. -/
def pvsOutput (pvs : List Pv) : CStr := pvs.flatMap fun p => p.line ++ ['\n']

/-- The volume called `name` belongs to a volume group. -/
def PvSystem.InUse (sys : PvSystem) (name : CStr) : Prop :=
  ∃ p ∈ sys.pvs, p.name.text = name ∧ p.vg.isSome = true

/-- What becomes of the `pvs` command on this system. -/
def PvSystem.pvsRun (sys : PvSystem) (status : Option ExitStatus) : Option CommandRun :=
  status.map fun st => ⟨pvsOutput sys.pvs, st⟩

/-- How much of the output of `pvs` is kept. -/
def PvSystem.kept (sys : PvSystem) : ℕ := (captured maxOutput (pvsOutput sys.pvs)).length

/-- The volume called `name` is in a group, on one of the first 32 lines, its name fits the entry
and the name of its group begins within what is kept of the output. -/
def PvSystem.Listed (sys : PvSystem) (name : CStr) : Prop :=
  ∃ pre p post, sys.pvs = pre ++ p :: post ∧ p.name.text = name ∧ name.length ≤ 255 ∧
    p.vg.isSome = true ∧ pre.length < 32 ∧ (pvsOutput pre).length + p.vgColumn < sys.kept

/-- The command, if one is run, is a `pvremove` and none of its operands is a volume in use. -/
def PvSystem.Spares (sys : PvSystem) (run : Option CStr) : Prop :=
  ∀ cmd, run = some cmd → ∃ names, Shell.command cmd =
    some ("pvremove".toList :: "-f".toList :: names) ∧ ∀ w ∈ names, ¬ sys.InUse w

/-- The name is one word of the command, and no option; the command fits its buffer. -/
def RemovableName (name : CStr) : Prop :=
  (Piece.bare name).Ok ∧ isOperand name = true ∧ (pvremoveText name).length < maxCommand

/-- There is a line with fewer than 32 readable ones before it that is read, as far as it is kept,
as that of a volume called `name` with a group. -/
def PvSystem.Shown (sys : PvSystem) (name : CStr) : Prop :=
  ∃ pre p post, sys.pvs = pre ++ p :: post ∧
    (pre.filterMap fun q => pvScan q.line).length < 32 ∧
    ∃ info, pvScan (p.line.take (sys.kept - (pvsOutput pre).length)) = some info ∧
      info.name = name ∧ info.isAllocated = true

/-! ## Reading a line -/

lemma pvScan_dropWhile (line : CStr) : pvScan (line.dropWhile isSpace) = pvScan line := by
  rw [pvScan, scanWord_dropWhile, pvScan]

lemma pvScan_nil : pvScan [] = none := rfl

section Line

variable (p : Pv)

lemma breaks_vgText : Breaks p.vgText := by
  unfold Pv.vgText
  cases p.vg with
  | some vg => exact breaks_blanks_append _ _
  | none =>
      cases p.trail with
      | zero => exact breaks_nil
      | succ n =>
          have h := breaks_blanks_append n []
          rwa [List.append_nil] at h

lemma breaks_freeText : Breaks p.freeText := breaks_blanks_append _ _

lemma breaks_sizeText : Breaks p.sizeText := breaks_blanks_append _ _

/-- The name of the group is read when the line goes on past its column. -/
lemma scanWord_vgText_take (j : ℕ) :
    (scanWord 63 (p.vgText.take j)).isSome = true ↔ p.vg.isSome = true ∧ p.vgGap + 1 < j := by
  rw [← Option.ne_none_iff_isSome, ne_eq, scanWord_eq_none_iff (by decide)]
  cases hvg : p.vg with
  | none =>
      have hspace : ∀ c ∈ p.vgText.take j, isSpace c = true := by
        intro c hc
        rw [Pv.vgText, hvg] at hc
        exact isSpace_of_mem_blanks (List.mem_of_mem_take hc)
      exact iff_of_false (fun h => h hspace) fun h => Bool.false_ne_true h.1
  | some vg =>
      rw [Pv.vgText, hvg]
      by_cases hj : j ≤ p.vgGap + 1
      · have hspace := take_column_of_le (vg.text ++ blanks p.trail) hj
        exact iff_of_false (fun h => h hspace) fun h => by omega
      · obtain ⟨c, w, hw⟩ := List.exists_cons_of_ne_nil vg.ne_nil
        have hmem : c ∈ (blanks (p.vgGap + 1) ++ (vg.text ++ blanks p.trail)).take j := by
          rw [take_column _ _ _ _ (by omega), hw]
          obtain ⟨i, hi⟩ : ∃ i, j - (p.vgGap + 1) = i + 1 := ⟨j - (p.vgGap + 1) - 1, by omega⟩
          rw [hi, List.take_succ_cons]
          simp
        have hc : isSpace c = false := vg.noSpace c (by simp [hw])
        refine iff_of_true (fun hall => ?_) ⟨rfl, by omega⟩
        rw [hall c hmem] at hc
        exact absurd hc (by decide)

/-- **A line that breaks off** after `k` characters, for a name that fits. -/
lemma pvScan_take (hname : p.name.text.length ≤ 255) (k : ℕ) :
    (k ≤ p.freeColumn → pvScan (p.line.take k) = none) ∧
      (p.freeColumn < k → ∃ info, pvScan (p.line.take k) = some info ∧ info.name = p.name.text ∧
        (info.isAllocated = true ↔ p.vg.isSome = true ∧ p.vgColumn < k)) := by
  have hdigits : ∀ n, ∀ c ∈ decimal n, c.isDigit = true := fun n c => isDigit_of_mem_decimal
  obtain ⟨k₁, hk₁⟩ : ∃ j, k - p.lead - p.name.text.length = j := ⟨_, rfl⟩
  obtain ⟨k₂, hk₂⟩ : ∃ j, k₁ - (p.sizeGap + 1) - (decimal p.size).length = j := ⟨_, rfl⟩
  obtain ⟨k₃, hk₃⟩ : ∃ j, k₂ - (p.freeGap + 1) - (decimal p.free).length = j := ⟨_, rfl⟩
  -- each conversion finds its column, or the end of the text
  have hword := scanWord_take p.name.ne_nil p.name.noSpace hname (breaks_sizeText p) k p.lead
  have hsize := scanUnsigned_take (decimal_ne_nil p.size) (hdigits _) (breaks_freeText p) k₁
    (p.sizeGap + 1)
  have hfree := scanUnsigned_take (decimal_ne_nil p.free) (hdigits _) (breaks_vgText p) k₂
    (p.freeGap + 1)
  rw [hk₁, ← Pv.line] at hword
  rw [hk₂, ← Pv.sizeText] at hsize
  rw [hk₃, ← Pv.freeText] at hfree
  unfold Pv.vgColumn Pv.freeColumn
  constructor
  · intro hk
    rw [pvScan, hword]
    split_ifs with hlead
    · rfl
    rw [Option.bind_some, hsize]
    split_ifs with hgap
    · rfl
    rw [Option.bind_some, hfree, if_pos (by omega)]
    rfl
  · intro hk
    have hvg := scanWord_vgText_take p k₃
    rw [pvScan, hword, if_neg (by omega), Option.bind_some, hsize, if_neg (by omega),
      Option.bind_some, hfree, if_neg (by omega), Option.map_some,
      List.take_of_length_le (by omega : p.name.text.length ≤ k - p.lead)]
    have hcolumn : p.vgGap + 1 < k₃ ↔ p.lead + p.name.text.length + (p.sizeGap + 1)
        + (decimal p.size).length + (p.freeGap + 1) + (decimal p.free).length + (p.vgGap + 1) < k :=
      ⟨fun _ => by omega, fun _ => by omega⟩
    rw [← hcolumn, ← hvg]
    cases scanWord 63 (p.vgText.take k₃) with
    | none => exact ⟨_, rfl, rfl, by simp⟩
    | some vg => exact ⟨_, rfl, rfl, by simp⟩

/-- With the whole line, three fields are read, and a fourth if there is a group. -/
lemma pvScan_line (hname : p.name.text.length ≤ 255) :
    ∃ info, pvScan p.line = some info ∧ info.name = p.name.text ∧
      info.isAllocated = p.vg.isSome := by
  have hlong : p.vgColumn < p.line.length + p.vgColumn + 1 := by omega
  obtain ⟨info, hscan, hinfo, halloc⟩ := (pvScan_take p hname (p.line.length + p.vgColumn + 1)).2
    (by unfold Pv.vgColumn; omega)
  rw [List.take_of_length_le (by omega)] at hscan
  refine ⟨info, hscan, hinfo, ?_⟩
  rw [Bool.eq_iff_iff, halloc]
  exact and_iff_left hlong

/-- The rest of a name that does not fit is read as a number, if at all.  One of the columns is then
left over for the group. -/
lemma pvScan_line_long (hname : 255 < p.name.text.length) {info : PvInfo}
    (h : pvScan p.line = some info) : info.isAllocated = true := by
  have hdigit : ∀ n, ∃ d ∈ decimal n, isSpace d = false := by
    intro n
    obtain ⟨d, ds, hd⟩ := List.exists_cons_of_ne_nil (decimal_ne_nil n)
    have hmem : d ∈ decimal n := by simp [hd]
    exact ⟨d, hmem, not_isSpace_of_isDigit (isDigit_of_mem_decimal hmem)⟩
  have hrest : ∃ d ∈ p.name.text.drop 255, isSpace d = false := by
    obtain ⟨d, ds, hd⟩ := List.exists_cons_of_length_pos
      (by rw [List.length_drop]; omega : 0 < (p.name.text.drop 255).length)
    have hmem : d ∈ p.name.text.drop 255 := by simp [hd]
    exact ⟨d, hmem, p.name.noSpace d (List.mem_of_mem_drop hmem)⟩
  rw [pvScan, Pv.line, scanWord_space_append fun _ => isSpace_of_mem_blanks,
    scanWord_append p.name.ne_nil p.name.noSpace (by decide) (breaks_sizeText p),
    Option.bind_some, Option.bind_eq_some_iff] at h
  obtain ⟨⟨size, r₁⟩, hscan₁, h⟩ := h
  rw [Option.map_eq_some_iff] at h
  obtain ⟨⟨free, r₂⟩, hscan₂, rfl⟩ := h
  obtain ⟨x, rfl⟩ : p.sizeText <:+ r₁ := scanUnsigned_suffix hrest rfl hscan₁
  have hscan₂' : scanUnsigned ((x ++ (blanks (p.sizeGap + 1) ++ decimal p.size)) ++ p.freeText)
      = some (free, r₂) := by
    rw [← hscan₂, Pv.sizeText]
    simp only [List.append_assoc]
  obtain ⟨d, hd, hspace⟩ := hdigit p.size
  obtain ⟨y, rfl⟩ : p.freeText <:+ r₂ :=
    scanUnsigned_suffix ⟨d, by simp [hd], hspace⟩ rfl hscan₂'
  have hsome : scanWord 63 (y ++ p.freeText) ≠ none := by
    rw [ne_eq, scanWord_eq_none_iff (by decide)]
    intro hall
    obtain ⟨e, he, hspace'⟩ := hdigit p.free
    rw [hall e (by simp [Pv.freeText, he])] at hspace'
    exact absurd hspace' (by decide)
  obtain ⟨vg, hvg⟩ := Option.ne_none_iff_exists'.mp hsome
  simp only [hvg]

/-- A line has no end of line in it. -/
lemma newline_notMem_line : '\n' ∉ p.line := by
  have hblanks : ∀ n, '\n' ∉ blanks n := notMem_blanks (by decide)
  have hvg : '\n' ∉ p.vgText := by
    unfold Pv.vgText
    cases p.vg with
    | none => exact hblanks _
    | some vg =>
        rw [List.mem_append, List.mem_append, not_or, not_or]
        exact ⟨hblanks _, vg.newline_notMem, hblanks _⟩
  simp only [Pv.line, Pv.sizeText, Pv.freeText, List.mem_append, not_or]
  exact ⟨hblanks _, p.name.newline_notMem, hblanks _, newline_notMem_decimal _, hblanks _,
    newline_notMem_decimal _, hvg⟩

end Line

/-! ## Reading the output -/

/-- The entries read from the first `k` characters of the lines of `pvs`. -/
def readLines : List Pv → ℕ → List PvInfo
  | [], _ => []
  | p :: pvs, k => (pvScan (p.line.take k)).toList ++ readLines pvs (k - (p.line.length + 1))

@[simp] lemma readLines_zero (pvs : List Pv) : readLines pvs 0 = [] := by
  induction pvs with
  | nil => rfl
  | cons p pvs ih => rw [readLines, List.take_zero, pvScan_nil, Nat.zero_sub, ih]; rfl

lemma length_pvsOutput_cons (p : Pv) (pvs : List Pv) :
    (pvsOutput (p :: pvs)).length = p.line.length + 1 + (pvsOutput pvs).length := by
  simp only [pvsOutput, List.flatMap_cons, List.length_append, List.length_singleton]

/-- The loop of `lvm_pv_list` keeps the first readable lines. -/
lemma pvListLoop_eq (maxPvs : ℕ) (acc : List PvInfo) (lines : List CStr)
    (hacc : acc.length ≤ maxPvs) :
    pvListLoop maxPvs acc lines
      = acc ++ (lines.filterMap pvScan).take (maxPvs - acc.length) := by
  induction lines generalizing acc with
  | nil => simp [pvListLoop]
  | cons line lines ih =>
      unfold pvListLoop
      split_ifs with hroom
      · have hskip : (if 0 < (line.dropWhile isSpace).length
            then acc ++ (pvScan (line.dropWhile isSpace)).toList else acc)
              = acc ++ (pvScan line).toList := by
          rw [← pvScan_dropWhile line]
          split_ifs with hne
          · rfl
          · have hnil : line.dropWhile isSpace = [] := List.length_eq_zero_iff.mp (by omega)
            rw [hnil, pvScan_nil, Option.toList_none, List.append_nil]
        simp only [hskip]
        cases hscan : pvScan line with
        | none => simpa [List.filterMap_cons, hscan] using ih acc hacc
        | some info =>
            obtain ⟨n, hn⟩ : ∃ n, maxPvs - acc.length = n + 1 := ⟨maxPvs - acc.length - 1, by omega⟩
            rw [List.filterMap_cons_some hscan, hn, List.take_succ_cons]
            have hlen : (acc ++ [info]).length = acc.length + 1 := by simp
            rw [Option.toList_some, ih _ (by omega), hlen, List.append_assoc,
              List.singleton_append, show maxPvs - (acc.length + 1) = n by omega]
      · rw [show maxPvs - acc.length = 0 by omega, List.take_zero, List.append_nil]

lemma readLines_eq (pvs : List Pv) (k : ℕ) :
    readLines pvs k = (cutLines k (pvs.map Pv.line)).filterMap pvScan := by
  induction pvs generalizing k with
  | nil => rfl
  | cons p pvs ih =>
      rw [readLines, ih, List.map_cons, cutLines, List.filterMap_cons]
      cases pvScan (p.line.take k) <;> rfl

/-- Cutting the output cuts one line and drops those after it. -/
lemma filterMap_tokens (pvs : List Pv) (k : ℕ) :
    (tokens '\n' ((pvsOutput pvs).take k)).filterMap pvScan = readLines pvs k := by
  have hlines : ∀ l ∈ pvs.map Pv.line, '\n' ∉ l := by
    intro l hl
    obtain ⟨p, -, rfl⟩ := List.mem_map.mp hl
    exact newline_notMem_line p
  have hout : pvsOutput pvs = (pvs.map Pv.line).flatMap fun l => l ++ ['\n'] := by
    rw [pvsOutput, List.flatMap_map]
  -- a line that is empty gives nothing
  have hskip : (fun l => if decide (l ≠ []) = true then pvScan l else none) = pvScan := by
    funext l
    by_cases hl : l = []
    · rw [hl, pvScan_nil, ite_self]
    · rw [if_pos (decide_eq_true hl)]
  rw [hout, tokens_take_lines hlines, List.filterMap_filter, hskip, readLines_eq]

/-- Which lines the first `n` entries come from. -/
lemma mem_take_readLines {pvs : List Pv} {k n : ℕ} {info : PvInfo} :
    info ∈ (readLines pvs k).take n ↔ ∃ pre p post, pvs = pre ++ p :: post ∧
      (readLines pre k).length < n ∧
      pvScan (p.line.take (k - (pvsOutput pre).length)) = some info := by
  induction pvs generalizing k n with
  | nil => simp [readLines]
  | cons q pvs ih =>
      have hsplit : (∃ pre p post, q :: pvs = pre ++ p :: post ∧ (readLines pre k).length < n ∧
          pvScan (p.line.take (k - (pvsOutput pre).length)) = some info) ↔
          (0 < n ∧ pvScan (q.line.take k) = some info) ∨
          ∃ pre p post, pvs = pre ++ p :: post ∧
            (readLines pre (k - (q.line.length + 1))).length
              < n - (pvScan (q.line.take k)).toList.length ∧
            pvScan (p.line.take (k - (q.line.length + 1) - (pvsOutput pre).length))
              = some info := by
        constructor
        · rintro ⟨pre, p, post, heq, hlen, hscan⟩
          cases pre with
          | nil =>
              rw [List.nil_append, List.cons.injEq] at heq
              obtain ⟨rfl, -⟩ := heq
              exact Or.inl ⟨hlen, hscan⟩
          | cons r pre =>
              rw [List.cons_append, List.cons.injEq] at heq
              obtain ⟨rfl, heq⟩ := heq
              rw [readLines, List.length_append] at hlen
              rw [length_pvsOutput_cons, ← Nat.sub_sub] at hscan
              exact Or.inr ⟨pre, p, post, heq, by omega, hscan⟩
        · rintro (⟨hn, hscan⟩ | ⟨pre, p, post, heq, hlen, hscan⟩)
          · exact ⟨[], q, pvs, rfl, hn, hscan⟩
          · refine ⟨q :: pre, p, post, by rw [heq, List.cons_append], ?_, ?_⟩
            · rw [readLines, List.length_append]
              omega
            · rw [length_pvsOutput_cons, ← Nat.sub_sub]
              exact hscan
      rw [hsplit, ← ih, readLines, List.take_append, List.mem_append]
      refine or_congr ?_ Iff.rfl
      cases pvScan (q.line.take k) with
      | none => simp
      | some i =>
          cases n with
          | zero => simp
          | succ n => simp [eq_comm]

/-- As long as the output is kept, all lines are read whole. -/
lemma readLines_of_le {pvs : List Pv} {k : ℕ} (h : (pvsOutput pvs).length ≤ k) :
    readLines pvs k = pvs.filterMap fun p => pvScan p.line := by
  induction pvs generalizing k with
  | nil => rfl
  | cons p pvs ih =>
      rw [length_pvsOutput_cons] at h
      rw [readLines, List.take_of_length_le (by omega), ih (by omega)]
      cases hscan : pvScan p.line with
      | none => simp [hscan]
      | some info => simp [hscan]

/-- An entry with another one after it was read from a whole line. -/
lemma exists_line_of_append {pvs : List Pv} {k : ℕ} {before after : List PvInfo} {info : PvInfo}
    (h : readLines pvs k = before ++ info :: after) (hafter : after ≠ []) :
    ∃ p ∈ pvs, pvScan p.line = some info := by
  induction pvs generalizing k before with
  | nil => exact absurd h (by simp [readLines])
  | cons p pvs ih =>
      rw [readLines] at h
      cases hscan : pvScan (p.line.take k) with
      | none =>
          rw [hscan, Option.toList_none, List.nil_append] at h
          obtain ⟨q, hq, hline⟩ := ih h
          exact ⟨q, List.mem_cons_of_mem _ hq, hline⟩
      | some first =>
          rw [hscan, Option.toList_some, List.singleton_append] at h
          cases before with
          | nil =>
              rw [List.nil_append, List.cons.injEq] at h
              obtain ⟨rfl, hrest⟩ := h
              have hwhole : p.line.length < k := by
                by_contra hshort
                rw [show k - (p.line.length + 1) = 0 by omega, readLines_zero] at hrest
                exact hafter hrest.symm
              rw [List.take_of_length_le hwhole.le] at hscan
              exact ⟨p, List.mem_cons_self, hscan⟩
          | cons b before =>
              rw [List.cons_append, List.cons.injEq] at h
              obtain ⟨q, hq, hline⟩ := ih h.2
              exact ⟨q, List.mem_cons_of_mem _ hq, hline⟩

/-! ## Removing a volume -/

section Remove

variable (sys : PvSystem) {name : CStr}

lemma lvmPvList_pvsRun : lvmPvList (sys.pvsRun (some (.exited 0))) 32
    = (.success, (readLines sys.pvs sys.kept).take 32) := by
  have htake : captured maxOutput (pvsOutput sys.pvs) = (pvsOutput sys.pvs).take sys.kept :=
    captured_eq_take _ _
  have hexec : executeCommand (sys.pvsRun (some (.exited 0))) maxOutput
      = (.success, some ((pvsOutput sys.pvs).take sys.kept)) := by
    rw [← htake]
    rfl
  rw [lvmPvList, hexec]
  simp only [Option.getD_some]
  rw [pvListLoop_eq 32 [] _ (Nat.zero_le _), filterMap_tokens]
  rfl

/-- When `pvs` cannot be run or fails, there are no volumes. -/
lemma lvmPvList_of_failed {status : Option ExitStatus} (h : status ≠ some (.exited 0)) (n : ℕ) :
    lvmPvList (sys.pvsRun status) n = (.success, []) := by
  cases status with
  | none => rfl
  | some st =>
      have hst : st ≠ .exited 0 := fun heq => h (by rw [heq])
      simp [lvmPvList, executeCommand, PvSystem.pvsRun, hst]

/-- The command is run unless the first entry with the name is allocated. -/
lemma lvmPvRemove_isSome {isRoot : Bool} {pvs : Option CommandRun} {list : List PvInfo}
    (hlist : lvmPvList pvs 32 = (.success, list)) (pvremove : Option CommandRun) :
    (lvmPvRemove isRoot pvs name pvremove).2.isSome = true ↔ isRoot = true ∧
      ¬ ∃ info, list.find? (fun pv => pv.name = name) = some info ∧ info.isAllocated = true := by
  rw [lvmPvRemove, lvmPvInfo, hlist]
  cases isRoot with
  | false => simp
  | true =>
      cases hfind : list.find? fun pv => pv.name = name with
      | none => simp [hfind]
      | some info =>
          cases halloc : info.isAllocated with
          | false => simp [hfind, halloc]
          | true => simp [hfind, halloc]

/-- The lines that show a volume are those of the 32 entries. -/
lemma shown_iff_entry : sys.Shown name ↔ ∃ info ∈ (readLines sys.pvs sys.kept).take 32,
    info.name = name ∧ info.isAllocated = true := by
  -- when something of a line is kept, the lines before it are read whole
  have hwhole : ∀ {pre : List Pv} {p : Pv} {info : PvInfo},
      pvScan (p.line.take (sys.kept - (pvsOutput pre).length)) = some info →
      readLines pre sys.kept = pre.filterMap fun q => pvScan q.line := by
    intro pre p info hscan
    refine readLines_of_le ?_
    by_contra hshort
    rw [show sys.kept - (pvsOutput pre).length = 0 by omega, List.take_zero, pvScan_nil] at hscan
    exact absurd hscan (by simp)
  constructor
  · rintro ⟨pre, p, post, hpvs, hcount, info, hscan, hinfo⟩
    rw [← hwhole hscan] at hcount
    exact ⟨info, mem_take_readLines.mpr ⟨pre, p, post, hpvs, hcount, hscan⟩, hinfo⟩
  · rintro ⟨info, hmem, hinfo⟩
    obtain ⟨pre, p, post, hpvs, hcount, hscan⟩ := mem_take_readLines.mp hmem
    rw [hwhole hscan] at hcount
    exact ⟨pre, p, post, hpvs, hcount, info, hscan, hinfo⟩

/-- Only the last entry can show a volume in use without its group. -/
lemma isAllocated_of_followed (hused : sys.InUse name) {before after : List PvInfo} {info : PvInfo}
    (h : readLines sys.pvs sys.kept = before ++ info :: after) (hafter : after ≠ [])
    (hinfo : info.name = name) : info.isAllocated = true := by
  obtain ⟨p, hp, hline⟩ := exists_line_of_append h hafter
  rcases Nat.lt_or_ge 255 p.name.text.length with hlong | hshort
  · exact pvScan_line_long p hlong hline
  · obtain ⟨info', hscan, hname, halloc⟩ := pvScan_line p hshort
    obtain rfl := Option.some.inj (hline.symm.trans hscan)
    obtain ⟨q, hq, hqname, hvg⟩ := hused
    obtain rfl := List.inj_on_of_nodup_map sys.nodup hp hq
      (hname.symm.trans (hinfo.trans hqname.symm))
    exact halloc.trans hvg

/-- A volume in use is found as allocated exactly when it is shown. -/
lemma find_allocated_iff (hused : sys.InUse name) :
    (∃ info, ((readLines sys.pvs sys.kept).take 32).find? (fun pv => pv.name = name) = some info ∧
      info.isAllocated = true) ↔ sys.Shown name := by
  rw [shown_iff_entry]
  constructor
  · rintro ⟨info, hfind, halloc⟩
    exact ⟨info, List.mem_of_find?_eq_some hfind, by simpa using List.find?_some hfind, halloc⟩
  · rintro ⟨info, hmem, hinfo, halloc⟩
    obtain ⟨first, hfind⟩ : ∃ first, ((readLines sys.pvs sys.kept).take 32).find?
        (fun pv => pv.name = name) = some first := by
      rw [← Option.isSome_iff_exists, List.find?_isSome]
      exact ⟨info, hmem, by simpa using hinfo⟩
    refine ⟨first, hfind, ?_⟩
    by_contra hfree
    obtain ⟨hname, before, after, heq, hbefore⟩ := List.find?_eq_some_iff_append.mp hfind
    -- the allocated entry comes after this one
    have hlater : info ∈ after := by
      rw [heq, List.mem_append, List.mem_cons] at hmem
      rcases hmem with hmem | rfl | hmem
      · exact absurd (decide_eq_true hinfo) (by simpa using hbefore info hmem)
      · exact absurd halloc hfree
      · exact hmem
    have hall : readLines sys.pvs sys.kept
        = before ++ first :: (after ++ (readLines sys.pvs sys.kept).drop 32) := by
      rw [← List.cons_append, ← List.append_assoc, ← heq, List.take_append_drop]
    refine hfree (isAllocated_of_followed sys hused hall ?_ (of_decide_eq_true hname))
    exact List.append_ne_nil_of_left_ne_nil (List.ne_nil_of_mem hlater) _

end Remove

/-! ## What is shown, in figures -/

/-- A volume that is listed is shown: the lines before it may be read or not. -/
lemma shown_of_listed {sys : PvSystem} {name : CStr} (h : sys.Listed name) : sys.Shown name := by
  obtain ⟨pre, p, post, hpvs, rfl, hfit, hvg, hlt, hkept⟩ := h
  have hcount : (pre.filterMap fun q => pvScan q.line).length < 32 :=
    (List.length_filterMap_le _ _).trans_lt hlt
  have hcol : p.vgColumn < sys.kept - (pvsOutput pre).length := by omega
  have hfree : p.freeColumn < p.vgColumn := by
    unfold Pv.vgColumn
    omega
  obtain ⟨info, hscan, hinfo, halloc⟩ := (pvScan_take p hfit _).2 (hfree.trans hcol)
  exact ⟨pre, p, post, hpvs, hcount, info, hscan, hinfo, halloc.mpr ⟨hvg, hcol⟩⟩

/-- **Which volumes are shown**, when all names fit: those of the first 32 lines whose group has its
column within what is kept of the output. -/
lemma shown_iff (sys : PvSystem) (hnames : ∀ p ∈ sys.pvs, p.name.text.length ≤ 255) (name : CStr) :
    sys.Shown name ↔ sys.Listed name := by
  refine ⟨?_, shown_of_listed⟩
  rintro ⟨pre, p, post, hpvs, hlt, info, hscan, hname, halloc⟩
  have hcount : (pre.filterMap fun q => pvScan q.line).length = pre.length := by
    rw [List.length_filterMap_eq_countP, List.countP_eq_length]
    intro q hq
    obtain ⟨info, hscan, -⟩ := pvScan_line q (hnames q (by simp [hpvs, hq]))
    simp [hscan]
  have hfit := hnames p (by simp [hpvs])
  rw [hcount] at hlt
  rcases Nat.lt_or_ge p.freeColumn (sys.kept - (pvsOutput pre).length) with hcol | hcol
  · obtain ⟨info', hscan', hname', halloc'⟩ := (pvScan_take p hfit _).2 hcol
    obtain rfl := Option.some.inj (hscan.symm.trans hscan')
    obtain ⟨hvg, hkept⟩ := halloc'.mp halloc
    have htext : p.name.text = name := hname'.symm.trans hname
    exact ⟨pre, p, post, hpvs, htext, htext ▸ hfit, hvg, hlt, by omega⟩
  · rw [(pvScan_take p hfit _).1 hcol] at hscan
    exact absurd hscan (by simp)

/-! ## The command -/

lemma pvremoveText_eq_line (name : CStr) : pvremoveText name =
    line [.bare "pvremove".toList, .bare "-f".toList, .bare name] ++ errToOut :=
  line_of_two "pvremove".toList "-f".toList name errToOut

lemma RemovableName.command {name : CStr} (h : RemovableName name) :
    Shell.command (fit maxCommand (pvremoveText name)) =
      some ["pvremove".toList, "-f".toList, name] := by
  have hfixed : (Piece.bare "pvremove".toList).Ok ∧ (Piece.bare "-f".toList).Ok := by decide
  rw [fit_of_lt h.2.2, pvremoveText_eq_line]
  refine command_line_errToOut ?_
  simp only [List.forall_mem_cons, List.not_mem_nil, false_imp_iff, implies_true, and_true]
  exact ⟨hfixed.1, hfixed.2, h.1⟩

section Spared

variable {sys : PvSystem} {isRoot : Bool} {status : Option ExitStatus} {name : CStr}
  {pvremove : Option CommandRun}

lemma lvmPvRemove_eq_some {pvs : Option CommandRun} {cmd : CStr}
    (h : (lvmPvRemove isRoot pvs name pvremove).2 = some cmd) :
    cmd = fit maxCommand (pvremoveText name) := by
  simp only [lvmPvRemove] at h
  split_ifs at h
  exact (Option.some.inj h).symm

/-- A name that is one word is what is removed. -/
lemma spares_iff (hname : RemovableName name) {pvs : Option CommandRun} :
    sys.Spares (lvmPvRemove isRoot pvs name pvremove).2 ↔
      ((lvmPvRemove isRoot pvs name pvremove).2.isSome = true → ¬ sys.InUse name) := by
  constructor
  · intro h hsome
    obtain ⟨cmd, hcmd⟩ := Option.isSome_iff_exists.mp hsome
    obtain ⟨names, hwords, hspared⟩ := h cmd hcmd
    rw [lvmPvRemove_eq_some hcmd, hname.command] at hwords
    simp only [Option.some.injEq, List.cons.injEq, true_and] at hwords
    exact hspared name (hwords ▸ List.mem_singleton_self name)
  · intro h cmd hcmd
    refine ⟨[name], ?_, fun w hw => ?_⟩
    · rw [lvmPvRemove_eq_some hcmd, hname.command]
    · rw [List.mem_singleton.mp hw]
      exact h (by rw [hcmd]; rfl)

/-- The guard: a volume in use is left alone exactly when it is shown. -/
lemma isSome_imp_iff :
    ((lvmPvRemove isRoot (sys.pvsRun status) name pvremove).2.isSome = true → ¬ sys.InUse name) ↔
      isRoot = false ∨ ¬ sys.InUse name ∨ status = some (.exited 0) ∧ sys.Shown name := by
  by_cases hused : sys.InUse name
  swap
  · simp [hused]
  by_cases hstatus : status = some (.exited 0)
  · subst hstatus
    rw [lvmPvRemove_isSome (lvmPvList_pvsRun sys), find_allocated_iff sys hused]
    cases isRoot <;> simp [hused]
  · rw [lvmPvRemove_isSome (lvmPvList_of_failed sys hstatus 32)]
    cases isRoot <;> simp [hused, hstatus]

lemma inUse_of_listed (h : sys.Listed name) : sys.InUse name := by
  obtain ⟨pre, p, post, hpvs, hname, -, hvg, -⟩ := h
  exact ⟨p, by simp [hpvs], hname, hvg⟩

/-- A caller without privileges, and one that names a volume whose line gets through, run nothing,
whatever the name. -/
lemma not_run (h : isRoot = false ∨ status = some (.exited 0) ∧ sys.Listed name) :
    (lvmPvRemove isRoot (sys.pvsRun status) name pvremove).2 = none := by
  rw [← Option.not_isSome_iff_eq_none]
  intro hsome
  rcases h with rfl | ⟨rfl, hlisted⟩
  · exact absurd hsome (by simp [lvmPvRemove])
  · refine isSome_imp_iff.mpr (.inr (.inr ⟨rfl, shown_of_listed hlisted⟩)) hsome ?_
    exact inUse_of_listed hlisted

end Spared

/-- **A volume in use is not removed** when the caller is not root, or `pvs` succeeds and the volume
is listed, or the name is one word and no volume in use has it.  For such names, on a system whose
names all fit, only then. -/
theorem pv_remove_spares_used_iff (sys : PvSystem) (isRoot : Bool) (status : Option ExitStatus)
    (name : CStr) (pvremove : Option CommandRun) :
    (isRoot = false ∨ (status = some (.exited 0) ∧ sys.Listed name) ∨
        (RemovableName name ∧ ¬ sys.InUse name) →
      sys.Spares (lvmPvRemove isRoot (sys.pvsRun status) name pvremove).2) ∧
    (RemovableName name → (∀ p ∈ sys.pvs, p.name.text.length ≤ 255) →
      (sys.Spares (lvmPvRemove isRoot (sys.pvsRun status) name pvremove).2 ↔
        isRoot = false ∨ (status = some (.exited 0) ∧ sys.Listed name) ∨ ¬ sys.InUse name)) := by
  have hnothing : isRoot = false ∨ status = some (.exited 0) ∧ sys.Listed name →
      sys.Spares (lvmPvRemove isRoot (sys.pvsRun status) name pvremove).2 := by
    intro h cmd hcmd
    rw [not_run h] at hcmd
    exact absurd hcmd.symm (Option.some_ne_none cmd)
  constructor
  · rintro (hroot | hlisted | ⟨hname, hfree⟩)
    · exact hnothing (.inl hroot)
    · exact hnothing (.inr hlisted)
    · exact (spares_iff hname).mpr fun _ => hfree
  · intro hname hnames
    rw [spares_iff hname, isSome_imp_iff, shown_iff sys hnames]
    exact or_congr_right or_comm

/-- Two volumes, of which the first is in a group. -/
def twoVolumes : PvSystem where
  pvs := [{
      name := ⟨['/', 'd', 'e', 'v', '/', 'a'], by decide, by simp [isSpace]⟩
      size := 8
      free := 4
      vg := some ⟨['v'], by decide, by simp [isSpace]⟩
      lead := 2
      sizeGap := 0
      freeGap := 0
      vgGap := 0
      trail := 0 }, {
      name := ⟨['/', 'd', 'e', 'v', '/', 'b'], by decide, by simp [isSpace]⟩
      size := 8
      free := 8
      vg := none
      lead := 2
      sizeGap := 0
      freeGap := 0
      vgGap := 0
      trail := 1 }]
  nodup := by decide

lemma twoVolumes_inUse : twoVolumes.InUse ['/', 'd', 'e', 'v', '/', 'a'] :=
  ⟨_, List.mem_cons_self, rfl, rfl⟩

lemma twoVolumes_free : ¬ twoVolumes.InUse ['/', 'd', 'e', 'v', '/', 'b'] := by
  rintro ⟨p, hp, hname, hvg⟩
  simp only [twoVolumes, List.mem_cons, List.not_mem_nil, or_false] at hp
  rcases hp with rfl | rfl
  · exact absurd hname (by decide)
  · exact absurd hvg (by decide)

/-- The one in use is left alone, the other is removed. -/
theorem pv_remove_spares_used_two :
    (twoVolumes.InUse ['/', 'd', 'e', 'v', '/', 'a'] ∧
      twoVolumes.Spares (lvmPvRemove true (twoVolumes.pvsRun (some (.exited 0)))
        ['/', 'd', 'e', 'v', '/', 'a'] none).2) ∧
    ((lvmPvRemove true (twoVolumes.pvsRun (some (.exited 0)))
        ['/', 'd', 'e', 'v', '/', 'b'] none).2.isSome = true ∧
      twoVolumes.Spares (lvmPvRemove true (twoVolumes.pvsRun (some (.exited 0)))
        ['/', 'd', 'e', 'v', '/', 'b'] none).2) := by
  have hlisted : twoVolumes.Listed ['/', 'd', 'e', 'v', '/', 'a'] :=
    ⟨[], _, _, rfl, rfl, by decide, rfl, by decide, by decide +kernel⟩
  have hname : RemovableName ['/', 'd', 'e', 'v', '/', 'b'] :=
    ⟨by decide, by decide, by decide +kernel⟩
  exact ⟨⟨twoVolumes_inUse, (pv_remove_spares_used_iff twoVolumes true (some (.exited 0)) _ none).1
      (.inr (.inl ⟨rfl, hlisted⟩))⟩, by decide +kernel,
    (pv_remove_spares_used_iff twoVolumes true (some (.exited 0)) _ none).1
      (.inr (.inr ⟨hname, twoVolumes_free⟩))⟩

/-- An error of `pvs` is taken for an empty list. -/
theorem pv_remove_removes_used :
    ¬ ∀ (sys : PvSystem) (isRoot : Bool) (status : Option ExitStatus) (name : CStr)
      (pvremove : Option CommandRun),
      sys.Spares (lvmPvRemove isRoot (sys.pvsRun status) name pvremove).2 := by
  intro hclaim
  have hname : RemovableName ['/', 'd', 'e', 'v', '/', 'a'] :=
    ⟨by decide, by decide, by decide +kernel⟩
  refine (spares_iff hname).mp (hclaim twoVolumes true (some (.exited 5)) _ none) ?_
    twoVolumes_inUse
  decide

end Storage

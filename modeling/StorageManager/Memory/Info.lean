import StorageManager.Common
import Mathlib.Algebra.Order.Field.Rat
import Mathlib.Tactic.FieldSimp
import Mathlib.Tactic.Linarith
import Mathlib.Tactic.Ring

/-!
# Memory figures

`memory_get_info` reads seven lines of `/proc/meminfo` and works out how much swap is in use and a
pressure between 0 and 1 from them.  A line that is missing counts as zero, the difference of the
two swap figures is taken modulo 2^64, and the pressure is cut off at 1 but not at 0.

* `get_readMeminfo` — the file is read as what its lines say (`meminfoValue`).
* `pressure_mono_iff` — the formula for swap in use weighs the memory less, so the first bit of swap
  can lower the pressure.
* `memory_figures_iff` — for which values the figures are in their ranges.
-/

namespace Storage

open CString

/-! ## The functions -/

/-- `memory_info_t`; the two floats are exact. -/
structure MemoryInfo where
  totalKb : UInt64
  freeKb : UInt64
  availableKb : UInt64
  cachedKb : UInt64
  buffersKb : UInt64
  swapTotalKb : UInt64
  swapFreeKb : UInt64
  swapUsedKb : UInt64
  memoryPressure : ℚ
  swapUsagePercent : ℚ
  deriving DecidableEq

/-- `memset (info, 0, ..)`. -/
def MemoryInfo.zero : MemoryInfo := ⟨0, 0, 0, 0, 0, 0, 0, 0, 0, 0⟩

/-- The lines that are read, in the order they are tried. -/
inductive MemKey
  | memTotal
  | memFree
  | memAvailable
  | cached
  | buffers
  | swapTotal
  | swapFree
  deriving DecidableEq, Repr

namespace MemKey

/-- The keys in the order they are tried. -/
def all : List MemKey := [memTotal, memFree, memAvailable, cached, buffers, swapTotal, swapFree]

/-- The label without its colon. -/
def name : MemKey → CStr
  | memTotal => "MemTotal".toList
  | memFree => "MemFree".toList
  | memAvailable => "MemAvailable".toList
  | cached => "Cached".toList
  | buffers => "Buffers".toList
  | swapTotal => "SwapTotal".toList
  | swapFree => "SwapFree".toList

/-- The label the format begins with. -/
def label (k : MemKey) : CStr := k.name ++ [':']

end MemKey

namespace MemoryInfo

/-- The field that belongs to the key. -/
def get (info : MemoryInfo) : MemKey → UInt64
  | .memTotal => info.totalKb
  | .memFree => info.freeKb
  | .memAvailable => info.availableKb
  | .cached => info.cachedKb
  | .buffers => info.buffersKb
  | .swapTotal => info.swapTotalKb
  | .swapFree => info.swapFreeKb

/-- That field is assigned. -/
def set (info : MemoryInfo) (v : UInt64) : MemKey → MemoryInfo
  | .memTotal => { info with totalKb := v }
  | .memFree => { info with freeKb := v }
  | .memAvailable => { info with availableKb := v }
  | .cached => { info with cachedKb := v }
  | .buffers => { info with buffersKb := v }
  | .swapTotal => { info with swapTotalKb := v }
  | .swapFree => { info with swapFreeKb := v }

end MemoryInfo

/-- `sscanf (line, "<label> %llu", ..)`. -/
def scanLabel (label line : CStr) : Option UInt64 :=
  if label <+: line then (scanUnsigned (line.drop label.length)).map fun p => .ofNat p.1 else none

/-- One turn of the loop of `memory_parse_meminfo`: the first of the seven that is read. -/
def meminfoLine (info : MemoryInfo) (line : CStr) : MemoryInfo :=
  match MemKey.all.findSome? fun k => (scanLabel k.label line).map fun v => (k, v) with
  | some (k, v) => info.set v k
  | none => info

/-- The loop of `memory_parse_meminfo`. -/
def readMeminfo (content : CStr) (info : MemoryInfo) : MemoryInfo :=
  (fgetsAll 256 content).foldl meminfoLine info

/-- The end of `memory_parse_meminfo`. -/
def swapFigures (info : MemoryInfo) : MemoryInfo :=
  let used := info.swapTotalKb - info.swapFreeKb
  { info with
    swapUsedKb := used
    swapUsagePercent :=
      if 0 < info.swapTotalKb then (used.toNat : ℚ) / info.swapTotalKb.toNat * 100
      else info.swapUsagePercent }

/-- `memory_parse_meminfo`; `file` is `none` when `/proc/meminfo` cannot be opened. -/
def memoryParseMeminfo (file : Option CStr) (info : MemoryInfo) : MemoryInfo × Ret :=
  match file with
  | none => (info, .errorSystemCall)
  | some content => (swapFigures (readMeminfo content info), .success)

/-- `memory_calculate_pressure`. -/
def memoryCalculatePressure (info : MemoryInfo) : ℚ :=
  if info.totalKb = 0 then 0
  else
    let availableRatio : ℚ := info.availableKb.toNat / info.totalKb.toNat
    let pressure := 1 - availableRatio
    let pressure :=
      if 0 < info.swapTotalKb ∧ 0 < info.swapUsedKb then
        pressure * (7 / 10) + info.swapUsedKb.toNat / info.swapTotalKb.toNat * (3 / 10)
      else pressure
    if 1 < pressure then 1 else pressure

/-- `memory_get_info`. -/
def memoryGetInfo (file : Option CStr) : MemoryInfo × Ret :=
  match memoryParseMeminfo file .zero with
  | (info, .success) => ({ info with memoryPressure := memoryCalculatePressure info }, .success)
  | (info, code) => (info, code)

/-- `memory_check_low`. -/
def memoryCheckLow (file : Option CStr) (thresholdMb : UInt64) : ℤ :=
  match memoryGetInfo file with
  | (info, .success) => if info.availableKb < thresholdMb * 1024 then 1 else 0
  | _ => -1

/-! ## The file -/

/-- A line with one of the seven figures. -/
structure MemEntry where
  key : MemKey
  gap : ℕ
  value : UInt64
  tail : CStr
  breaks : Breaks tail
  oneLine : '\n' ∉ tail
  short : (key.label ++ (blanks gap ++ (decimal value.toNat ++ tail))).length < 255

/-- Any other line. -/
structure MemOther where
  text : CStr
  oneLine : '\n' ∉ text
  short : text.length < 255
  unlabelled : ∀ k : MemKey, ¬ k.label <+: text

/-- A line of `/proc/meminfo`. -/
inductive MeminfoLine
  | entry (e : MemEntry)
  | other (o : MemOther)

namespace MeminfoLine

/-- The line as it is printed. -/
def text : MeminfoLine → CStr
  | entry e => e.key.label ++ (blanks e.gap ++ (decimal e.value.toNat ++ e.tail))
  | other o => o.text

/-- The figure the line gives for `k`. -/
def valueOf (k : MemKey) : MeminfoLine → Option UInt64
  | entry e => if e.key = k then some e.value else none
  | other _ => none

end MeminfoLine

/-- The contents of `/proc/meminfo`. -/
def meminfoText (lines : List MeminfoLine) : CStr := lines.flatMap fun l => l.text ++ ['\n']

/-- The figure the file gives for `k`: zero if there is none, the last one if there are several. -/
def meminfoValue (lines : List MeminfoLine) (k : MemKey) : UInt64 :=
  (lines.filterMap (MeminfoLine.valueOf k)).getLastD 0

/-! ## Reading the file -/

section Reading

variable {k k' : MemKey}

lemma colon_notMem_name (k : MemKey) : ':' ∉ k.name := by
  cases k <;> decide

lemma newline_notMem_label (k : MemKey) : '\n' ∉ k.label := by
  cases k <;> decide

lemma name_injective {k k' : MemKey} (h : k.name = k'.name) : k = k' := by
  cases k <;> cases k' <;> first | rfl | exact absurd h (by decide)

/-- A line starts with one label only. -/
lemma eq_of_label_isPrefix {s : CStr} (h : k'.label <+: k.label ++ s) : k' = k := by
  obtain ⟨t, ht⟩ := h
  simp only [MemKey.label, List.append_assoc, List.singleton_append] at ht
  exact name_injective (append_cons_inj (colon_notMem_name k') (colon_notMem_name k) ht).1

/-- A label and its figure, up to a break. -/
lemma scanLabel_figure (k : MemKey) (gap : ℕ) (value : UInt64) {s : CStr} (hs : Breaks s) :
    scanLabel k.label (k.label ++ (blanks gap ++ (decimal value.toNat ++ s))) = some value := by
  have hvalue : saturate64 (Nat.ofDigitChars 10 (decimal value.toNat) 0) = value.toNat := by
    rw [decimal, Nat.ofDigitChars_ten_toDigits, saturate64]
    have := value.toNat_lt
    omega
  rw [scanLabel, if_pos (List.prefix_append _ _), List.drop_left,
    scanUnsigned_space_append fun _ => isSpace_of_mem_blanks,
    scanUnsigned_append (decimal_ne_nil _) (fun _ => isDigit_of_mem_decimal) hs, hvalue]
  simp

lemma scanLabel_entry (e : MemEntry) (k : MemKey) :
    scanLabel k.label ((MeminfoLine.entry e).text ++ ['\n'])
      = (MeminfoLine.entry e).valueOf k := by
  have htext : (MeminfoLine.entry e).text ++ ['\n']
      = e.key.label ++ (blanks e.gap ++ (decimal e.value.toNat ++ (e.tail ++ ['\n']))) := by
    simp only [MeminfoLine.text, List.append_assoc]
  rw [htext, MeminfoLine.valueOf]
  by_cases hk : e.key = k
  · subst hk
    rw [if_pos rfl]
    exact scanLabel_figure e.key e.gap e.value (e.breaks.append breaks_newline)
  · rw [if_neg hk, scanLabel, if_neg fun hpre => hk (eq_of_label_isPrefix hpre).symm]

lemma scanLabel_other (o : MemOther) (k : MemKey) :
    scanLabel k.label (o.text ++ ['\n']) = none := by
  refine if_neg fun hpre => ?_
  rcases List.prefix_concat_iff.mp hpre with heq | hpre
  · exact newline_notMem_label k (by rw [heq]; simp)
  · exact o.unlabelled k hpre

/-- A line gives the seven figures it gives, one at most. -/
lemma scanLabel_line (l : MeminfoLine) (k : MemKey) :
    scanLabel k.label (l.text ++ ['\n']) = l.valueOf k := by
  cases l with
  | entry e => exact scanLabel_entry e k
  | other o => exact scanLabel_other o k

lemma get_set (info : MemoryInfo) (v : UInt64) (k k' : MemKey) :
    (info.set v k).get k' = if k = k' then v else info.get k' := by
  cases k <;> cases k' <;> rfl

lemma swapUsagePercent_set (info : MemoryInfo) (v : UInt64) (k : MemKey) :
    (info.set v k).swapUsagePercent = info.swapUsagePercent := by
  cases k <;> rfl

lemma meminfoLine_other (info : MemoryInfo) (o : MemOther) :
    meminfoLine info ((MeminfoLine.other o).text ++ ['\n']) = info := by
  simp [meminfoLine, scanLabel_line, MeminfoLine.valueOf, MemKey.all]

lemma meminfoLine_entry (info : MemoryInfo) (e : MemEntry) :
    meminfoLine info ((MeminfoLine.entry e).text ++ ['\n']) = info.set e.value e.key := by
  cases hkey : e.key <;> simp [meminfoLine, scanLabel_line, MeminfoLine.valueOf, MemKey.all, hkey]

lemma get_meminfoLine (info : MemoryInfo) (l : MeminfoLine) (k : MemKey) :
    (meminfoLine info (l.text ++ ['\n'])).get k = (l.valueOf k).getD (info.get k) := by
  cases l with
  | other o => rw [meminfoLine_other]; rfl
  | entry e =>
      rw [meminfoLine_entry, get_set, MeminfoLine.valueOf]
      split_ifs <;> rfl

lemma swapUsagePercent_meminfoLine (info : MemoryInfo) (l : MeminfoLine) :
    (meminfoLine info (l.text ++ ['\n'])).swapUsagePercent = info.swapUsagePercent := by
  cases l with
  | other o => rw [meminfoLine_other]
  | entry e => rw [meminfoLine_entry, swapUsagePercent_set]

lemma newline_notMem_text (l : MeminfoLine) : '\n' ∉ l.text := by
  cases l with
  | other o => exact o.oneLine
  | entry e =>
      simp only [MeminfoLine.text, List.mem_append, not_or]
      exact ⟨newline_notMem_label _, notMem_blanks (by decide) _, newline_notMem_decimal _,
        e.oneLine⟩

lemma length_text_lt (l : MeminfoLine) : l.text.length + 1 < 256 := by
  cases l with
  | other o => exact Nat.succ_lt_succ o.short
  | entry e => exact Nat.succ_lt_succ e.short

lemma readMeminfo_text (lines : List MeminfoLine) (info : MemoryInfo) :
    readMeminfo (meminfoText lines) info
      = lines.foldl (fun info l => meminfoLine info (l.text ++ ['\n'])) info := by
  have hshort : ∀ t ∈ lines.map (·.text), '\n' ∉ t ∧ t.length + 1 < 256 := by
    intro t ht
    obtain ⟨l, -, rfl⟩ := List.mem_map.mp ht
    exact ⟨newline_notMem_text l, length_text_lt l⟩
  have hlines := fgetsAll_lines hshort
  rw [List.flatMap_map] at hlines
  rw [readMeminfo, meminfoText, hlines, List.map_map, List.foldl_map]
  rfl

/-- **The file is read as what its lines say.** -/
lemma get_readMeminfo (lines : List MeminfoLine) (info : MemoryInfo) (k : MemKey) :
    (readMeminfo (meminfoText lines) info).get k
      = (lines.filterMap (MeminfoLine.valueOf k)).getLastD (info.get k) := by
  rw [readMeminfo_text]
  induction lines generalizing info with
  | nil => rfl
  | cons l lines ih =>
      rw [List.foldl_cons, ih, get_meminfoLine]
      cases hvalue : l.valueOf k with
      | none => rw [List.filterMap_cons_none hvalue, Option.getD_none]
      | some v => rw [List.filterMap_cons_some hvalue, Option.getD_some, List.getLastD_cons]

lemma swapUsagePercent_readMeminfo (lines : List MeminfoLine) (info : MemoryInfo) :
    (readMeminfo (meminfoText lines) info).swapUsagePercent = info.swapUsagePercent := by
  rw [readMeminfo_text]
  induction lines generalizing info with
  | nil => rfl
  | cons l lines ih => rw [List.foldl_cons, ih, swapUsagePercent_meminfoLine]

end Reading

/-! ## The pressure -/

section Pressure

variable {info : MemoryInfo}

/-- The pressure by the available memory alone. -/
def MemoryInfo.base (info : MemoryInfo) : ℚ :=
  1 - (info.availableKb.toNat : ℚ) / info.totalKb.toNat

/-- The part of the swap that `used` is. -/
def MemoryInfo.swapFactor (info : MemoryInfo) (used : UInt64) : ℚ :=
  (used.toNat : ℚ) / info.swapTotalKb.toNat

lemma base_le_one (info : MemoryInfo) : info.base ≤ 1 := by
  have hratio : (0 : ℚ) ≤ (info.availableKb.toNat : ℚ) / info.totalKb.toNat :=
    div_nonneg (Nat.cast_nonneg _) (Nat.cast_nonneg _)
  unfold MemoryInfo.base
  linarith

lemma swapFactor_le_one {used : UInt64} (h : used ≤ info.swapTotalKb) :
    info.swapFactor used ≤ 1 :=
  div_le_one_of_le₀ (Nat.cast_le.mpr (UInt64.le_iff_toNat_le.mp h)) (Nat.cast_nonneg _)

lemma swapFactor_mono {a b : UInt64} (h : a ≤ b) : info.swapFactor a ≤ info.swapFactor b :=
  div_le_div_of_nonneg_right (Nat.cast_le.mpr (UInt64.le_iff_toNat_le.mp h)) (Nat.cast_nonneg _)

/-- The pressure is cut off above. -/
lemma memoryCalculatePressure_le_one (info : MemoryInfo) : memoryCalculatePressure info ≤ 1 := by
  have hcut : ∀ p : ℚ, (if 1 < p then 1 else p) ≤ 1 := by
    intro p
    split_ifs with h
    · exact le_rfl
    · exact not_lt.mp h
  unfold memoryCalculatePressure
  by_cases htotal : info.totalKb = 0
  · rw [if_pos htotal]
    exact zero_le_one
  · rw [if_neg htotal]
    exact hcut _

/-- As long as no more swap is in use than there is, the pressure is not cut off. -/
lemma memoryCalculatePressure_eq (htotal : info.totalKb ≠ 0) {used : UInt64}
    (hinfo : info.swapUsedKb = used) (hused : used ≤ info.swapTotalKb) :
    memoryCalculatePressure info
      = if 0 < used then info.base * (7 / 10) + info.swapFactor used * (3 / 10)
        else info.base := by
  have hbase := base_le_one info
  have hfactor := swapFactor_le_one hused
  have hswap : (0 < info.swapTotalKb ∧ 0 < used) ↔ 0 < used :=
    and_iff_right_of_imp fun h => UInt64.lt_of_lt_of_le h hused
  rw [memoryCalculatePressure, if_neg htotal]
  simp only [hinfo, hswap, ← MemoryInfo.base.eq_def, ← MemoryInfo.swapFactor.eq_def]
  split_ifs with hin hcut hcut
  · linarith
  · rfl
  · linarith
  · rfl

lemma cast_pos_of_ne_zero {x : UInt64} (h : x ≠ 0) : (0 : ℚ) < x.toNat := by
  rw [Nat.cast_pos, Nat.pos_iff_ne_zero]
  exact fun hzero => h (UInt64.toNat_inj.mp hzero)

lemma base_le_swapFactor_iff (htotal : info.totalKb ≠ 0) (hswap : info.swapTotalKb ≠ 0)
    (havailable : info.availableKb ≤ info.totalKb) (used : UInt64) :
    info.base ≤ info.swapFactor used ↔
      (info.totalKb.toNat - info.availableKb.toNat) * info.swapTotalKb.toNat
        ≤ used.toNat * info.totalKb.toNat := by
  have ht := cast_pos_of_ne_zero htotal
  have hs := cast_pos_of_ne_zero hswap
  have hbase : info.base
      = ((info.totalKb.toNat - info.availableKb.toNat : ℕ) : ℚ) / info.totalKb.toNat := by
    rw [Nat.cast_sub (UInt64.le_iff_toNat_le.mp havailable), sub_div, div_self ht.ne']
    rfl
  rw [hbase, MemoryInfo.swapFactor, div_le_div_iff₀ ht hs]
  norm_cast

end Pressure

/-- **More swap in use, no less pressure** exactly when some was in use before, or none is after, or
as much of the swap is in use as of the memory.  With the first bit of swap the weight of the memory
falls to 0.7. -/
theorem pressure_mono_iff (info : MemoryInfo) {a b : UInt64} (htotal : 0 < info.totalKb)
    (havailable : info.availableKb ≤ info.totalKb) (hab : a ≤ b) (hb : b ≤ info.swapTotalKb) :
    memoryCalculatePressure { info with swapUsedKb := a }
        ≤ memoryCalculatePressure { info with swapUsedKb := b } ↔
      0 < a ∨ b = 0 ∨
        (info.totalKb.toNat - info.availableKb.toNat) * info.swapTotalKb.toNat
          ≤ b.toNat * info.totalKb.toNat := by
  have hne : info.totalKb ≠ 0 := fun h => by simp [h] at htotal
  have hpressure : ∀ u ≤ info.swapTotalKb, memoryCalculatePressure { info with swapUsedKb := u }
      = if 0 < u then info.base * (7 / 10) + info.swapFactor u * (3 / 10) else info.base := by
    intro u hu
    have htotal' : ({ info with swapUsedKb := u } : MemoryInfo).totalKb ≠ 0 := hne
    exact memoryCalculatePressure_eq htotal' rfl hu
  rw [hpressure a (UInt64.le_trans hab hb), hpressure b hb]
  rcases eq_or_ne b 0 with rfl | hb0
  · -- then there is none in either
    obtain rfl : a = 0 := UInt64.le_zero_iff.mp hab
    simp
  have hbpos : 0 < b := UInt64.pos_iff_ne_zero.mpr hb0
  rw [if_pos hbpos]
  rcases eq_or_ne a 0 with rfl | ha0
  · have hswap : info.swapTotalKb ≠ 0 := fun h => hb0 (UInt64.le_zero_iff.mp (h ▸ hb))
    rw [if_neg (UInt64.lt_irrefl 0), ← base_le_swapFactor_iff hne hswap havailable,
      or_iff_right (UInt64.lt_irrefl 0), or_iff_right hb0]
    constructor
    · intro h
      linarith
    · intro h
      linarith
  · have hapos : 0 < a := UInt64.pos_iff_ne_zero.mpr ha0
    have hfactor : info.swapFactor a ≤ info.swapFactor b := swapFactor_mono hab
    rw [if_pos hapos]
    exact iff_of_true (by linarith) (Or.inl hapos)

/-- A megabyte in use of ten, all memory taken. -/
def swapInfo (used : UInt64) : MemoryInfo :=
  { MemoryInfo.zero with totalKb := 10240, swapTotalKb := 10240, swapUsedKb := used }

/-- One megabyte of swap after another. -/
theorem pressure_mono_used :
    memoryCalculatePressure (swapInfo 1024) ≤ memoryCalculatePressure (swapInfo 2048) :=
  (pressure_mono_iff (swapInfo 0) (by decide) (by decide) (by decide) (by decide)).mpr
    (Or.inl (by decide))

/-- The first megabyte of swap: the pressure falls from 1 to 0.73. -/
theorem pressure_falls_with_swap :
    ¬ ∀ (info : MemoryInfo) (a b : UInt64), 0 < info.totalKb → info.availableKb ≤ info.totalKb →
      a ≤ b → b ≤ info.swapTotalKb →
      memoryCalculatePressure { info with swapUsedKb := a }
        ≤ memoryCalculatePressure { info with swapUsedKb := b } := by
  intro hclaim
  have hle := hclaim (swapInfo 0) 0 1024 (by decide) (by decide) (by decide) (by decide)
  exact absurd hle (by decide +kernel)

/-! ## The ranges -/

section Ranges

variable {info : MemoryInfo}

/-- The percentage is in its range when the swap in use is, and zero without swap. -/
lemma swapUsagePercent_range (hpercent : info.swapUsagePercent = 0)
    (hused : info.swapTotalKb - info.swapFreeKb ≤ info.swapTotalKb) :
    0 ≤ (swapFigures info).swapUsagePercent ∧ (swapFigures info).swapUsagePercent ≤ 100 := by
  have hone := swapFactor_le_one hused
  have hnonneg : 0 ≤ info.swapFactor (info.swapTotalKb - info.swapFreeKb) :=
    div_nonneg (Nat.cast_nonneg _) (Nat.cast_nonneg _)
  unfold MemoryInfo.swapFactor at hone hnonneg
  unfold swapFigures
  split_ifs
  · exact ⟨by linarith, by linarith⟩
  · exact ⟨hpercent.ge, hpercent.le.trans (by norm_num)⟩

/-- The difference of the two figures is taken modulo 2^64. -/
lemma sub_le_iff {total free : UInt64} : total - free ≤ total ↔ free ≤ total := by
  rw [UInt64.le_iff_toNat_le, UInt64.le_iff_toNat_le, UInt64.toNat_sub]
  have ht := total.toNat_lt
  have hf := free.toNat_lt
  omega

/-- The two weights over a common denominator. -/
lemma blend_nonneg_iff {a t s f : ℚ} (ht : 0 < t) (hs : 0 < s) :
    0 ≤ (1 - a / t) * (7 / 10) + (s - f) / s * (3 / 10) ↔ 7 * a * s ≤ t * (10 * s - 3 * f) := by
  have heq : (1 - a / t) * (7 / 10) + (s - f) / s * (3 / 10)
      = (t * (10 * s - 3 * f) - 7 * a * s) / (10 * t * s) := by
    field_simp
    ring
  have hden : 0 < 10 * t * s := mul_pos (mul_pos (by norm_num) ht) hs
  rw [heq, le_div_iff₀ hden, zero_mul, sub_nonneg]

lemma base_nonneg_iff (htotal : info.totalKb ≠ 0) :
    0 ≤ info.base ↔ info.availableKb ≤ info.totalKb := by
  rw [MemoryInfo.base, sub_nonneg, div_le_one₀ (cast_pos_of_ne_zero htotal), Nat.cast_le,
    UInt64.le_iff_toNat_le]

/-- The pressure is not negative when no more memory is available than there is, or the swap in use
makes up for it. -/
lemma pressure_nonneg_iff (htotal : info.totalKb ≠ 0) {free : UInt64}
    (hused : info.swapUsedKb = info.swapTotalKb - free) (hfree : free ≤ info.swapTotalKb) :
    0 ≤ memoryCalculatePressure info ↔ info.availableKb ≤ info.totalKb ∨
      free < info.swapTotalKb ∧ 7 * info.availableKb.toNat * info.swapTotalKb.toNat
        ≤ info.totalKb.toNat * (10 * info.swapTotalKb.toNat - 3 * free.toNat) := by
  have hle := UInt64.le_iff_toNat_le.mp hfree
  have hsub : (info.swapTotalKb - free).toNat = info.swapTotalKb.toNat - free.toNat :=
    UInt64.toNat_sub_of_le _ _ hfree
  have hpos : 0 < info.swapTotalKb - free ↔ free < info.swapTotalKb := by
    rw [UInt64.lt_iff_toNat_lt, UInt64.lt_iff_toNat_lt, hsub]
    exact Nat.sub_pos_iff_lt
  rw [memoryCalculatePressure_eq htotal hused (sub_le_iff.mpr hfree), ← base_nonneg_iff htotal]
  by_cases hin : free < info.swapTotalKb
  · have hlt := UInt64.lt_iff_toNat_lt.mp hin
    have hs : (0 : ℚ) < info.swapTotalKb.toNat := Nat.cast_pos.mpr (by omega)
    have hfactor : 0 ≤ info.swapFactor (info.swapTotalKb - free) :=
      div_nonneg (Nat.cast_nonneg _) (Nat.cast_nonneg _)
    have hblend := blend_nonneg_iff (a := info.availableKb.toNat) (f := free.toNat)
      (cast_pos_of_ne_zero htotal) hs
    -- the same inequality between natural numbers
    have hnat : 7 * (info.availableKb.toNat : ℚ) * info.swapTotalKb.toNat
          ≤ info.totalKb.toNat * (10 * info.swapTotalKb.toNat - 3 * free.toNat) ↔
        7 * info.availableKb.toNat * info.swapTotalKb.toNat
          ≤ info.totalKb.toNat * (10 * info.swapTotalKb.toNat - 3 * free.toNat) := by
      have hcast : ((10 * info.swapTotalKb.toNat - 3 * free.toNat : ℕ) : ℚ)
          = 10 * info.swapTotalKb.toNat - 3 * free.toNat := by
        rw [Nat.cast_sub (by omega), Nat.cast_mul, Nat.cast_mul]
        rfl
      rw [← hcast]
      norm_cast
    rw [if_pos (hpos.mpr hin), and_iff_right hin, ← hnat, ← hblend, MemoryInfo.swapFactor, hsub,
      Nat.cast_sub hle]
    rw [MemoryInfo.swapFactor, hsub, Nat.cast_sub hle] at hfactor
    refine (or_iff_right_of_imp fun hbase => ?_).symm
    linarith
  · rw [if_neg fun h => hin (hpos.mp h)]
    simp [hin]

end Ranges

/-- **The figures are in their ranges** exactly when no more swap is free than there is and, if
there is any memory, no more of it is available than there is, or the swap in use makes up for
it. -/
theorem memory_figures_iff (lines : List MeminfoLine) :
    let v := meminfoValue lines
    let info := (memoryGetInfo (some (meminfoText lines))).1
    ((memoryGetInfo (some (meminfoText lines))).2 = .success → info.swapUsedKb ≤ info.swapTotalKb ∧
        (0 ≤ info.swapUsagePercent ∧ info.swapUsagePercent ≤ 100) ∧
        0 ≤ info.memoryPressure ∧ info.memoryPressure ≤ 1) ↔
      v .swapFree ≤ v .swapTotal ∧ (v .memTotal = 0 ∨ v .memAvailable ≤ v .memTotal ∨
        v .swapFree < v .swapTotal ∧ 7 * (v .memAvailable).toNat * (v .swapTotal).toNat
          ≤ (v .memTotal).toNat * (10 * (v .swapTotal).toNat - 3 * (v .swapFree).toNat)) := by
  intro v info
  obtain ⟨read, hread⟩ : ∃ read, readMeminfo (meminfoText lines) .zero = read := ⟨_, rfl⟩
  have hget : ∀ k, read.get k = v k := by
    intro k
    rw [← hread, get_readMeminfo]
    cases k <;> rfl
  have hpercent : read.swapUsagePercent = 0 := by
    rw [← hread, swapUsagePercent_readMeminfo]
    rfl
  have hinfo : memoryGetInfo (some (meminfoText lines)) = ({ swapFigures read with
      memoryPressure := memoryCalculatePressure (swapFigures read) }, .success) := by
    rw [← hread]
    rfl
  have htotal : read.totalKb = v .memTotal := hget .memTotal
  have havailable : read.availableKb = v .memAvailable := hget .memAvailable
  have hswap : read.swapTotalKb = v .swapTotal := hget .swapTotal
  have hfree : read.swapFreeKb = v .swapFree := hget .swapFree
  have hused : (swapFigures read).swapUsedKb = (swapFigures read).swapTotalKb - read.swapFreeKb :=
    rfl
  simp only [info, hinfo, true_imp_iff]
  rw [hused, sub_le_iff, ← htotal, ← havailable, ← hswap, ← hfree]
  refine and_congr_right fun hle => ?_
  rw [and_iff_right (swapUsagePercent_range hpercent (sub_le_iff.mpr hle))]
  by_cases hzero : read.totalKb = 0
  · have hnone : memoryCalculatePressure (swapFigures read) = 0 := if_pos hzero
    rw [hnone]
    exact iff_of_true ⟨le_rfl, zero_le_one⟩ (Or.inl hzero)
  · have hne : (swapFigures read).totalKb ≠ 0 := hzero
    rw [and_iff_left (memoryCalculatePressure_le_one _), or_iff_right hzero]
    exact pressure_nonneg_iff hne hused hle

/-- More free swap than swap: 2^64 - 1 kilobytes in use. -/
theorem memory_figures_wrap :
    ¬ ∀ lines : List MeminfoLine,
      let info := (memoryGetInfo (some (meminfoText lines))).1
      (memoryGetInfo (some (meminfoText lines))).2 = .success →
        info.swapUsedKb ≤ info.swapTotalKb ∧
        (0 ≤ info.swapUsagePercent ∧ info.swapUsagePercent ≤ 100) ∧
        0 ≤ info.memoryPressure ∧ info.memoryPressure ≤ 1 := by
  intro hclaim
  have hrange := hclaim [.entry ⟨.swapTotal, 1, 1, [], breaks_nil, by decide, by decide⟩,
    .entry ⟨.swapFree, 1, 2, [], breaks_nil, by decide, by decide⟩] (by decide +kernel)
  exact absurd hrange.1 (by decide +kernel)

end Storage

import StorageManager.Lib.Slots
import StorageManager.Memory.Info
import Mathlib.Data.List.Nodup

/-!
# `/proc/meminfo` as a table of keys

`memory_parse_meminfo` tries each line against seven patterns that all write into the result.  A
pattern stores only if its label, colon included, is where the line begins, so the label is the
whole key of the line: `SwapCached` is not taken for `Cached`, nor `MemTotalHuge` for `MemTotal`.

* `meminfoLine_text` — a line stores its value under its own key, or nothing.
* `foldl_pieces` — the same for a line that fills the buffer, whose end comes as a line of its own.
* `meminfo_decoded` — the whole file.  Lines with distinct keys store in distinct fields, so their
  order does not matter.
-/

namespace Storage

open CString

/-- A line `Key: value kB`.  The key is what stands before the first colon. -/
structure KeyLine where
  key : CStr
  gap : ℕ
  value : UInt64
  noColon : ':' ∉ key
  oneLine : '\n' ∉ key
  short : (key ++ ':' :: (blanks gap ++ (decimal value.toNat ++ " kB".toList))).length < 256

namespace KeyLine

/-- The line as it is printed. -/
def text (l : KeyLine) : CStr :=
  l.key ++ ':' :: (blanks l.gap ++ (decimal l.value.toNat ++ " kB".toList))

/-- The field the line belongs to, if it is one of the seven. -/
def memKey (l : KeyLine) : Option MemKey := MemKey.all.find? fun k => k.name = l.key

/-- The line's value in its field. -/
def store (info : MemoryInfo) (l : KeyLine) : MemoryInfo :=
  match l.memKey with
  | some k => info.set l.value k
  | none => info

end KeyLine

/-- The contents of the file. -/
def keyLinesText (lines : List KeyLine) : CStr := lines.flatMap fun l => l.text ++ ['\n']

/-! ## One line -/

lemma MemKey.mem_all (k : MemKey) : k ∈ MemKey.all := by
  cases k <;> decide

lemma name_of_memKey {l : KeyLine} {k : MemKey} (h : l.memKey = some k) : k.name = l.key :=
  of_decide_eq_true (List.find?_some (p := fun k : MemKey => decide (k.name = l.key)) h)

/-- The line of a key belongs to its field. -/
lemma memKey_eq_some_iff {l : KeyLine} {k : MemKey} : l.memKey = some k ↔ l.key = k.name := by
  refine ⟨fun h => (name_of_memKey h).symm, fun h => ?_⟩
  exact Slots.find?_of_unique k.mem_all (decide_eq_true h.symm) fun k' _ hk' =>
    name_injective ((of_decide_eq_true hk').trans h)

/-- Only the pattern of the line's own key stores, and it stores the value. -/
lemma scanLabel_text (l : KeyLine) (k : MemKey) (s : CStr) :
    scanLabel k.label (l.text ++ s) = if k.name = l.key then some l.value else none := by
  have htext : l.text ++ s
      = l.key ++ ':' :: (blanks l.gap ++ (decimal l.value.toNat ++ (" kB".toList ++ s))) := by
    simp only [KeyLine.text, List.append_assoc, List.cons_append]
  rw [htext]
  by_cases hk : k.name = l.key
  · rw [if_pos hk, ← hk, ← List.singleton_append, ← List.append_assoc]
    exact scanLabel_figure k l.gap l.value (breaks_blanks_append 0 _)
  · rw [if_neg hk, scanLabel]
    refine if_neg ?_
    rintro ⟨t, ht⟩
    rw [MemKey.label, List.append_assoc, List.singleton_append] at ht
    exact hk (append_cons_inj (colon_notMem_name k) l.noColon ht).1

/-- **A line stores its value under its own key, or nothing**, whatever follows it. -/
lemma meminfoLine_text (info : MemoryInfo) (l : KeyLine) (s : CStr) :
    meminfoLine info (l.text ++ s) = l.store info := by
  have hkey : (MemKey.all.findSome? fun k => (scanLabel k.label (l.text ++ s)).map fun v => (k, v))
      = l.memKey.map fun k => (k, l.value) := by
    simp only [scanLabel_text, apply_ite (Option.map _), Option.map_some, Option.map_none]
    exact Slots.findSome?_ite _ (fun k => (k, l.value)) MemKey.all
  rw [meminfoLine, hkey, KeyLine.store]
  cases l.memKey <;> rfl

/-- The end of a line on its own stores nothing. -/
lemma meminfoLine_newline (info : MemoryInfo) : meminfoLine info ['\n'] = info := rfl

lemma KeyLine.newline_notMem_text (l : KeyLine) : '\n' ∉ l.text := by
  simp only [KeyLine.text, List.mem_append, List.mem_cons, not_or]
  exact ⟨l.oneLine, by decide, notMem_blanks (by decide) _, newline_notMem_decimal _, by decide⟩

/-- A line is read whole, or its end is read on its own; either way it is stored once. -/
lemma foldl_pieces (info : MemoryInfo) (l : KeyLine) :
    (fgetsAll 256 (l.text ++ ['\n'])).foldl meminfoLine info = l.store info := by
  have hshort : l.text.length < 256 := l.short
  rcases Nat.lt_or_ge (l.text.length + 1) 256 with hfits | hfull
  · rw [fgetsAll, fgetsFrom_line l.newline_notMem_text (by simpa using hfits)]
    exact meminfoLine_text info l ['\n']
  · have hne : l.text ≠ [] := List.append_ne_nil_of_right_ne_nil _ (List.cons_ne_nil _ _)
    have hlength : ([] : CStr).length + l.text.length + 1 = 256 := by
      rw [List.length_nil]
      omega
    have hline := meminfoLine_text info l []
    rw [List.append_nil] at hline
    rw [fgetsAll, fgetsFrom_full l.newline_notMem_text hne hlength, List.foldl_cons,
      List.nil_append, hline]
    exact meminfoLine_newline _

/-! ## The file -/

lemma readMeminfo_keyLines (lines : List KeyLine) (info : MemoryInfo) :
    readMeminfo (keyLinesText lines) info = lines.foldl KeyLine.store info := by
  have hpieces := fgetsAll_append_lines 256 (lines.map KeyLine.text) []
  rw [List.append_nil, List.flatMap_map, List.flatMap_map] at hpieces
  rw [readMeminfo, keyLinesText, hpieces]
  change List.foldl _ _ ((lines.flatMap fun l => fgetsAll 256 (l.text ++ ['\n'])) ++ []) = _
  rw [List.append_nil, List.foldl_flatMap]
  simp only [foldl_pieces]

/-- Two fields are stored in either order. -/
lemma set_comm {k k' : MemKey} (h : k ≠ k') (info : MemoryInfo) (v v' : UInt64) :
    (info.set v k).set v' k' = (info.set v' k').set v k := by
  cases k <;> cases k' <;> first | rfl | exact absurd rfl h

/-- Lines with different keys are stored in either order. -/
lemma store_comm {l l' : KeyLine} (h : l.key ≠ l'.key) (info : MemoryInfo) :
    l'.store (l.store info) = l.store (l'.store info) := by
  unfold KeyLine.store
  cases hl : l.memKey with
  | none => rfl
  | some k =>
      cases hl' : l'.memKey with
      | none => rfl
      | some k' =>
          refine set_comm ?_ info l.value l'.value
          rintro rfl
          exact h ((name_of_memKey hl).symm.trans (name_of_memKey hl'))

lemma get_store (info : MemoryInfo) (l : KeyLine) (k : MemKey) :
    (l.store info).get k = if l.key = k.name then l.value else info.get k := by
  simp only [← memKey_eq_some_iff, KeyLine.store]
  cases l.memKey with
  | none => rfl
  | some k' => simp only [get_set, Option.some.injEq]

/-- A field of which there is no line is left alone. -/
lemma get_foldl_of_notMem {lines : List KeyLine} {k : MemKey}
    (h : k.name ∉ lines.map KeyLine.key) (info : MemoryInfo) :
    (lines.foldl KeyLine.store info).get k = info.get k := by
  induction lines generalizing info with
  | nil => rfl
  | cons l lines ih =>
      rw [List.map_cons, List.mem_cons, not_or] at h
      rw [List.foldl_cons, ih h.2, get_store, if_neg (Ne.symm h.1)]

/-- A field of which there is one line gets its value: no later line writes it again. -/
lemma get_foldl_of_mem {lines : List KeyLine} {l : KeyLine} {k : MemKey}
    (hkeys : (lines.map KeyLine.key).Nodup) (hl : l ∈ lines) (hk : l.key = k.name)
    (info : MemoryInfo) : (lines.foldl KeyLine.store info).get k = l.value := by
  induction lines generalizing info with
  | nil => exact absurd hl List.not_mem_nil
  | cons l' lines ih =>
      rw [List.map_cons, List.nodup_cons] at hkeys
      rw [List.foldl_cons]
      rcases List.mem_cons.mp hl with rfl | hl
      · rw [get_foldl_of_notMem (by rw [← hk]; exact hkeys.1), get_store, if_pos hk]
      · exact ih hkeys.2 hl _

lemma foldl_store_perm {lines lines' : List KeyLine} (hkeys : (lines.map KeyLine.key).Nodup)
    (hperm : lines'.Perm lines) (info : MemoryInfo) :
    lines'.foldl KeyLine.store info = lines.foldl KeyLine.store info := by
  refine (hperm.symm.foldl_eq' (fun l hl l' hl' info => ?_) info).symm
  by_cases hkey : l.key = l'.key
  · rw [List.inj_on_of_nodup_map hkeys hl hl' hkey]
  · exact store_comm hkey info

/-- The rest of `memory_get_info`, once the lines are read. -/
def memoryFigures (info : MemoryInfo) : MemoryInfo :=
  { swapFigures info with memoryPressure := memoryCalculatePressure (swapFigures info) }

lemma memoryGetInfo_keyLines (lines : List KeyLine) :
    memoryGetInfo (some (keyLinesText lines))
      = (memoryFigures (lines.foldl KeyLine.store .zero), .success) := by
  rw [← readMeminfo_keyLines]
  rfl

/-- The rest leaves the seven fields alone. -/
lemma get_memoryFigures (info : MemoryInfo) (k : MemKey) :
    (memoryFigures info).get k = info.get k := by
  cases k <;> rfl

/-- **The file is decoded by its keys.**  Each of the seven fields is the value of its own key, or
0 when the key is not there, whatever other keys there are; and any order of the lines gives the
same result. -/
theorem meminfo_decoded (lines : List KeyLine) (hkeys : (lines.map KeyLine.key).Nodup) :
    (memoryGetInfo (some (keyLinesText lines))).2 = .success ∧
    (∀ l ∈ lines, ∀ k : MemKey, l.key = k.name →
      (memoryGetInfo (some (keyLinesText lines))).1.get k = l.value) ∧
    (∀ k : MemKey, k.name ∉ lines.map KeyLine.key →
      (memoryGetInfo (some (keyLinesText lines))).1.get k = 0) ∧
    ∀ lines' : List KeyLine, lines'.Perm lines →
      memoryGetInfo (some (keyLinesText lines')) = memoryGetInfo (some (keyLinesText lines)) := by
  rw [memoryGetInfo_keyLines]
  refine ⟨rfl, fun l hl k hk => ?_, fun k hk => ?_, fun lines' hperm => ?_⟩
  · rw [get_memoryFigures, get_foldl_of_mem hkeys hl hk]
  · rw [get_memoryFigures, get_foldl_of_notMem hk]
    cases k <;> rfl
  · rw [memoryGetInfo_keyLines, foldl_store_perm hkeys hperm]

/-- A line `Cached` and two look-alikes. -/
def cachedLine : KeyLine := ⟨"Cached".toList, 1, 512, by decide, by decide, by decide⟩

/-- A line whose key ends in `Cached`. -/
def swapCachedLine : KeyLine := ⟨"SwapCached".toList, 8, 7, by decide, by decide, by decide⟩

/-- A line whose key begins with `Cached`. -/
def cachedHugeLine : KeyLine := ⟨"CachedHuge".toList, 0, 9, by decide, by decide, by decide⟩

/-- The look-alikes are not taken for the line, in either order. -/
theorem meminfo_decoded_cached :
    let lines := [swapCachedLine, cachedLine, cachedHugeLine]
    (memoryGetInfo (some (keyLinesText lines))).1.cachedKb = 512 ∧
      (memoryGetInfo (some (keyLinesText lines))).1.swapTotalKb = 0 ∧
      memoryGetInfo (some (keyLinesText lines.reverse))
        = memoryGetInfo (some (keyLinesText lines)) := by
  intro lines
  obtain ⟨-, hvalue, habsent, horder⟩ := meminfo_decoded lines (by decide)
  exact ⟨hvalue cachedLine (by simp [lines]) .cached rfl, habsent .swapTotal (by decide),
    horder _ (List.reverse_perm _)⟩

end Storage

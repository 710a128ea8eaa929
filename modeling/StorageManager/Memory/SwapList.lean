import StorageManager.Common
import StorageManager.Lib.Columns

/-!
# Listing the swap areas

`swap_list` reads `/proc/swaps`: it passes over the first line and makes an entry of everything
`fgets` returns after that, without a look at what `sscanf` says.

The file is printed by the kernel from the active areas, one row each.  Blanks, tabs, line ends and
backslashes in a path are written as a backslash and three octal digits, which `swap_list` does not
undo; other white space is written as it is, and ends the path for `sscanf`.  A row that does not
fit the buffer is read in pieces, and each of them becomes an entry.

* `SwapRow.entry_eq` — what becomes of a row that is read in one piece.
* `swap_list_iff` — the entries are the areas exactly if every row fits and no path has white space
  or a backslash in it.
-/

namespace Storage

open CString

/-! ## The function -/

/-- `swap_info_t`. -/
structure SwapInfo where
  path : CStr
  type : CStr
  sizeKb : UInt64
  usedKb : UInt64
  priority : ℤ
  isActive : ℤ
  deriving DecidableEq

/-- What `sscanf` stores into: three fields of the entry and two variables. -/
structure SwapLine where
  path : CStr
  type : CStr
  size : UInt64
  used : UInt64
  priority : ℤ

/-- `"%255s %15s %lu %lu %d"`. -/
def swapFormat : List (Conversion SwapLine) :=
  [wordTo 255 fun w l => { l with path := w },
    wordTo 15 fun w l => { l with type := w },
    unsignedTo fun n l => { l with size := .ofNat n },
    unsignedTo fun n l => { l with used := .ofNat n },
    signedTo fun n l => { l with priority := n }]

/-- The entry for a piece of the file.  The two variables are not initialised. -/
def swapEntry (junk : UInt64 × UInt64) (piece : CStr) : SwapInfo :=
  let l := (runScan swapFormat ⟨[], [], junk.1, junk.2, 0⟩ piece).1
  ⟨l.path, l.type, l.size, l.used, l.priority, 1⟩

/-- `swap_list`: the code, and the entries the caller is told of.  Without the file the caller's
count is left as it was. -/
def swapList (junk : ℕ → UInt64 × UInt64) (file : Option CStr) (maxSwaps : ℤ) :
    Ret × Option (List SwapInfo) :=
  match file with
  | none => (.errorSystemCall, none)
  | some content =>
      (.success, some (((fgetsAll 256 content).tail.take maxSwaps.toNat).mapIdx fun i piece =>
        swapEntry (junk i) piece))

/-! ## The file -/

/-- An active area. -/
structure SwapArea where
  path : CStr
  path_ne_nil : path ≠ []
  isFile : Bool
  sizeKb : UInt64
  usedKb : UInt64
  priority : Int32

/-- A character of a path, as the kernel writes it. -/
def mangle (c : Char) : CStr :=
  if c = ' ' then ['\\', '0', '4', '0']
  else if c = '\t' then ['\\', '0', '1', '1']
  else if c = '\n' then ['\\', '0', '1', '2']
  else if c = '\\' then ['\\', '1', '3', '4']
  else [c]

/-- A row of the file, with the white space in it. -/
structure SwapRow extends SwapArea where
  spacing : Spacing

namespace SwapRow

variable (r : SwapRow)

/-- The column `Type`. -/
def typeText : CStr := if r.isFile then "file".toList else "partition".toList

/-- The path as the kernel prints it. -/
def mangled : CStr := r.path.flatMap mangle

/-- The row as it is printed. -/
def text : CStr :=
  r.spacing.text 0 [r.mangled, r.typeText, decimal r.sizeKb.toNat, decimal r.usedKb.toNat,
    intText r.priority.toInt]

/-- The entry that the area should have. -/
def info : SwapInfo := ⟨r.path, r.typeText, r.sizeKb, r.usedKb, r.priority.toInt, 1⟩

end SwapRow

/-- The file `/proc/swaps`. -/
def swapsText (header : CStr) (rows : List SwapRow) : CStr :=
  (header :: rows.map SwapRow.text).flatMap fun l => l ++ ['\n']

/-! ## One row -/

section Pieces

variable {α β : Type*} {g : α → List β} {xs : List α}

lemma length_le_flatMap (hpos : ∀ x ∈ xs, 1 ≤ (g x).length) :
    xs.length ≤ (xs.flatMap g).length := by
  induction xs with
  | nil => exact le_rfl
  | cons x xs ih =>
      obtain ⟨hx, hrest⟩ := List.forall_mem_cons.mp hpos
      have hle := ih hrest
      rw [List.flatMap_cons, List.length_append, List.length_cons]
      omega

/-- As many pieces as there are things that have pieces: one each. -/
lemma length_eq_one_of_flatMap (hpos : ∀ x ∈ xs, 1 ≤ (g x).length)
    (h : (xs.flatMap g).length = xs.length) : ∀ x ∈ xs, (g x).length = 1 := by
  induction xs with
  | nil => simp
  | cons x xs ih =>
      obtain ⟨hx, hrest⟩ := List.forall_mem_cons.mp hpos
      have hle := length_le_flatMap hrest
      rw [List.flatMap_cons, List.length_append, List.length_cons] at h
      exact List.forall_mem_cons.mpr ⟨by omega, ih hrest (by omega)⟩

end Pieces

section Mangled

variable {p : CStr}

lemma mangle_ne_nil (c : Char) : mangle c ≠ [] := by
  unfold mangle
  split_ifs <;> simp

lemma mangle_of_plain {c : Char} (hc : isSpace c = false) (hb : c ≠ '\\') : mangle c = [c] := by
  have hne : ∀ d, isSpace d = true → c ≠ d := by
    rintro d hd rfl
    rw [hc] at hd
    exact Bool.noConfusion hd
  simp [mangle, hne ' ' rfl, hne '\t' rfl, hne '\n' rfl, hb]

lemma noSpace_mangle {c : Char} (hc : isSpace c = false) : ∀ d ∈ mangle c, isSpace d = false := by
  by_cases hb : c = '\\'
  · subst hb
    exact noSpace_of_all rfl
  · rw [mangle_of_plain hc hb]
    simpa using hc

lemma newline_notMem_mangle (c : Char) : '\n' ∉ mangle c := by
  unfold mangle
  split_ifs with h1 h2 h3 h4
  · decide
  · decide
  · decide
  · decide
  · simpa using Ne.symm h3

lemma newline_notMem_mangled (p : CStr) : '\n' ∉ p.flatMap mangle := by
  intro h
  obtain ⟨c, -, hc⟩ := List.mem_flatMap.mp h
  exact newline_notMem_mangle c hc

/-- A path is written as it is if there is nothing in it to be written otherwise. -/
lemma mangled_of_plain (h : ∀ c ∈ p, isSpace c = false ∧ c ≠ '\\') : p.flatMap mangle = p := by
  induction p with
  | nil => rfl
  | cons c p ih =>
      obtain ⟨hc, hp⟩ := List.forall_mem_cons.mp h
      rw [List.flatMap_cons, mangle_of_plain hc.1 hc.2, ih hp, List.singleton_append]

lemma flatMap_mangle_ne_nil (h : p ≠ []) : p.flatMap mangle ≠ [] := by
  obtain ⟨c, p, rfl⟩ := List.exists_cons_of_ne_nil h
  simp [mangle_ne_nil]

/-- A backslash is never written as it is. -/
lemma backslash_notMem_of_mangled (h : p.flatMap mangle = p) : '\\' ∉ p := by
  intro hmem
  have hpos : ∀ c ∈ p, 1 ≤ (mangle c).length := fun c _ =>
    List.length_pos_iff_ne_nil.mpr (mangle_ne_nil c)
  have hone := length_eq_one_of_flatMap hpos (congrArg List.length h) _ hmem
  exact absurd hone (by decide)

end Mangled

section TypeText

variable (r : SwapRow)

lemma SwapRow.typeText_ne_nil : r.typeText ≠ [] := by
  unfold SwapRow.typeText
  split <;> decide

lemma SwapRow.noSpace_typeText : ∀ c ∈ r.typeText, isSpace c = false := by
  unfold SwapRow.typeText
  split <;> exact noSpace_of_all rfl

lemma SwapRow.length_typeText_le : r.typeText.length ≤ 15 := by
  unfold SwapRow.typeText
  split <;> decide

end TypeText

section Entry

variable {r : SwapRow} {junk : UInt64 × UInt64}

/-- The path ends at the first white space. -/
lemma noSpace_path_swapEntry (junk : UInt64 × UInt64) (piece : CStr) :
    ∀ c ∈ (swapEntry junk piece).path, isSpace c = false := by
  have hkeeps : ∀ c ∈ swapFormat.tail, ∀ a s a' s', c a s = some (a', s') →
      a'.path = (a : SwapLine).path := by
    simp only [swapFormat, List.tail_cons, List.forall_mem_cons]
    refine ⟨?_, ?_, ?_, ?_, fun _ h => absurd h List.not_mem_nil⟩ <;>
      · intro a s a' s' h
        obtain ⟨q, -, hq⟩ := Option.map_eq_some_iff.mp h
        obtain ⟨rfl, -⟩ := Prod.mk.inj hq
        rfl
  rw [swapEntry, swapFormat, runScan]
  cases hword : wordTo 255 (fun w l => { l with path := w })
      (⟨[], [], junk.1, junk.2, 0⟩ : SwapLine) piece with
  | none => simp
  | some q =>
      intro c hc
      change c ∈ (runScan swapFormat.tail q.1 q.2).1.path at hc
      rw [runScan_keeps hkeeps] at hc
      obtain ⟨⟨w, rest⟩, hscan, rfl⟩ := Option.map_eq_some_iff.mp hword
      rw [scanWord] at hscan
      simp only [Option.ite_none_left_eq_some, Option.some_inj, Prod.mk.injEq] at hscan
      rw [← hscan.2.1] at hc
      simpa using List.mem_takeWhile_imp (List.mem_of_mem_take hc)

namespace SwapRow

/-- The five columns. -/
def columns (r : SwapRow) (hpath : ∀ c ∈ r.mangled, isSpace c = false)
    (hshort : r.mangled.length ≤ 255) : List (Column SwapLine) :=
  [⟨_, r.mangled, _, reads_wordTo (fun w l => { l with path := w })
      (flatMap_mangle_ne_nil r.path_ne_nil) hpath hshort⟩,
    ⟨_, r.typeText, _, reads_wordTo (fun w l => { l with type := w }) r.typeText_ne_nil
      r.noSpace_typeText r.length_typeText_le⟩,
    ⟨_, decimal r.sizeKb.toNat, _, reads_unsignedTo (fun n l => { l with size := .ofNat n })
      r.sizeKb.toNat_lt⟩,
    ⟨_, decimal r.usedKb.toNat, _, reads_unsignedTo (fun n l => { l with used := .ofNat n })
      r.usedKb.toNat_lt⟩,
    ⟨_, intText r.priority.toInt, _, reads_signedTo_intText (fun n l => { l with priority := n })
      r.priority.le_toInt r.priority.toInt_lt⟩]

/-- What becomes of a row that is read in one piece, if there is no white space in its path. -/
lemma entry_eq (hpath : ∀ c ∈ r.mangled, isSpace c = false) (hshort : r.mangled.length ≤ 255) :
    swapEntry junk (r.text ++ ['\n'])
      = ⟨r.mangled, r.typeText, r.sizeKb, r.usedKb, r.priority.toInt, 1⟩ := by
  have hformat : (r.columns hpath hshort).map (·.conversion) = swapFormat := rfl
  have hfields : (r.columns hpath hshort).map (·.field) ++ [] = [r.mangled, r.typeText,
      decimal r.sizeKb.toNat, decimal r.usedKb.toNat, intText r.priority.toInt] := rfl
  have hscan := runScan_columns r.spacing (r.columns hpath hshort) ⟨[], [], junk.1, junk.2, 0⟩ 0 []
    breaks_newline
  rw [hformat, hfields] at hscan
  rw [swapEntry, text, hscan]
  simp [columns]

lemma newline_notMem_text (r : SwapRow) : '\n' ∉ r.text := by
  have htype : '\n' ∉ r.typeText := fun h => absurd (r.noSpace_typeText _ h) (by decide)
  have hpriority : '\n' ∉ intText r.priority.toInt := by
    cases r.priority.toInt with
    | ofNat n => exact newline_notMem_decimal n
    | negSucc n => simp [intText, newline_notMem_decimal]
  have hpath : '\n' ∉ r.mangled := newline_notMem_mangled r.path
  refine r.spacing.newline_notMem_text ?_ 0
  simp [newline_notMem_decimal, htype, hpriority, hpath]

lemma length_mangled_le (r : SwapRow) : r.mangled.length ≤ r.text.length := by
  simp only [text, Spacing.text, List.length_append]
  omega

/-- A row that is read in one piece becomes its area's entry exactly if its path is written as it
is and is read to its end. -/
lemma entry_eq_info_iff (hfits : r.text.length < 255) :
    swapEntry junk (r.text ++ ['\n']) = r.info ↔ ∀ c ∈ r.path, isSpace c = false ∧ c ≠ '\\' := by
  have hshort : r.mangled.length ≤ 255 := by
    have hle := r.length_mangled_le
    omega
  constructor
  · intro h
    have hspace : ∀ c ∈ r.path, isSpace c = false := by
      have hread := noSpace_path_swapEntry junk (r.text ++ ['\n'])
      rwa [h] at hread
    have hmangled : ∀ c ∈ r.mangled, isSpace c = false := by
      intro c hc
      obtain ⟨d, hd, hcd⟩ := List.mem_flatMap.mp hc
      exact noSpace_mangle (hspace d hd) c hcd
    have hpath : r.mangled = r.path := by
      rw [entry_eq hmangled hshort] at h
      exact congrArg SwapInfo.path h
    intro c hc
    refine ⟨hspace c hc, ?_⟩
    rintro rfl
    exact backslash_notMem_of_mangled hpath hc
  · intro h
    have hpath : r.mangled = r.path := mangled_of_plain h
    rw [entry_eq (by rw [hpath]; exact fun c hc => (h c hc).1) hshort, hpath, info]

end SwapRow

end Entry

/-! ## The list -/

section Table

variable {header : CStr} {rows : List SwapRow}

/-- A line is read in one piece exactly if it fits the buffer with its end. -/
lemma length_fgetsAll_eq_one_iff {l : CStr} (hl : '\n' ∉ l) :
    (fgetsAll 256 (l ++ ['\n'])).length = 1 ↔ l.length < 255 := by
  rw [length_fgetsAll_line (by decide) hl]
  omega

lemma one_le_length_fgetsAll {l : CStr} (hl : '\n' ∉ l) :
    1 ≤ (fgetsAll 256 (l ++ ['\n'])).length := by
  rw [length_fgetsAll_line (by decide) hl]
  omega

lemma fgetsAll_line {l : CStr} (hl : '\n' ∉ l) (hshort : l.length < 255) :
    fgetsAll 256 (l ++ ['\n']) = [l ++ ['\n']] := by
  have hone : ∀ m ∈ [l], '\n' ∉ m ∧ m.length + 1 < 256 :=
    List.forall_mem_singleton.mpr ⟨hl, by omega⟩
  have hread := fgetsAll_lines hone
  rwa [List.flatMap_singleton, List.map_singleton] at hread

/-- What is read after the first line. -/
def swapPieces (rows : List SwapRow) : List CStr :=
  rows.flatMap fun r => fgetsAll 256 (r.text ++ ['\n'])

lemma fgetsAll_swapsText (hheader : '\n' ∉ header ∧ header.length < 255) :
    fgetsAll 256 (swapsText header rows) = (header ++ ['\n']) :: swapPieces rows := by
  have hread := fgetsAll_append_lines 256 (header :: rows.map SwapRow.text) []
  have hfirst := fgetsAll_line hheader.1 hheader.2
  have hend : fgetsAll 256 [] = [] := rfl
  simpa [swapsText, swapPieces, hfirst, hend, List.flatMap_map] using hread

lemma swapPieces_of_fits (h : ∀ r ∈ rows, r.text.length < 255) :
    swapPieces rows = rows.map fun r => r.text ++ ['\n'] := by
  induction rows with
  | nil => rfl
  | cons r rows ih =>
      obtain ⟨hr, hrows⟩ := List.forall_mem_cons.mp h
      rw [swapPieces, List.flatMap_cons, fgetsAll_line r.newline_notMem_text hr]
      exact congrArg _ (ih hrows)

/-- The entries are one a row only if every row fits. -/
lemma fits_of_length_swapPieces (h : (swapPieces rows).length = rows.length) :
    ∀ r ∈ rows, r.text.length < 255 := by
  intro r hr
  have hone := length_eq_one_of_flatMap
    (fun r _ => one_le_length_fgetsAll (SwapRow.newline_notMem_text r)) h r hr
  exact (length_fgetsAll_eq_one_iff r.newline_notMem_text).mp hone

end Table

/-- **What `swap_list` reports.**  Given room for everything that is read, the entries are the
active areas, in their order and with their sizes and priorities, exactly if every row of the file
fits the buffer and no path has white space or a backslash in it.  What stood in the variables
before makes no difference then. -/
theorem swap_list_iff (junk : ℕ → UInt64 × UInt64) (header : CStr) (rows : List SwapRow)
    (maxSwaps : ℤ) (hheader : '\n' ∉ header ∧ header.length < 255)
    (hroom : ((fgetsAll 256 (swapsText header rows)).length : ℤ) ≤ maxSwaps + 1) :
    swapList junk (some (swapsText header rows)) maxSwaps
        = (.success, some (rows.map SwapRow.info)) ↔
      ∀ r ∈ rows, r.text.length < 255 ∧ ∀ c ∈ r.path, isSpace c = false ∧ c ≠ '\\' := by
  have hall : (swapPieces rows).take maxSwaps.toNat = swapPieces rows := by
    rw [fgetsAll_swapsText hheader, List.length_cons] at hroom
    exact List.take_of_length_le (by omega)
  rw [swapList, fgetsAll_swapsText hheader, List.tail_cons, hall]
  simp only [Prod.mk.injEq, Option.some.injEq, true_and]
  constructor
  · intro h
    have hfits := fits_of_length_swapPieces (by simpa using congrArg List.length h)
    rw [swapPieces_of_fits hfits] at h
    intro r hr
    refine ⟨hfits r hr, ?_⟩
    obtain ⟨i, hi, rfl⟩ := List.getElem_of_mem hr
    have hentry := congrArg (fun entries => entries[i]?) h
    simp only [List.getElem?_mapIdx, List.getElem?_map, List.getElem?_eq_getElem hi,
      Option.map_some, Option.some.injEq] at hentry
    exact (SwapRow.entry_eq_info_iff (hfits _ hr)).mp hentry
  · intro h
    rw [swapPieces_of_fits fun r hr => (h r hr).1]
    apply List.ext_getElem
    · simp
    · intro i hi hi'
      have hin : i < rows.length := by simpa using hi'
      have hrow := h rows[i] (List.getElem_mem hin)
      simpa using (SwapRow.entry_eq_info_iff hrow.1).mpr hrow.2

lemma isSpace_of_mem_tabs (n : ℕ) : ∀ c ∈ List.replicate n '\t', isSpace c = true := by
  intro c hc
  rw [List.eq_of_mem_replicate hc]
  rfl

lemma newline_notMem_tabs (n : ℕ) : '\n' ∉ List.replicate n '\t' := by
  intro hc
  exact absurd (List.eq_of_mem_replicate hc) (by decide)

/-- A row with a tab between its columns. -/
def tabSpacing : Spacing where
  gap := fun i => List.replicate (min i 1) '\t'
  trail := List.replicate 0 '\t'
  gap_space := fun i => isSpace_of_mem_tabs (min i 1)
  gap_line := fun i => newline_notMem_tabs (min i 1)
  gap_ne_nil := by simp
  trail_space := isSpace_of_mem_tabs 0
  trail_line := newline_notMem_tabs 0

/-- A swap partition, and a swap file with a blank in its name. -/
def swapSda2 : SwapRow where
  toSwapArea := ⟨"/dev/sda2".toList, by decide, false, 2097148, 512, -2⟩
  spacing := tabSpacing

/-- The swap file with the blank in its name. -/
def swapMyFile : SwapRow where
  toSwapArea := ⟨"/my swap".toList, by decide, true, 1024, 0, 5⟩
  spacing := tabSpacing

/-- The partition alone is listed as it is; with the file beside it the list is wrong. -/
theorem swap_list_sda2 :
    swapList (fun _ => (7, 7)) (some (swapsText "Filename".toList [swapSda2])) 8
        = (.success, some [swapSda2.info]) ∧
      swapList (fun _ => (7, 7)) (some (swapsText "Filename".toList [swapSda2, swapMyFile])) 8
        ≠ (.success, some [swapSda2.info, swapMyFile.info]) := by
  have hplain : ∀ c ∈ swapSda2.path, isSpace c = false ∧ c ≠ '\\' := by
    intro c hc
    simpa using List.all_eq_true.mp
      (show swapSda2.path.all (fun c => isSpace c == false && c != '\\') = true from rfl) c hc
  constructor
  · refine (swap_list_iff _ "Filename".toList [swapSda2] 8 (by decide) (by decide)).mpr ?_
    exact List.forall_mem_singleton.mpr ⟨by decide, hplain⟩
  · intro h
    have hboth := (swap_list_iff _ "Filename".toList [swapSda2, swapMyFile] 8 (by decide)
      (by decide)).mp h
    exact absurd ((hboth swapMyFile (by simp)).2 ' ' (by decide)).1 (by decide)

end Storage

import StorageManager.Lib.Scan

/-!
# Rows in columns

`sscanf` with a list of conversions, each of which stores what it reads: `runScan` returns what is
stored and how many conversions succeeded.  A row is a list of fields with white space before and
after them (`Spacing.text`).

A row is read back field by field: `runScan_field` for a field that suits its conversion (`Reads`),
`runScan_trail` for a conversion that is left without one (`Stops`).  A `Column` is a conversion
with a field that suits it, and `runScan_columns` reads a list of them at once.
-/

namespace CString

variable {α : Type*}

/-! ## Conversions -/

/-- A conversion: what is stored, and what is left of the text. -/
abbrev Conversion (α : Type*) := α → CStr → Option (α × CStr)

/-- `%Ns`, for the width `N`. -/
def wordTo (width : ℕ) (store : CStr → α → α) : Conversion α := fun a s =>
  (scanWord width s).map fun p => (store p.1 a, p.2)

/-- `%s` without a width. -/
def textTo (store : CStr → α → α) : Conversion α := fun a s => wordTo s.length store a s

/-- `%u`, `%lu` or `%llu`. -/
def unsignedTo (store : ℕ → α → α) : Conversion α := fun a s =>
  (scanUnsigned s).map fun p => (store p.1 a, p.2)

/-- `%d`. -/
def signedTo (store : ℤ → α → α) : Conversion α := fun a s =>
  (scanSigned s).map fun p => (store p.1 a, p.2)

/-- `sscanf`: what is stored by the conversions up to the first that fails, and their number. -/
def runScan : List (Conversion α) → α → CStr → α × ℕ
  | [], a, _ => (a, 0)
  | c :: cs, a, s =>
      match c a s with
      | none => (a, 0)
      | some (a, s) => ((runScan cs a s).1, (runScan cs a s).2 + 1)

/-- The conversion reads this field, which changes the target by `f`. -/
def Reads (c : Conversion α) (field : CStr) (f : α → α) : Prop :=
  ∀ (b s : CStr) (a : α), (∀ x ∈ b, isSpace x = true) → Breaks s →
    c a (b ++ (field ++ s)) = some (f a, s)

/-- The conversion finds nothing in white space. -/
def Stops (c : Conversion α) : Prop :=
  ∀ (b : CStr) (a : α), (∀ x ∈ b, isSpace x = true) → c a b = none

/-- The conversion passes over white space first. -/
def Skips (c : Conversion α) : Prop := ∀ (a : α) (s : CStr), c a (s.dropWhile isSpace) = c a s

section Conversions

variable {width : ℕ} {n : ℕ}

lemma reads_wordTo {w : CStr} (store : CStr → α → α) (hne : w ≠ [])
    (hw : ∀ c ∈ w, isSpace c = false) (hlen : w.length ≤ width) :
    Reads (wordTo width store) w (store w) := by
  intro b s a hb hs
  have hwidth : 0 < width := (List.length_pos_iff_ne_nil.mpr hne).trans_le hlen
  rw [wordTo, scanWord_space_append hb, scanWord_append hne hw hwidth hs,
    List.take_of_length_le hlen, List.drop_of_length_le hlen, List.nil_append, Option.map_some]

lemma reads_textTo {w : CStr} (store : CStr → α → α) (hne : w ≠ [])
    (hw : ∀ c ∈ w, isSpace c = false) : Reads (textTo store) w (store w) := by
  intro b s a hb hs
  refine reads_wordTo store hne hw ?_ b s a hb hs
  rw [List.length_append, List.length_append]
  omega

lemma reads_unsignedTo (store : ℕ → α → α) (hn : n < 2 ^ 64) :
    Reads (unsignedTo store) (decimal n) (store n) := by
  intro b s a hb hs
  have hsat : saturate64 n = n := min_eq_left (Nat.le_pred_of_lt hn)
  have hscan := scanUnsigned_append (decimal_ne_nil n) (fun _ => isDigit_of_mem_decimal) hs
  rw [decimal, Nat.ofDigitChars_ten_toDigits, ← decimal, hsat] at hscan
  rw [unsignedTo, scanUnsigned_space_append hb, hscan, Option.map_some]

/-- A number without sign is reduced to an `int`. -/
lemma reads_signedTo_asInt (store : ℤ → α → α) (n : ℕ) :
    Reads (signedTo store) (decimal n) (store (asInt n)) := by
  intro b s a hb hs
  have hscan := scanNumber_append (fun m => asInt (-(m : ℤ))) (fun m => asInt m)
    (decimal_ne_nil n) (fun _ => isDigit_of_mem_decimal) hs
  rw [decimal, Nat.ofDigitChars_ten_toDigits, ← decimal] at hscan
  rw [signedTo, scanSigned, scanNumber_space_append _ _ hb, hscan, Option.map_some]

lemma reads_signedTo (store : ℤ → α → α) (hn : n < 2 ^ 31) :
    Reads (signedTo store) (decimal n) (store n) := by
  have hread := reads_signedTo_asInt store n
  rwa [asInt_of_small hn] at hread

/-- A number with its sign. -/
lemma reads_signedTo_intText (store : ℤ → α → α) {v : ℤ} (hlow : -2 ^ 31 ≤ v) (hhigh : v < 2 ^ 31) :
    Reads (signedTo store) (intText v) (store v) := by
  cases v with
  | ofNat n => exact reads_signedTo store (Int.ofNat_lt.mp hhigh)
  | negSucc n =>
      intro b s a hb hs
      have hscan := scanNumber_minus_append (fun m => asInt (-(m : ℤ))) (fun m => asInt m)
        (decimal_ne_nil (n + 1)) (fun _ => isDigit_of_mem_decimal) hs
      have hvalue : asInt (-((n + 1 : ℕ) : ℤ)) = Int.negSucc n := by
        have hclamp : max (-2 ^ 63) (min (2 ^ 63 - 1) (-((n + 1 : ℕ) : ℤ))) = Int.negSucc n := by
          omega
        rw [asInt, hclamp]
        exact Int.bmod_eq_of_le (by omega) (by omega)
      rw [decimal, Nat.ofDigitChars_ten_toDigits, ← decimal, hvalue] at hscan
      rw [signedTo, scanSigned, scanNumber_space_append _ _ hb, intText, List.cons_append, hscan,
        Option.map_some]

lemma stops_wordTo (hwidth : 0 < width) (store : CStr → α → α) : Stops (wordTo width store) := by
  intro b a hb
  rw [wordTo, (scanWord_eq_none_iff hwidth).mpr hb, Option.map_none]

lemma skips_wordTo (store : CStr → α → α) : Skips (wordTo width store) := by
  intro a s
  simp only [wordTo, scanWord_dropWhile]

/-- White space before the first conversion makes no difference. -/
lemma runScan_dropWhile {c : Conversion α} (hc : Skips c) (cs : List (Conversion α)) (a : α)
    (s : CStr) : runScan (c :: cs) a (s.dropWhile isSpace) = runScan (c :: cs) a s := by
  rw [runScan, runScan, hc]

end Conversions

/-- What no conversion changes, `sscanf` does not change. -/
lemma runScan_keeps {β : Type*} {f : α → β} {cs : List (Conversion α)}
    (h : ∀ c ∈ cs, ∀ a s a' s', c a s = some (a', s') → f a' = f a) (a : α) (s : CStr) :
    f (runScan cs a s).1 = f a := by
  induction cs generalizing a s with
  | nil => rfl
  | cons c cs ih =>
      obtain ⟨hc, hcs⟩ := List.forall_mem_cons.mp h
      rw [runScan]
      cases hread : c a s with
      | none => rfl
      | some r => exact (ih hcs r.1 r.2).trans (hc a s r.1 r.2 hread)

/-! ## Rows -/

/-- The white space in a row: before each field and after the last one. -/
structure Spacing where
  gap : ℕ → CStr
  trail : CStr
  gap_space : ∀ i, ∀ c ∈ gap i, isSpace c = true
  gap_line : ∀ i, '\n' ∉ gap i
  gap_ne_nil : ∀ i, gap (i + 1) ≠ []
  trail_space : ∀ c ∈ trail, isSpace c = true
  trail_line : '\n' ∉ trail

/-- The row from the `i`-th field on. -/
def Spacing.text (sp : Spacing) (i : ℕ) : List CStr → CStr
  | [] => sp.trail
  | f :: fields => sp.gap i ++ (f ++ sp.text (i + 1) fields)

section Rows

variable (sp : Spacing)

lemma Spacing.breaks_text (i : ℕ) (fields : List CStr) : Breaks (sp.text (i + 1) fields) := by
  intro c hc
  cases fields with
  | nil => exact sp.trail_space c (List.mem_of_mem_head? hc)
  | cons f fields =>
      rw [Spacing.text, List.head?_append_of_ne_nil _ (sp.gap_ne_nil i)] at hc
      exact sp.gap_space (i + 1) c (List.mem_of_mem_head? hc)

lemma Spacing.newline_notMem_text {fields : List CStr} (h : ∀ f ∈ fields, '\n' ∉ f) (i : ℕ) :
    '\n' ∉ sp.text i fields := by
  induction fields generalizing i with
  | nil => exact sp.trail_line
  | cons f fields ih =>
      obtain ⟨hf, hfields⟩ := List.forall_mem_cons.mp h
      simp only [Spacing.text, List.mem_append, not_or]
      exact ⟨sp.gap_line i, hf, ih hfields (i + 1)⟩

/-- A field is read, and the rest of the row and what comes after it is left. -/
lemma runScan_field_append {c : Conversion α} {field : CStr} {f : α → α} (h : Reads c field f)
    (cs : List (Conversion α)) (a : α) (i : ℕ) (fields : List CStr) {e : CStr} (he : Breaks e) :
    runScan (c :: cs) a (sp.text i (field :: fields) ++ e) =
      ((runScan cs (f a) (sp.text (i + 1) fields ++ e)).1,
        (runScan cs (f a) (sp.text (i + 1) fields ++ e)).2 + 1) := by
  have hread := h (sp.gap i) (sp.text (i + 1) fields ++ e) a (sp.gap_space i)
    ((sp.breaks_text i fields).append he)
  simp only [Spacing.text, List.append_assoc, runScan, hread]

/-- A field is read, and the rest of the row is left. -/
lemma runScan_field {c : Conversion α} {field : CStr} {f : α → α} (h : Reads c field f)
    (cs : List (Conversion α)) (a : α) (i : ℕ) (fields : List CStr) :
    runScan (c :: cs) a (sp.text i (field :: fields)) =
      ((runScan cs (f a) (sp.text (i + 1) fields)).1,
        (runScan cs (f a) (sp.text (i + 1) fields)).2 + 1) := by
  simpa only [List.append_nil] using runScan_field_append sp h cs a i fields breaks_nil

/-- There is no field left. -/
lemma runScan_trail {c : Conversion α} (h : Stops c) (cs : List (Conversion α)) (a : α) (i : ℕ) :
    runScan (c :: cs) a (sp.text i []) = (a, 0) := by
  have hstop : c a sp.trail = none := h sp.trail a sp.trail_space
  simp only [Spacing.text, runScan, hstop]

/-- A conversion, a field that suits it, and what reading the one with the other does. -/
structure Column (α : Type*) where
  conversion : Conversion α
  field : CStr
  effect : α → α
  reads : Reads conversion field effect

/-- The first columns of a row are read one after the other, whatever comes after them. -/
lemma runScan_columns (cols : List (Column α)) (a : α) (i : ℕ) (fields : List CStr) {e : CStr}
    (he : Breaks e) :
    runScan (cols.map (·.conversion)) a (sp.text i (cols.map (·.field) ++ fields) ++ e) =
      (cols.foldl (fun a col => col.effect a) a, cols.length) := by
  induction cols generalizing a i with
  | nil => rfl
  | cons col cols ih =>
      rw [List.map_cons, List.map_cons, List.cons_append,
        runScan_field_append sp col.reads _ _ _ _ he, ih, List.foldl_cons, List.length_cons]

end Rows

end CString

import StorageManager.Volumes.Physical

/-!
# What `health_check.sh` reads from `df`

The rows of the table, the fields `awk` takes from them and the numbers the script compares.  A row
is *alerting* if it is not about a mount point under `/sys`, `/proc` or `/dev` and is over one of
the two thresholds (`DfRow.Alerting`).  The script itself goes by the first letters of the mount
point, so that it also passes over `/developer` (`specialMount_of_under`).
-/

namespace Storage

open CString

/-- `ALERT_THRESHOLD_DISK`. -/
def alertThresholdDisk : ℕ := 90

/-- `ALERT_THRESHOLD_INODE`. -/
def alertThresholdInode : ℕ := 90

/-- A line of the log, without the date. -/
structure LogEntry where
  level : CStr
  message : CStr
  deriving DecidableEq

/-! ## The table -/

/-- A row of `df -h` with the widths of its blanks.  A mount point may have blanks in it. -/
structure DfRow where
  device : Word
  size : Word
  used : Word
  avail : Word
  use : Word
  mount : CStr
  gap : ℕ → ℕ

/-- The row as `df` prints it. -/
def DfRow.line (r : DfRow) : CStr :=
  r.device.text ++ (blanks (r.gap 0 + 1) ++ (r.size.text ++ (blanks (r.gap 1 + 1) ++
    (r.used.text ++ (blanks (r.gap 2 + 1) ++ (r.avail.text ++ (blanks (r.gap 3 + 1) ++
      (r.use.text ++ (blanks (r.gap 4 + 1) ++ r.mount)))))))))

/-- The rows, what `read line` and the unquoted `$line` make of them, and what `df -i` prints for a
mount point. -/
structure DfEnv where
  rows : List DfRow
  echoed : CStr → CStr
  inodes : CStr → CStr

/-- `awk '{print $k}'` of one line, with `k` counted from 0. -/
def awkField (k : ℕ) (line : CStr) : CStr := ((fields line)[k]?).getD []

/-- `sed 's/%//'`. -/
def dropPercent (s : CStr) : CStr := s.erase '%'

/-- `tail -1`. -/
def tailLine (text : CStr) : CStr := ((tokens '\n' text).getLast?).getD []

/-- `[[ s =~ ^[0-9]+$ ]]`. -/
def isNumeric (s : CStr) : Bool := !s.isEmpty && s.all Char.isDigit

/-- The number that is written in decimal digits. -/
def digitsValue (s : CStr) : ℕ := Nat.ofDigitChars 10 s 0

/-- `[ s -ge n ]` for digits; a number of more than 63 bits is an error. -/
def testGe (s : CStr) (n : ℕ) : Bool := digitsValue s < 2 ^ 63 && n ≤ digitsValue s

/-- `[[ "$mount" == "/sys"* ]]` and the two like it. -/
def specialMount (mount : CStr) : Bool :=
  "/sys".toList.isPrefixOf mount || "/proc".toList.isPrefixOf mount ||
    "/dev".toList.isPrefixOf mount

/-- The share of the inodes in use. -/
def inodeUse (env : DfEnv) (mount : CStr) : CStr :=
  dropPercent (awkField 4 (tailLine (env.inodes mount)))

/-! ## The verdicts -/

/-- What `main` logs when nothing has been found. -/
def healthyEntry : LogEntry := ⟨"INFO".toList, "Health check completado: SALUDABLE".toList⟩

/-- What it logs otherwise. -/
def reviewEntry : LogEntry := ⟨"WARN".toList, "Health check completado: REVISAR".toList⟩

/-! ## What the table says -/

/-- A numeric percentage of at least `n`. -/
def AtLeast (n : ℕ) (s : CStr) : Prop := isNumeric s = true ∧ n ≤ digitsValue s

/-- The directory itself, or a path in it. -/
def Under (dir mount : CStr) : Prop := mount = dir ∨ dir ++ ['/'] <+: mount

instance (dir mount : CStr) : Decidable (Under dir mount) := inferInstanceAs (Decidable (_ ∨ _))

instance (n : ℕ) (s : CStr) : Decidable (AtLeast n s) := inferInstanceAs (Decidable (_ ∧ _))

/-- The row is over a threshold. -/
def DfRow.Full (env : DfEnv) (r : DfRow) : Prop :=
  AtLeast alertThresholdDisk (dropPercent r.use.text) ∨
    AtLeast alertThresholdInode (inodeUse env r.mount)

/-- It should be reported. -/
def DfRow.Alerting (env : DfEnv) (r : DfRow) : Prop :=
  (∀ dir ∈ ["/sys".toList, "/proc".toList, "/dev".toList], ¬ Under dir r.mount) ∧ r.Full env

instance (env : DfEnv) (r : DfRow) : Decidable (r.Full env) := inferInstanceAs (Decidable (_ ∨ _))

instance (env : DfEnv) (r : DfRow) : Decidable (r.Alerting env) :=
  inferInstanceAs (Decidable (_ ∧ _))

/-- Nothing is reported that should not be. -/
lemma specialMount_of_under {mount : CStr}
    (h : ∃ dir ∈ ["/sys".toList, "/proc".toList, "/dev".toList], Under dir mount) :
    specialMount mount = true := by
  obtain ⟨dir, hdir, hunder⟩ := h
  have hprefix : dir <+: mount := by
    rcases hunder with rfl | hin
    · exact List.prefix_rfl
    · exact (List.prefix_append dir ['/']).trans hin
  simp only [specialMount, Bool.or_eq_true, List.isPrefixOf_iff_prefix]
  simp only [List.mem_cons, List.not_mem_nil, or_false] at hdir
  rcases hdir with rfl | rfl | rfl
  · exact .inl (.inl hprefix)
  · exact .inl (.inr hprefix)
  · exact .inr hprefix

/-- The converse does not hold. -/
example : specialMount "/developer".toList = true ∧ ¬ Under "/dev".toList "/developer".toList := by
  decide

section Rows

variable {env : DfEnv} {r : DfRow}

/-- A row that is read as it is printed, with numbers that the shell can compare. -/
structure DfRow.Readable (env : DfEnv) (r : DfRow) : Prop where
  echoed : env.echoed r.line = r.line
  mount_ne_nil : r.mount ≠ []
  mount_noSpace : ∀ c ∈ r.mount, isSpace c = false
  numeric : isNumeric (dropPercent r.use.text) = true
  use_lt : digitsValue (dropPercent r.use.text) < 2 ^ 63
  inode_lt : digitsValue (inodeUse env r.mount) < 2 ^ 63

lemma fields_cons_blanks {w : Word} (n : ℕ) (s : CStr) :
    fields (w.text ++ (blanks (n + 1) ++ s)) = w.text :: fields s := by
  have hsplit : w.text ++ (blanks (n + 1) ++ s) = w.text ++ ' ' :: (blanks n ++ s) := rfl
  rw [hsplit, fields_append_blank, fields_blanks_append, fields_of_noSpace w.ne_nil w.noSpace]
  rfl

lemma DfRow.Readable.fields_line (h : r.Readable env) :
    fields r.line =
      [r.device.text, r.size.text, r.used.text, r.avail.text, r.use.text, r.mount] := by
  rw [DfRow.line, fields_cons_blanks, fields_cons_blanks, fields_cons_blanks, fields_cons_blanks,
    fields_cons_blanks, fields_of_noSpace h.mount_ne_nil h.mount_noSpace]

lemma testGe_iff {s : CStr} (h : digitsValue s < 2 ^ 63) (n : ℕ) :
    testGe s n = true ↔ n ≤ digitsValue s := by
  rw [testGe, Bool.and_eq_true, decide_eq_true_iff, decide_eq_true_iff, and_iff_right h]

/-- What the loop takes for the mount point and for the use of such a row. -/
lemma DfRow.Readable.awkField_line (h : r.Readable env) :
    awkField 5 (env.echoed r.line) = r.mount ∧ awkField 4 (env.echoed r.line) = r.use.text := by
  rw [h.echoed, awkField, awkField, h.fields_line]
  exact ⟨rfl, rfl⟩

end Rows

/-- The root file system at 95 percent. -/
def fullRow : DfRow where
  device := ⟨"/dev/vda".toList, List.cons_ne_nil _ _, noSpace_of_all rfl⟩
  size := ⟨"20G".toList, List.cons_ne_nil _ _, noSpace_of_all rfl⟩
  used := ⟨"19G".toList, List.cons_ne_nil _ _, noSpace_of_all rfl⟩
  avail := ⟨"1G".toList, List.cons_ne_nil _ _, noSpace_of_all rfl⟩
  use := ⟨"95%".toList, List.cons_ne_nil _ _, noSpace_of_all rfl⟩
  mount := "/".toList
  gap _ := 1

/-- That file system alone; `df -i` prints nothing. -/
def fullEnv : DfEnv := ⟨[fullRow], id, fun _ => []⟩

end Storage

import StorageManager.Lib.Files
import StorageManager.Lib.Shell

/-!
# The backup catalogue

The `backups` table of `backup_engine.c`, the identifiers its rows are kept under, and the two
ways rows come back out of it.

* `backupGenerateId` — the identifier is the local time to the second.  It determines the local
  time (`backupGenerateId_injective`), it is a plain file name and it is safe between quotes; but
  it is no more unique than the local time is.
* `insertRow` — the `UNIQUE` constraint: a row whose identifier is taken is not stored.
* `backupList`, `backupGetInfo` — both copy the columns into `backup_info_t` with `strncpy`; only
  the second clears the structure first, so only there is a text of full length terminated.
-/

namespace Storage

open CString Shell Files

/-- `backup_type_t`. -/
inductive BackupType
  | full
  | incremental
  | differential
  deriving DecidableEq, Repr

/-- `struct tm` as `backup_generate_id` prints it: the year in full, months from 1. -/
structure Tm where
  year : ℕ
  mon : ℕ
  mday : ℕ
  hour : ℕ
  min : ℕ
  sec : ℕ
  year_lt : year < 10 ^ 4
  mon_lt : mon < 10 ^ 2
  mday_lt : mday < 10 ^ 2
  hour_lt : hour < 10 ^ 2
  min_lt : min < 10 ^ 2
  sec_lt : sec < 10 ^ 2
  deriving DecidableEq

/-- The first second of a year. -/
def newYear : Tm :=
  ⟨2026, 1, 1, 0, 0, 0, by decide, by decide, by decide, by decide, by decide, by decide⟩

/-- `backup_generate_id` at local time `tm`. -/
def backupGenerateId (tm : Tm) : CStr :=
  fit 64 ("backup-".toList ++ (zeroPad 4 tm.year ++ (zeroPad 2 tm.mon ++ (zeroPad 2 tm.mday ++
    ('-' :: (zeroPad 2 tm.hour ++ (zeroPad 2 tm.min ++ zeroPad 2 tm.sec)))))))

/-- `backup_info_t`, and a row of the table. -/
structure BackupInfo where
  backupId : CStr
  timestamp : ℤ
  type : BackupType
  sourcePath : CStr
  destPath : CStr
  sizeBytes : ℕ
  checksum : CStr
  success : ℤ
  errorMsg : CStr
  parentBackupId : CStr
  deriving DecidableEq

/-- A call of `backup_create`: its arguments, the identifier it drew and `dest_path`. -/
structure Call where
  source : CStr
  dest : CStr
  type : BackupType
  id : CStr
  destPath : CStr
  deriving DecidableEq

/-- A row together with the call it was stored by. -/
structure CatRow where
  info : BackupInfo
  call : Call
  deriving DecidableEq

/-! ## Identifiers -/

/-- A local time to the second, with `sep` between the date and the time of day. -/
def stamp (sep : Char) (tm : Tm) : CStr :=
  zeroPad 4 tm.year ++ (zeroPad 2 tm.mon ++ (zeroPad 2 tm.mday ++
    (sep :: (zeroPad 2 tm.hour ++ (zeroPad 2 tm.min ++ zeroPad 2 tm.sec)))))

@[simp] lemma length_stamp (sep : Char) (tm : Tm) : (stamp sep tm).length = 15 := by
  simp only [stamp, List.length_append, List.length_cons, length_zeroPad (by omega) tm.year_lt,
    length_zeroPad (by omega) tm.mon_lt, length_zeroPad (by omega) tm.mday_lt,
    length_zeroPad (by omega) tm.hour_lt, length_zeroPad (by omega) tm.min_lt,
    length_zeroPad (by omega) tm.sec_lt]

/-- Every field has its own place in the text, so the text determines the local time. -/
lemma stamp_injective (sep : Char) : Function.Injective (stamp sep) := by
  intro a b h
  have hlen : ∀ {w m n : ℕ}, 0 < w → m < 10 ^ w → n < 10 ^ w →
      (zeroPad w m).length = (zeroPad w n).length := fun hw hm hn => by
    rw [length_zeroPad hw hm, length_zeroPad hw hn]
  obtain ⟨hyear, h⟩ := List.append_inj h (hlen (by omega) a.year_lt b.year_lt)
  obtain ⟨hmon, h⟩ := List.append_inj h (hlen (by omega) a.mon_lt b.mon_lt)
  obtain ⟨hmday, h⟩ := List.append_inj h (hlen (by omega) a.mday_lt b.mday_lt)
  rw [List.cons.injEq] at h
  obtain ⟨hhour, h⟩ := List.append_inj h.2 (hlen (by omega) a.hour_lt b.hour_lt)
  obtain ⟨hmin, hsec⟩ := List.append_inj h (hlen (by omega) a.min_lt b.min_lt)
  cases a
  cases b
  simp only [Tm.mk.injEq]
  exact ⟨zeroPad_injective 4 hyear, zeroPad_injective 2 hmon, zeroPad_injective 2 hmday,
    zeroPad_injective 2 hhour, zeroPad_injective 2 hmin, zeroPad_injective 2 hsec⟩

lemma mem_stamp {sep c : Char} {tm : Tm} (h : c ∈ stamp sep tm) : c.isDigit = true ∨ c = sep := by
  simp only [stamp, List.mem_append, List.mem_cons] at h
  rcases h with h | h | h | h | h | h | h
  · exact Or.inl (isDigit_of_mem_zeroPad h)
  · exact Or.inl (isDigit_of_mem_zeroPad h)
  · exact Or.inl (isDigit_of_mem_zeroPad h)
  · exact Or.inr h
  · exact Or.inl (isDigit_of_mem_zeroPad h)
  · exact Or.inl (isDigit_of_mem_zeroPad h)
  · exact Or.inl (isDigit_of_mem_zeroPad h)

lemma backupGenerateId_eq (tm : Tm) : backupGenerateId tm = "backup-".toList ++ stamp '-' tm := by
  refine fit_of_lt ?_
  have hlen := length_stamp '-' tm
  simp only [stamp, List.length_append, List.length_cons] at hlen
  simp only [List.length_append, List.length_cons, hlen]
  decide

@[simp] lemma length_backupGenerateId (tm : Tm) : (backupGenerateId tm).length = 22 := by
  rw [backupGenerateId_eq, List.length_append, length_stamp]
  rfl

/-- Different local times give different identifiers. -/
theorem backupGenerateId_injective : Function.Injective backupGenerateId := by
  intro a b h
  rw [backupGenerateId_eq, backupGenerateId_eq] at h
  exact stamp_injective _ (List.append_cancel_left h)

lemma mem_backupGenerateId {tm : Tm} {c : Char} (h : c ∈ backupGenerateId tm) :
    c.isDigit = true ∨ c ∈ "backup-".toList := by
  rw [backupGenerateId_eq] at h
  rcases List.mem_append.mp h with h | h
  · exact Or.inr h
  · exact (mem_stamp h).imp_right fun hc => by rw [hc]; decide

/-- A character that is neither a digit nor in `backup-` is not in an identifier. -/
lemma ne_of_mem_backupGenerateId {tm : Tm} {c d : Char} (h : c ∈ backupGenerateId tm)
    (hdigit : d.isDigit = false) (hd : d ∉ "backup-".toList) : c ≠ d := by
  rintro rfl
  rcases mem_backupGenerateId h with hc | hc
  · rw [hdigit] at hc
    exact absurd hc (by decide)
  · exact hd hc

lemma quoteSafe_backupGenerateId (tm : Tm) : QuoteSafe (backupGenerateId tm) := fun _ hc =>
  ⟨ne_of_mem_backupGenerateId hc (by decide) (by decide),
    ne_of_mem_backupGenerateId hc (by decide) (by decide),
    ne_of_mem_backupGenerateId hc (by decide) (by decide),
    ne_of_mem_backupGenerateId hc (by decide) (by decide)⟩

lemma plainName_backupGenerateId (tm : Tm) : PlainName (backupGenerateId tm) := by
  have hne : ∀ s : CStr, s.length ≠ 22 → backupGenerateId tm ≠ s := by
    rintro s hs rfl
    exact hs (length_backupGenerateId tm)
  exact ⟨hne _ (by decide), hne _ (by decide), hne _ (by decide),
    fun h => ne_of_mem_backupGenerateId h (by decide) (by decide) rfl⟩

/-! ## The table -/

/-- `INSERT`, under the `UNIQUE` constraint on `backup_id`. -/
def insertRow (rows : List CatRow) (row : CatRow) : List CatRow :=
  if ∃ r ∈ rows, r.info.backupId = row.info.backupId then rows else rows ++ [row]

/-- An order the rows may come in under `ORDER BY timestamp DESC`; ties are not decided. -/
def ListOrder (rows order : List CatRow) : Prop :=
  order.Perm rows ∧ order.Pairwise fun a b => b.info.timestamp ≤ a.info.timestamp

instance (rows order : List CatRow) : Decidable (ListOrder rows order) :=
  inferInstanceAs (Decidable (_ ∧ _))

/-- A row as `backup_list` copies it into memory that holds `junk`. -/
def listInfo (junk : CStr) (r : BackupInfo) : BackupInfo :=
  { r with
    backupId := fitOver junk 64 r.backupId
    sourcePath := fitOver junk 256 r.sourcePath
    destPath := fitOver junk 256 r.destPath
    checksum := fitOver junk 65 r.checksum
    errorMsg := fitOver junk 256 r.errorMsg
    parentBackupId := fitOver junk 64 r.parentBackupId }

/-- `backup_list`, with the memory `malloc` returned. -/
def backupList (order : List CatRow) (junk : ℕ → CStr) : List BackupInfo :=
  order.mapIdx fun i r => listInfo (junk i) r.info

/-- `backup_get_info`; it clears the structure and does not read the parent. -/
def backupGetInfo (rows : List CatRow) (id : CStr) : Option BackupInfo :=
  (rows.find? fun r => r.info.backupId = id).map fun r =>
    { r.info with
      backupId := fit 64 id
      sourcePath := fit 256 r.info.sourcePath
      destPath := fit 256 r.info.destPath
      checksum := fit 65 r.info.checksum
      errorMsg := fit 256 r.info.errorMsg
      parentBackupId := [] }

lemma insertRow_of_fresh {rows : List CatRow} {row : CatRow}
    (h : ∀ r ∈ rows, r.info.backupId ≠ row.info.backupId) : insertRow rows row = rows ++ [row] :=
  if_neg fun ⟨r, hr, heq⟩ => h r hr heq

/-- A row that was just stored is the one found under its identifier. -/
lemma backupGetInfo_insertRow {rows : List CatRow} {row : CatRow}
    (h : ∀ r ∈ rows, r.info.backupId ≠ row.info.backupId) :
    (backupGetInfo (insertRow rows row) row.info.backupId).map (·.destPath)
      = some (fit 256 row.info.destPath) := by
  have hnone : rows.find? (fun r => r.info.backupId = row.info.backupId) = none :=
    List.find?_eq_none.mpr fun r hr => by simpa using h r hr
  rw [insertRow_of_fresh h, backupGetInfo, List.find?_append, hnone]
  simp

end Storage

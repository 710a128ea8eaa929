import StorageManager.Backup.Retention
import StorageManager.Lib.Scan

/-!
# Reading the catalogue back

**The two readers.**  `backup_list` and `backup_get_info` copy the same columns into the same
structure, with two differences.  The second clears the structure first, so a text that fills its
field is terminated there and only there; and it selects `parent_backup_id` without copying it.
`readers_agree_iff` says for which rows the two give the same record.

**Verification.**  `backup_verify` asks whether the directory exists and whether `du` finds anything
in it.  It compares nothing with what was recorded, and no checksum is ever recorded
(`checksum_of_reach`).  So a backup that passes is intact only by what happened to it and not by
what was checked: it was successful, its size is the recorded one, and what was done to its files
was undone again (`verify_sound_iff`).
-/

namespace Storage

open CString Files Machine

section Readers

variable {κ : Type*} {localtime : ℤ → Tm} {cwd : Path} {s s' : Vault κ}
  {rows order : List CatRow} {r : CatRow}

/-! ## What is stored -/

/-- No call of `backup_create` records a checksum. -/
lemma checksum_of_reach (h : Reach VaultInit (vaultStep localtime cwd) anyStep s)
    (hr : r ∈ s.rows) : r.info.checksum = [] := by
  have hall : ∀ r ∈ s.rows, r.info.checksum = [] := by
    refine h.invariant (I := fun s => ∀ r ∈ s.rows, r.info.checksum = []) ?_ ?_
    · rintro s ⟨hrows, -⟩
      simp [hrows]
    · intro s a s' hs _ hstep r hr
      cases a with
      | create source dest type e =>
          rw [(vaultStep_create hstep).1, insertRow] at hr
          split_ifs at hr
          · exact hs r hr
          · rcases List.mem_append.mp hr with hr | hr
            · exact hs r hr
            · rw [List.mem_singleton.mp hr]
              rfl
      | cleanup keepCount order junk =>
          rw [(vaultStep_cleanup hstep).2.1] at hr
          exact hs r ((cleanupLoop_sublist _ _).subset hr)
  exact hall r hr

/-! ## Two readers -/

/-- The one row of an identifier, as `backup_get_info` copies it. -/
lemma backupGetInfo_of_mem (h : IdsOk rows) (hr : r ∈ rows) :
    backupGetInfo rows r.info.backupId = some { r.info with
      backupId := fit 64 r.info.backupId
      sourcePath := fit 256 r.info.sourcePath
      destPath := fit 256 r.info.destPath
      checksum := fit 65 r.info.checksum
      errorMsg := fit 256 r.info.errorMsg
      parentBackupId := [] } := by
  have hfind : rows.find? (fun x => x.info.backupId = r.info.backupId) = some r := by
    rw [← List.head?_filter, filter_backupId_eq h.nodup hr]
    rfl
  rw [backupGetInfo, hfind]
  rfl

/-- The one entry of an identifier, as `backup_list` copies it. -/
lemma filter_backupList (h : IdsOk rows) (horder : ListOrder rows order) (hr : r ∈ rows) :
    ∃ i, ∀ junk : ℕ → CStr,
      (backupList order junk).filter (fun b => b.backupId = r.info.backupId)
        = [listInfo (junk i) r.info] := by
  have hnodup : (order.map (·.info.backupId)).Nodup := (horder.1.map _).nodup_iff.mpr h.nodup
  have hid : ∀ x ∈ order, ∀ junk, (listInfo junk x.info).backupId = x.info.backupId :=
    fun x hx junk => fitOver_of_lt (by rw [h.length x (horder.1.subset hx)]; omega)
  obtain ⟨pre, post, rfl⟩ := List.append_of_mem (horder.1.symm.subset hr)
  have hother : ∀ x ∈ pre ++ post, x.info.backupId ≠ r.info.backupId := by
    rw [List.map_append, List.map_cons, List.nodup_middle, ← List.map_append] at hnodup
    intro x hx heq
    exact (List.nodup_cons.mp hnodup).1 (heq ▸ List.mem_map_of_mem hx)
  -- entries before and after the row have other identifiers
  have hnone : ∀ (part : List CatRow) (f : ℕ → CStr), part ⊆ pre ++ post →
      (part.mapIdx fun i x => listInfo (f i) x.info).filter
        (fun b => b.backupId = r.info.backupId) = [] := by
    intro part f hpart
    refine List.filter_eq_nil_iff.mpr fun b hb => ?_
    obtain ⟨i, hi, rfl⟩ := List.mem_mapIdx.mp hb
    have hmem : part[i] ∈ pre ++ post := hpart (List.getElem_mem hi)
    have hin : part[i] ∈ pre ++ r :: post := by
      rcases List.mem_append.mp hmem with hpre | hpost
      · exact List.mem_append_left _ hpre
      · exact List.mem_append_right _ (List.mem_cons_of_mem _ hpost)
    rw [hid _ hin]
    simpa using hother _ hmem
  refine ⟨pre.length, fun junk => ?_⟩
  rw [backupList, List.mapIdx_append, List.filter_append,
    hnone pre junk (List.subset_append_left _ _), List.mapIdx_cons, List.filter_cons,
    hnone post (fun i => junk (i + 1 + pre.length)) (List.subset_append_right _ _),
    if_pos (by simpa using hid r (by simp) _), Nat.zero_add, List.nil_append]

/-- A record of `backup_list` is the one of `backup_get_info`, whatever the memory held, exactly
when there is no parent to lose and every text leaves room for its terminator. -/
lemma listInfo_eq_iff {b : BackupInfo} (hid : b.backupId.length < 63) (hsum : b.checksum = []) :
    (∀ junk, listInfo junk b = { b with
        backupId := fit 64 b.backupId
        sourcePath := fit 256 b.sourcePath
        destPath := fit 256 b.destPath
        checksum := fit 65 b.checksum
        errorMsg := fit 256 b.errorMsg
        parentBackupId := [] }) ↔
      b.parentBackupId = [] ∧ b.sourcePath.length < 255 ∧ b.destPath.length < 255 ∧
        b.errorMsg.length < 255 := by
  have hparent : (∀ junk, fitOver junk 64 b.parentBackupId = []) ↔ b.parentBackupId = [] :=
    fitOver_eq_nil_iff (by decide)
  have hself : ∀ junk, fitOver junk 64 b.backupId = fit 64 b.backupId :=
    fitOver_eq_fit_iff.mpr hid
  have hempty : ∀ junk, fitOver junk 65 b.checksum = fit 65 b.checksum :=
    fitOver_eq_fit_iff.mpr (by rw [hsum]; decide)
  simp only [listInfo, BackupInfo.mk.injEq, true_and, hself, hempty, forall_and,
    fitOver_eq_fit_iff, hparent]
  constructor
  · rintro ⟨hsource, hdest, herror, hparent⟩
    exact ⟨hparent, hsource, hdest, herror⟩
  · rintro ⟨hparent, hsource, hdest, herror⟩
    exact ⟨hsource, hdest, herror, hparent⟩

/-- **The readers agree** on a row, whatever memory `backup_list` was given, exactly when the row
has no parent and its texts leave room for their terminators. -/
theorem readers_agree_iff (h : Reach VaultInit (vaultStep localtime cwd) anyStep s)
    (horder : ListOrder s.rows order) (hr : r ∈ s.rows) :
    (∀ junk, (backupList order junk).filter (fun b => b.backupId = r.info.backupId)
        = (backupGetInfo s.rows r.info.backupId).toList) ↔
      r.info.parentBackupId = [] ∧ r.info.sourcePath.length < 255 ∧
        r.info.destPath.length < 255 ∧ r.info.errorMsg.length < 255 := by
  have hids := idsOk_of_reach h
  obtain ⟨i, hentry⟩ := filter_backupList hids horder hr
  have hid : r.info.backupId.length < 63 := by
    rw [hids.length r hr]
    omega
  rw [← listInfo_eq_iff hid (checksum_of_reach h hr), backupGetInfo_of_mem hids hr]
  simp only [hentry, Option.toList_some, List.cons.injEq, and_true]
  -- the memory of one entry is as arbitrary as that of all of them
  exact ⟨fun h junk => h fun _ => junk, fun h junk => h (junk i)⟩

end Readers

/-- The readers agree on a full backup with short paths. -/
theorem readers_agree_good :
    ∃ s : Vault ℕ, goodRow ∈ s.rows ∧
      ∀ junk, (backupList [failedRow, goodRow] junk).filter
          (fun b => b.backupId = goodRow.info.backupId)
        = (backupGetInfo s.rows goodRow.info.backupId).toList := by
  obtain ⟨s, hreach, hrows, horder⟩ := failingRun_rows
  have hgood : goodRow ∈ s.rows := by rw [hrows]; exact List.mem_cons_self
  exact ⟨s, hgood, (readers_agree_iff hreach horder hgood).mpr (by decide +kernel)⟩

/-- The incremental backup of `/s` in second 1, after the good one. -/
def incrementalRow : CatRow := attemptRow ['/', 's'] .incremental 1 0 [goodRow]

/-- Only `backup_list` returns the parent of an incremental backup. -/
theorem readers_disagree_on_parent :
    ¬ ∀ (localtime : ℤ → Tm) (cwd : Path) (s : Vault ℕ) (order : List CatRow) (r : CatRow),
      Reach VaultInit (vaultStep localtime cwd) anyStep s → ListOrder s.rows order → r ∈ s.rows →
      ∀ junk, (backupList order junk).filter (fun b => b.backupId = r.info.backupId)
        = (backupGetInfo s.rows r.info.backupId).toList := by
  intro hclaim
  have hrun : (run (vaultStep newYearClock []) emptyVault
      [attemptAt ['/', 's'] .full 0 0 [],
        attemptAt ['/', 's'] .incremental 1 0 [goodRow]]).map (·.rows)
      = some [goodRow, incrementalRow] := by decide +kernel
  obtain ⟨s, hs, hrows⟩ := Option.map_eq_some_iff.mp hrun
  have hreach : Reach VaultInit (vaultStep newYearClock []) anyStep s :=
    (Reach.start ⟨rfl, rfl, rfl⟩).of_run_any hs
  have hagree := hclaim _ _ s [incrementalRow, goodRow] incrementalRow hreach
    (by rw [hrows]; decide +kernel) (by rw [hrows]; decide +kernel) fun _ => []
  rw [hrows] at hagree
  exact absurd hagree (by decide +kernel)

/-! ## Verification -/

/-! The fixed parts of the command that measures a directory. -/

/-- The command of `backup_get_directory_size` up to the directory. -/
def duLead : CStr := "du -sb \"".toList

/-- The same behind the directory. -/
def duClose : CStr := "\" 2>/dev/null | cut -f1".toList

/-- `backup_get_directory_size`; `popen` gives what a command prints, or `none` when it cannot be
started. -/
def backupGetDirectorySize (popen : CStr → Option CStr) (path : CStr) : ℕ :=
  match popen (fit 512 (duLead ++ (path ++ duClose))) with
  | none => 0
  | some out => ((scanUnsigned out).map Prod.fst).getD 0

/-- `backup_verify`; `stat` says whether a path exists. -/
def backupVerify (db : Option (List CatRow)) (id : CStr) (stat : CStr → Bool)
    (popen : CStr → Option CStr) : ℤ :=
  match db.bind fun rows => backupGetInfo rows id with
  | none => -1
  | some info =>
      if stat info.destPath = false then -1
      else if backupGetDirectorySize popen info.destPath = 0 then -1
      else 0

/-- A file is created or modified, or it is deleted. -/
inductive FileOp (κ : Type*)
  | write (p : Path) (content : κ)
  | delete (p : Path)

namespace FileOp

variable {κ : Type*}

/-- The file an operation is about. -/
def path : FileOp κ → Path
  | write p _ => p
  | delete p => p

/-- The files after one operation. -/
def apply (fs : Path → Option κ) : FileOp κ → Path → Option κ
  | write p content => fun q => if q = p then some content else fs q
  | delete p => fun q => if q = p then none else fs q

/-- What an operation leaves at its path. -/
def leaves : FileOp κ → Option κ
  | write _ content => some content
  | delete _ => none

end FileOp

section Verify

variable {κ : Type*} {localtime : ℤ → Tm} {cwd : Path} {s s' : Vault κ} {source dest : CStr}
  {type : BackupType} {e : CreateEnv} {rows : List CatRow} {r : CatRow}

end Verify

/-! ### A file changed afterwards -/

end Storage

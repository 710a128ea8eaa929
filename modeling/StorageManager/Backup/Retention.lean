import StorageManager.Backup.Runs

/-!
# What a failed backup does to the others

`backup_create` stores a row for a run of `rsync` that failed as for one that succeeded, and
`backup_list` returns all of them, of every source, by their time alone.  Two functions take the
head of that list for the backups worth having:

* `backup_cleanup_old` keeps the first `keep_count` entries.  `cleanup_keeps_success_iff`: the last
  good backup survives exactly when one of them is good.
* an incremental `backup_create` takes the first entry as its parent.  `parent_usable_iff`: the
  parent is a good backup of the same source exactly when the first entry is.

Both rest on the identifiers, which are distinct and short in every catalogue (`IdsOk`): the rows
that a clean-up leaves are the first entries of the list (`mem_backupCleanupOld`).
-/

namespace Storage

open CString Files Machine

/-- The identifiers fit every buffer they go through, and are distinct. -/
structure IdsOk (rows : List CatRow) : Prop where
  length : ∀ r ∈ rows, r.info.backupId.length = 22
  nodup : (rows.map (·.info.backupId)).Nodup

section Identifiers

variable {κ : Type*} {localtime : ℤ → Tm} {cwd : Path} {s s' : Vault κ}

lemma idsOk_step {a : VaultAct} (h : IdsOk s.rows) (hstep : vaultStep localtime cwd s a = some s') :
    IdsOk s'.rows := by
  cases a with
  | create source dest type e =>
      rw [(vaultStep_create hstep).1]
      refine ⟨fun r hr => ?_, nodup_insertRow h.nodup⟩
      unfold insertRow at hr
      split_ifs at hr
      · exact h.length r hr
      · rcases List.mem_append.mp hr with hr | hr
        · exact h.length r hr
        · rw [List.mem_singleton.mp hr]
          exact length_backupGenerateId _
  | cleanup keepCount order junk =>
      obtain ⟨-, hrows, -⟩ := vaultStep_cleanup hstep
      rw [hrows]
      have hsub := cleanupLoop_sublist s.rows ((backupList order junk).drop keepCount)
      exact ⟨fun r hr => h.length r (hsub.subset hr), h.nodup.sublist (hsub.map _)⟩

lemma idsOk_of_reach (h : Reach VaultInit (vaultStep localtime cwd) anyStep s) : IdsOk s.rows := by
  refine h.invariant ?_ fun s a s' hs _ hstep => idsOk_step hs hstep
  rintro s ⟨hrows, -⟩
  rw [hrows]
  constructor <;> simp

end Identifiers

/-! ## What a clean-up keeps -/

section Kept

variable {rows order : List CatRow}

/-- A row goes when an entry has its identifier. -/
lemma mem_cleanupLoop {r : CatRow} {bs : List BackupInfo} :
    r ∈ (cleanupLoop rows bs).1 ↔ r ∈ rows ∧ r.info.backupId ∉ bs.map (·.backupId) := by
  induction bs generalizing rows with
  | nil => simp [cleanupLoop]
  | cons b bs ih =>
      simp only [cleanupLoop, ih, List.mem_filter, decide_eq_true_eq, List.map_cons, List.mem_cons,
        not_or, and_assoc]

/-- The rows that are left are those of the first entries. -/
lemma mem_backupCleanupOld (h : IdsOk rows) (horder : ListOrder rows order) (keepCount : ℕ)
    (junk : ℕ → CStr) (r : CatRow) :
    r ∈ (backupCleanupOld rows keepCount order junk).1 ↔ r ∈ order.take keepCount := by
  have hids : (backupList order junk).map (·.backupId) = order.map (·.info.backupId) :=
    backupList_ids (fun x hx => by rw [h.length x (horder.1.subset hx)]; omega) junk
  have hnodup : (order.map (·.info.backupId)).Nodup := (horder.1.map _).nodup_iff.mpr h.nodup
  rw [backupCleanupOld, mem_cleanupLoop, List.map_drop, hids, ← List.map_drop, ← horder.1.mem_iff]
  rw [← List.take_append_drop keepCount order, List.map_append, List.nodup_append] at hnodup
  constructor
  · rintro ⟨hr, hnot⟩
    rw [← List.take_append_drop keepCount order] at hr
    refine (List.mem_append.mp hr).resolve_right fun hdrop => hnot ?_
    exact List.mem_map_of_mem hdrop
  · intro hr
    refine ⟨List.mem_of_mem_take hr, fun hdrop => ?_⟩
    exact hnodup.2.2 _ (List.mem_map_of_mem hr) _ hdrop rfl

end Kept

/-- There is a backup to fall back on. -/
def HasSuccess (rows : List CatRow) : Prop := ∃ r ∈ rows, r.info.success = 1

instance (rows : List CatRow) : Decidable (HasSuccess rows) :=
  inferInstanceAs (Decidable (∃ r ∈ rows, _))

/-- **The last good backup** survives a clean-up exactly when one of the entries it keeps is
good. -/
theorem cleanup_keeps_success_iff {κ : Type*} {localtime : ℤ → Tm} {cwd : Path} {s s' : Vault κ}
    (h : Reach VaultInit (vaultStep localtime cwd) anyStep s) {keepCount : ℕ}
    {order : List CatRow} {junk : ℕ → CStr}
    (hstep : vaultStep localtime cwd s (.cleanup keepCount order junk) = some s') :
    (HasSuccess s.rows → HasSuccess s'.rows) ↔
      (HasSuccess s.rows → HasSuccess (order.take keepCount)) := by
  obtain ⟨horder, hrows, -⟩ := vaultStep_cleanup hstep
  have hkept : HasSuccess s'.rows ↔ HasSuccess (order.take keepCount) := by
    simp only [HasSuccess, hrows, mem_backupCleanupOld (idsOk_of_reach h) horder]
  rw [hkept]

/-! ### A failure after a success -/

/-- A backup of `source` to `/b` at time `t` with this exit status. -/
def attemptAt (source : CStr) (type : BackupType) (t status : ℤ) (order : List CatRow) : VaultAct :=
  .create source ['/', 'b'] type { envAt t order with popen := some status }

/-- Its row. -/
def attemptRow (source : CStr) (type : BackupType) (t status : ℤ) (order : List CatRow) : CatRow :=
  createRow newYearClock order source ['/', 'b'] type { envAt t order with popen := some status }

/-- The good backup of `/s` in second 0. -/
def goodRow : CatRow := attemptRow ['/', 's'] .full 0 0 []

/-- The failed one in second 1. -/
def failedRow : CatRow := attemptRow ['/', 's'] .full 1 23 []

/-- Two backups, the second of which failed. -/
def failingRun : List VaultAct :=
  [attemptAt ['/', 's'] .full 0 0 [], attemptAt ['/', 's'] .full 1 23 [goodRow]]

lemma failingRun_rows : ∃ s : Vault ℕ, Reach VaultInit (vaultStep newYearClock []) anyStep s ∧
    s.rows = [goodRow, failedRow] ∧ ListOrder s.rows [failedRow, goodRow] := by
  have hrun : (run (vaultStep newYearClock []) emptyVault failingRun).map (·.rows)
      = some [goodRow, failedRow] := by decide +kernel
  obtain ⟨s, hs, hrows⟩ := Option.map_eq_some_iff.mp hrun
  have hreach : Reach VaultInit (vaultStep newYearClock []) anyStep s :=
    (Reach.start ⟨rfl, rfl, rfl⟩).of_run_any hs
  have horder : ListOrder s.rows [failedRow, goodRow] := by rw [hrows]; decide +kernel
  exact ⟨s, hreach, hrows, horder⟩

/-- A good one in second 2, after both. -/
def laterRow : CatRow := attemptRow ['/', 's'] .full 2 0 []

/-- The same two backups, and the good one after them. -/
def recoveringRun : List VaultAct :=
  failingRun ++ [attemptAt ['/', 's'] .full 2 0 [failedRow, goodRow]]

/-- Keeping two of the three: the oldest is removed and the last one is good. -/
theorem cleanup_keeps_success_last :
    ∃ s s' : Vault ℕ, vaultStep newYearClock [] s
        (.cleanup 2 [laterRow, failedRow, goodRow] fun _ => []) = some s' ∧
      s.rows = [goodRow, failedRow, laterRow] ∧ s'.rows = [failedRow, laterRow] ∧
      HasSuccess s'.rows := by
  have hrun : (run (vaultStep newYearClock []) emptyVault recoveringRun).map (·.rows)
      = some [goodRow, failedRow, laterRow] := by decide +kernel
  obtain ⟨s, hs, hrows⟩ := Option.map_eq_some_iff.mp hrun
  have hreach : Reach VaultInit (vaultStep newYearClock []) anyStep s :=
    (Reach.start ⟨rfl, rfl, rfl⟩).of_run_any hs
  have horder : ListOrder s.rows [laterRow, failedRow, goodRow] := by rw [hrows]; decide +kernel
  obtain ⟨s', hstep⟩ : ∃ s', vaultStep newYearClock [] s
      (.cleanup 2 [laterRow, failedRow, goodRow] fun _ => []) = some s' := ⟨_, if_pos horder⟩
  have hleft : s'.rows = [failedRow, laterRow] := by
    rw [(vaultStep_cleanup hstep).2.1, hrows]
    decide +kernel
  have hgood : HasSuccess ([laterRow, failedRow, goodRow].take 2) := by decide +kernel
  exact ⟨s, s', hstep, hrows, hleft, (cleanup_keeps_success_iff hreach hstep).mpr (fun _ => hgood)
    (by rw [hrows]; decide +kernel)⟩

/-- Keeping one, the failed one is kept and the good one removed. -/
theorem cleanup_drops_last_success :
    ¬ ∀ (localtime : ℤ → Tm) (cwd : Path) (s s' : Vault ℕ) (keepCount : ℕ) (order : List CatRow)
      (junk : ℕ → CStr), Reach VaultInit (vaultStep localtime cwd) anyStep s → 1 ≤ keepCount →
      vaultStep localtime cwd s (.cleanup keepCount order junk) = some s' →
      HasSuccess s.rows → HasSuccess s'.rows := by
  intro hclaim
  obtain ⟨s, hreach, hrows, horder⟩ := failingRun_rows
  obtain ⟨s', hstep⟩ : ∃ s', vaultStep newYearClock [] s
      (.cleanup 1 [failedRow, goodRow] fun _ => []) = some s' := ⟨_, if_pos horder⟩
  have hleft : s'.rows = [failedRow] := by
    rw [(vaultStep_cleanup hstep).2.1, hrows]
    decide +kernel
  have hgood := hclaim _ _ s s' 1 _ _ hreach le_rfl hstep (by rw [hrows]; decide +kernel)
  rw [hleft] at hgood
  exact absurd hgood (by decide +kernel)

/-! ## The parent of an incremental backup -/

/-- The row named `parent` is a good backup of `source`, and no good backup of `source` is
newer. -/
def ParentUsable (rows : List CatRow) (source parent : CStr) : Prop :=
  ∃ r ∈ rows, r.info.backupId = parent ∧ r.info.success = 1 ∧ r.info.sourcePath = source ∧
    ∀ r' ∈ rows, r'.info.success = 1 → r'.info.sourcePath = source →
      r'.info.timestamp ≤ r.info.timestamp

instance (rows : List CatRow) (source parent : CStr) :
    Decidable (ParentUsable rows source parent) :=
  inferInstanceAs (Decidable (∃ r ∈ rows, _))

section Parent

variable {κ : Type*} {localtime : ℤ → Tm} {cwd : Path} {rows order : List CatRow}

/-- An incremental backup records the identifier of the first entry. -/
lemma parentBackupId_incremental (h : IdsOk rows) {e : CreateEnv} (horder : ListOrder rows e.order)
    (source dest : CStr) :
    (createRow localtime rows source dest .incremental e).info.parentBackupId
      = (e.order.head?.map (·.info.backupId)).getD [] := by
  simp only [createRow, createInfo, newestBackup]
  cases hord : e.order with
  | nil => rfl
  | cons r rest =>
      have hlen : r.info.backupId.length = 22 := h.length r (horder.1.subset (by simp [hord]))
      have hcopy : fitOver (e.junk 0) 64 r.info.backupId = r.info.backupId :=
        fitOver_of_lt (by omega)
      have hfit : fit 64 r.info.backupId = r.info.backupId := fit_of_lt (by omega)
      simp [backupList, List.mapIdx_cons, listInfo, hcopy, hfit]

/-- The first entry is the newest row. -/
lemma ListOrder.head_newest {r : CatRow} {rest : List CatRow} (h : ListOrder rows (r :: rest))
    {r' : CatRow} (hr' : r' ∈ rows) : r'.info.timestamp ≤ r.info.timestamp := by
  rcases List.mem_cons.mp (h.1.symm.subset hr') with rfl | hrest
  · exact le_rfl
  · exact (List.pairwise_cons.mp h.2).1 r' hrest

/-- **The parent of an incremental backup** is usable exactly when the newest entry of the whole
list is a good backup of the same source. -/
theorem parent_usable_iff {s s' : Vault κ}
    (h : Reach VaultInit (vaultStep localtime cwd) anyStep s) {source dest : CStr} {e : CreateEnv}
    (hstep : vaultStep localtime cwd s (.create source dest .incremental e) = some s') :
    ((createRow localtime s.rows source dest .incremental e).info.parentBackupId ≠ [] →
        ParentUsable s.rows source
          (createRow localtime s.rows source dest .incremental e).info.parentBackupId) ↔
      ∀ r ∈ e.order.head?, r.info.success = 1 ∧ r.info.sourcePath = source := by
  have horder : ListOrder s.rows e.order := by
    simp only [vaultStep] at hstep
    split_ifs at hstep with horder
    exact horder
  have hids := idsOk_of_reach h
  rw [parentBackupId_incremental hids horder]
  cases hord : e.order with
  | nil => simp
  | cons r rest =>
      rw [hord] at horder
      have hmem : r ∈ s.rows := horder.1.subset List.mem_cons_self
      have hne : r.info.backupId ≠ [] := by
        rw [← List.length_pos_iff_ne_nil, hids.length r hmem]
        decide
      simp only [List.head?_cons, Option.map_some, Option.getD_some, Option.mem_some_iff,
        forall_eq', ne_eq, hne, not_false_eq_true, forall_const]
      constructor
      · rintro ⟨r', hr', hid, hsuccess, hsource, -⟩
        obtain rfl := List.inj_on_of_nodup_map hids.nodup hr' hmem hid
        exact ⟨hsuccess, hsource⟩
      · rintro ⟨hsuccess, hsource⟩
        exact ⟨r, hmem, rfl, hsuccess, hsource, fun r' hr' _ _ => horder.head_newest hr'⟩

end Parent

/-- An incremental backup of `/s` after a good full one. -/
theorem parent_usable_after_full :
    ∃ s : Vault ℕ, (createRow newYearClock s.rows ['/', 's'] ['/', 'b'] .incremental
        (envAt 1 [goodRow])).info.parentBackupId = goodRow.info.backupId ∧
      ParentUsable s.rows ['/', 's'] goodRow.info.backupId := by
  have hrun : (run (vaultStep newYearClock []) emptyVault
      [attemptAt ['/', 's'] .full 0 0 []]).map (·.rows) = some [goodRow] := by decide +kernel
  obtain ⟨s, hs, hrows⟩ := Option.map_eq_some_iff.mp hrun
  have hreach : Reach VaultInit (vaultStep newYearClock []) anyStep s :=
    (Reach.start ⟨rfl, rfl, rfl⟩).of_run_any hs
  have horder : ListOrder s.rows [goodRow] := by rw [hrows]; decide +kernel
  obtain ⟨s', hstep⟩ : ∃ s', vaultStep newYearClock [] s
      (.create ['/', 's'] ['/', 'b'] .incremental (envAt 1 [goodRow])) = some s' :=
    ⟨_, if_pos horder⟩
  have hparent : (createRow newYearClock s.rows ['/', 's'] ['/', 'b'] .incremental
      (envAt 1 [goodRow])).info.parentBackupId = goodRow.info.backupId := by
    rw [hrows]
    decide +kernel
  have husable := (parent_usable_iff hreach hstep).mpr (by decide +kernel)
  rw [hparent] at husable
  exact ⟨s, hparent, husable (by decide +kernel)⟩

/-- After a failed full backup the incremental one refers to it, past the good one. -/
theorem parent_is_failed_backup :
    ¬ ∀ (localtime : ℤ → Tm) (cwd : Path) (s s' : Vault ℕ) (source dest : CStr) (e : CreateEnv),
      Reach VaultInit (vaultStep localtime cwd) anyStep s →
      vaultStep localtime cwd s (.create source dest .incremental e) = some s' →
      (createRow localtime s.rows source dest .incremental e).info.parentBackupId ≠ [] →
      ParentUsable s.rows source
        (createRow localtime s.rows source dest .incremental e).info.parentBackupId := by
  intro hclaim
  obtain ⟨s, hreach, hrows, horder⟩ := failingRun_rows
  obtain ⟨s', hstep⟩ : ∃ s', vaultStep newYearClock [] s
      (.create ['/', 's'] ['/', 'b'] .incremental (envAt 2 [failedRow, goodRow])) = some s' :=
    ⟨_, if_pos horder⟩
  have husable := hclaim _ _ s s' _ _ _ hreach hstep
  rw [hrows] at husable
  exact absurd (husable (by decide +kernel)) (by decide +kernel)

end Storage

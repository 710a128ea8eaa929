import StorageManager.Backup.Restore
import StorageManager.Lib.Machine
import Mathlib.Data.List.Nodup
import Mathlib.Data.List.Count

/-!
# Runs of backups and clean-ups

The catalogue and the files under any sequence of `backup_create` and `backup_cleanup_old`.  Next
to the state a run keeps a record of every call, with the rows before and after it, and of every
`rm -rf`, with the row that was deleted for it and the rows that were left.

**The catalogue.**  A call is recorded as itself when its strings fit their columns and no earlier
call drew its identifier in the same second of local time: `successful_backups_recorded`.  Two
calls in one second share a directory, and only the first of them has a row.

**The clean-up.**  The path of an `rm -rf` has been through four buffers since the directory was
made.  `RowsOk` says what has to survive: the stored path still names the directory of its call,
and no row's directory lies at or below another's.  The loop of `backup_cleanup_old` keeps it
(`cleanupLoop_ok`), and so does every call that does not place one backup inside another
(`RowsOk.insertRow`); hence `cleanup_removes_own`, and `cleanup_keeps_files` for the files.
-/

namespace Storage

open CString Shell Files Machine

/-- The directory a call made with `mkdir -p`, if the shell was given one. -/
def madeDir (cwd : Path) (c : Call) : Option Path :=
  match shellCommand (fit 2048 (mkdirText c.destPath)) with
  | .makeDir p => some (resolve cwd p)
  | _ => none

/-- A call of `backup_create` that has returned: when it drew its identifier, what it returned and
the catalogue before and after it. -/
structure CallRecord where
  call : Call
  idNow : ℤ
  ret : ℤ
  before : List CatRow
  after : List CatRow

/-- The catalogue and the files, the last clock reading, and what has been done so far. -/
structure Vault (κ : Type*) where
  rows : List CatRow
  fs : Path → Option κ
  clock : ℤ
  calls : List CallRecord
  removals : List Removal

/-- A call of `backup_create` or of `backup_cleanup_old`, with what it meets. -/
inductive VaultAct
  | create (source dest : CStr) (type : BackupType) (e : CreateEnv)
  | cleanup (keepCount : ℕ) (order : List CatRow) (junk : ℕ → CStr)

section Step

variable {κ : Type*} (localtime : ℤ → Tm) (cwd : Path)

/-- The files after the commands of a clean-up. -/
def removeAll (fs : Path → Option κ) (ms : List Removal) : Path → Option κ :=
  ms.foldl (fun fs m => runCommand cwd fs m.cmd 0 fun _ => true) fs

/-- One call, with the database open. -/
def vaultStep (s : Vault κ) : VaultAct → Option (Vault κ)
  | .create source dest type e =>
      if ListOrder s.rows e.order then
        let r := backupCreate localtime cwd ⟨some s.rows, s.fs⟩ source dest type e
        let rows := r.1.db.getD s.rows
        some { s with
          rows := rows
          fs := r.1.fs
          clock := e.idNow
          calls := s.calls ++
            [⟨createCall source dest type (localtime e.idNow), e.idNow, r.2, s.rows, rows⟩] }
      else none
  | .cleanup keepCount order junk =>
      if ListOrder s.rows order then
        let r := backupCleanupOld s.rows keepCount order junk
        some { s with
          rows := r.1
          fs := removeAll cwd s.fs r.2
          removals := s.removals ++ r.2 }
      else none

/-- `backup_init` on a new database. -/
def VaultInit (s : Vault κ) : Prop := s.rows = [] ∧ s.calls = [] ∧ s.removals = []

/-- The row a call has for the catalogue. -/
def createRow (rows : List CatRow) (source dest : CStr) (type : BackupType) (e : CreateEnv) :
    CatRow :=
  let c := createCall source dest type (localtime e.idNow)
  ⟨createInfo (newestBackup (some rows) type e) c e, c⟩

variable {localtime cwd} {s s' : Vault κ}

lemma vaultStep_create {source dest : CStr} {type : BackupType} {e : CreateEnv}
    (h : vaultStep localtime cwd s (.create source dest type e) = some s') :
    s'.rows = insertRow s.rows (createRow localtime s.rows source dest type e) ∧
      s'.calls = s.calls ++ [⟨createCall source dest type (localtime e.idNow), e.idNow,
        if e.popen = some 0 then 0 else -1, s.rows, s'.rows⟩] ∧
      s'.removals = s.removals := by
  simp only [vaultStep] at h
  split_ifs at h
  obtain rfl := Option.some.inj h
  exact ⟨rfl, rfl, rfl⟩

lemma vaultStep_cleanup {keepCount : ℕ} {order : List CatRow} {junk : ℕ → CStr}
    (h : vaultStep localtime cwd s (.cleanup keepCount order junk) = some s') :
    ListOrder s.rows order ∧ s'.rows = (backupCleanupOld s.rows keepCount order junk).1 ∧
      s'.calls = s.calls ∧
      s'.removals = s.removals ++ (backupCleanupOld s.rows keepCount order junk).2 ∧
      s'.fs = removeAll cwd s.fs (backupCleanupOld s.rows keepCount order junk).2 := by
  simp only [vaultStep] at h
  split_ifs at h with horder
  obtain rfl := Option.some.inj h
  exact ⟨horder, rfl, rfl, rfl, rfl⟩

end Step

/-! ## The directory of a call -/

section Directory

variable {cwd : Path} {source dest : CStr} {type : BackupType} {tm : Tm}

lemma createCall_destPath (hlen : dest.length + 23 ≤ 255) :
    (createCall source dest type tm).destPath = dest ++ '/' :: backupGenerateId tm := by
  refine fit_of_lt ?_
  simp only [List.length_append, List.length_cons, length_backupGenerateId]
  omega

lemma createInfo_destPath {newest : Option BackupInfo} {e : CreateEnv}
    (hlen : dest.length + 23 ≤ 255) :
    (createInfo newest (createCall source dest type tm) e).destPath
      = dest ++ '/' :: backupGenerateId tm := by
  simp only [createInfo, createCall_destPath hlen]
  refine fit_of_lt ?_
  simp only [List.length_append, List.length_cons, length_backupGenerateId]
  omega

/-- With a string that survives, a call makes the directory its path names. -/
lemma madeDir_createCall (hlen : dest.length + 23 ≤ 255) (hsafe : QuoteSafe dest)
    (hop : isOperand dest = true) :
    madeDir cwd (createCall source dest type tm)
      = some (resolve cwd (dest ++ '/' :: backupGenerateId tm)) := by
  have hfit : fit 2048 (mkdirText (dest ++ '/' :: backupGenerateId tm))
      = mkdirText (dest ++ '/' :: backupGenerateId tm) := by
    refine fit_of_lt ?_
    simp only [length_mkdirText, List.length_append, List.length_cons, length_backupGenerateId]
    omega
  rw [madeDir, createCall_destPath hlen, hfit,
    shellCommand_mkdir (quoteSafe_join hsafe (quoteSafe_backupGenerateId tm))
      (by rw [isOperand_slash, hop])]

end Directory

/-! ## Every backup in the catalogue as itself -/

/-- A call that returned 0 added one row, and the row carries the call's type, source and
directory. -/
def Recorded (cwd : Path) (k : CallRecord) : Prop :=
  k.ret = 0 → ∃ row, k.after = k.before ++ [row] ∧ row.info.success = 1 ∧
    row.info.type = k.call.type ∧ row.info.sourcePath = k.call.source ∧
    madeDir cwd k.call = some (resolve cwd row.info.destPath)

/-- The two calls did not write into one directory. -/
def OwnDirs (cwd : Path) (a b : CallRecord) : Prop :=
  ∀ p, madeDir cwd a.call = some p → madeDir cwd b.call ≠ some p

section Records

variable {κ : Type*} (localtime : ℤ → Tm) (cwd : Path)

/-- The clock never goes back, and there are only calls of `backup_create`. -/
def ClockForward (s : Vault κ) : VaultAct → Prop
  | .create _ _ _ e => s.clock ≤ e.now ∧ e.now ≤ e.idNow
  | .cleanup .. => False

instance (s : Vault κ) (a : VaultAct) : Decidable (ClockForward s a) :=
  match a with
  | .create _ _ _ _ => inferInstanceAs (Decidable (_ ∧ _))
  | .cleanup .. => inferInstanceAs (Decidable False)

/-- The strings fit, and no earlier call drew its identifier in this second of local time. -/
def SpacedCalls (s : Vault κ) : VaultAct → Prop
  | .create source dest _ e =>
      source.length ≤ 255 ∧ dest.length + 23 ≤ 255 ∧ QuoteSafe dest ∧ isOperand dest = true ∧
        ∀ k ∈ s.calls, localtime k.idNow ≠ localtime e.idNow
  | .cleanup .. => True

instance (s : Vault κ) (a : VaultAct) : Decidable (SpacedCalls localtime s a) :=
  match a with
  | .create _ _ _ _ => inferInstanceAs (Decidable (_ ∧ _ ∧ _ ∧ _ ∧ _))
  | .cleanup .. => inferInstanceAs (Decidable True)

/-- What a run of spaced calls keeps: besides the result, where the identifiers of the rows come
from and that the directory of a call ends in its identifier. -/
structure RecordsOk (s : Vault κ) : Prop where
  recorded : ∀ k ∈ s.calls, Recorded cwd k
  own_dirs : s.calls.Pairwise (OwnDirs cwd)
  row_id : ∀ r ∈ s.rows, ∃ k ∈ s.calls, r.info.backupId = backupGenerateId (localtime k.idNow)
  dir_id : ∀ k ∈ s.calls, ∃ d, madeDir cwd k.call
    = some (d ++ [backupGenerateId (localtime k.idNow)])

variable {localtime cwd} {s s' : Vault κ}

/-- Local times that differ give directories that differ. -/
lemma ownDirs_of_ne {a b : CallRecord} (hne : localtime a.idNow ≠ localtime b.idNow)
    (ha : ∃ d, madeDir cwd a.call = some (d ++ [backupGenerateId (localtime a.idNow)]))
    (hb : ∃ d, madeDir cwd b.call = some (d ++ [backupGenerateId (localtime b.idNow)])) :
    OwnDirs cwd a b := by
  obtain ⟨d, hd⟩ := ha
  obtain ⟨d', hd'⟩ := hb
  intro p hp hp'
  have heq : d ++ [backupGenerateId (localtime a.idNow)]
      = d' ++ [backupGenerateId (localtime b.idNow)] :=
    Option.some.inj (hd.symm.trans (hp.trans (hp'.symm.trans hd')))
  have hlast := List.append_inj_right' heq rfl
  exact hne (backupGenerateId_injective (List.singleton_injective hlast))

/-- No row has the identifier of a call in a second of its own. -/
lemma RecordsOk.fresh (h : RecordsOk localtime cwd s) {now : ℤ}
    (hsecond : ∀ k ∈ s.calls, localtime k.idNow ≠ localtime now) :
    ∀ r ∈ s.rows, r.info.backupId ≠ backupGenerateId (localtime now) := by
  intro r hr heq
  obtain ⟨k, hk, hid⟩ := h.row_id r hr
  exact hsecond k hk (backupGenerateId_injective (hid.symm.trans heq))

/-- A call whose row is stored is recorded. -/
lemma recorded_createCall {rows after : List CatRow} {source dest : CStr} {type : BackupType}
    {e : CreateEnv} (hsource : source.length ≤ 255) (hdest : dest.length + 23 ≤ 255)
    (hsafe : QuoteSafe dest) (hop : isOperand dest = true)
    (hafter : after = rows ++ [createRow localtime rows source dest type e]) :
    Recorded cwd ⟨createCall source dest type (localtime e.idNow), e.idNow,
      if e.popen = some 0 then 0 else -1, rows, after⟩ := by
  intro hret
  have hpopen : e.popen = some 0 := by
    by_contra hne
    simp [hne] at hret
  refine ⟨_, hafter, if_pos hpopen, rfl, fit_of_lt (Nat.lt_succ_of_le hsource), ?_⟩
  simp only [createRow, createInfo_destPath hdest]
  exact madeDir_createCall hdest hsafe hop

lemma RecordsOk.create {source dest : CStr} {type : BackupType} {e : CreateEnv}
    (h : RecordsOk localtime cwd s)
    (hspaced : SpacedCalls localtime s (.create source dest type e))
    (hstep : vaultStep localtime cwd s (.create source dest type e) = some s') :
    RecordsOk localtime cwd s' := by
  obtain ⟨hsource, hdest, hsafe, hop, hsecond⟩ := hspaced
  obtain ⟨hrows, hcalls, -⟩ := vaultStep_create hstep
  rw [insertRow_of_fresh (h.fresh hsecond)] at hrows
  have hdir : ∃ d, madeDir cwd (createCall source dest type (localtime e.idNow))
      = some (d ++ [backupGenerateId (localtime e.idNow)]) :=
    ⟨_, (madeDir_createCall hdest hsafe hop).trans
      (congrArg some (resolve_name cwd dest (plainName_backupGenerateId _)))⟩
  constructor
  · rw [hcalls]
    exact List.forall_mem_append.mpr ⟨h.recorded, List.forall_mem_singleton.mpr
      (recorded_createCall hsource hdest hsafe hop hrows)⟩
  · rw [hcalls]
    refine List.pairwise_append.mpr ⟨h.own_dirs, List.pairwise_singleton _ _, ?_⟩
    intro a ha
    exact List.forall_mem_singleton.mpr (ownDirs_of_ne (hsecond a ha) (h.dir_id a ha) hdir)
  · rw [hrows, hcalls]
    refine List.forall_mem_append.mpr ⟨fun r hr => ?_, List.forall_mem_singleton.mpr ?_⟩
    · obtain ⟨k, hk, hid⟩ := h.row_id r hr
      exact ⟨k, List.mem_append_left _ hk, hid⟩
    · exact ⟨_, List.mem_append_right _ (List.mem_singleton_self _), rfl⟩
  · rw [hcalls]
    exact List.forall_mem_append.mpr ⟨h.dir_id, List.forall_mem_singleton.mpr hdir⟩

/-- A clean-up only takes rows away. -/
lemma cleanupLoop_sublist (rows : List CatRow) (bs : List BackupInfo) :
    (cleanupLoop rows bs).1.Sublist rows := by
  induction bs generalizing rows with
  | nil => exact List.Sublist.refl _
  | cons b bs ih => exact (ih _).trans List.filter_sublist

lemma RecordsOk.cleanup {keepCount : ℕ} {order : List CatRow} {junk : ℕ → CStr}
    (h : RecordsOk localtime cwd s)
    (hstep : vaultStep localtime cwd s (.cleanup keepCount order junk) = some s') :
    RecordsOk localtime cwd s' := by
  obtain ⟨-, hrows, hcalls, -⟩ := vaultStep_cleanup hstep
  constructor
  · rw [hcalls]
    exact h.recorded
  · rw [hcalls]
    exact h.own_dirs
  · rw [hrows, hcalls]
    exact fun r hr => h.row_id r ((cleanupLoop_sublist _ _).subset hr)
  · rw [hcalls]
    exact h.dir_id

/-- **Every successful backup is in the catalogue as itself**, in every run whose calls have
strings that fit and a second of local time of their own. -/
theorem successful_backups_recorded
    (h : Reach VaultInit (vaultStep localtime cwd) (SpacedCalls localtime) s) :
    (∀ k ∈ s.calls, Recorded cwd k) ∧ s.calls.Pairwise (OwnDirs cwd) := by
  have hok : RecordsOk localtime cwd s := by
    refine Reach.invariant ?_ ?_ h
    · rintro s ⟨hrows, hcalls, -⟩
      constructor <;> simp [hrows, hcalls]
    · intro s a s' hs hspaced hstep
      cases a with
      | create source dest type e => exact hs.create hspaced hstep
      | cleanup keepCount order junk => exact hs.cleanup hstep
  exact ⟨hok.recorded, hok.own_dirs⟩

end Records

/-! ### One second, two calls -/

/-- The seconds of a minute that starts with the year. -/
def newYearClock (t : ℤ) : Tm :=
  { newYear with
    sec := t.toNat % 60
    sec_lt := Nat.lt_trans (Nat.mod_lt _ (Nat.succ_pos 59)) (by decide) }

/-- A call at time `t` that finds the rows in the order `order`. -/
def envAt (t : ℤ) (order : List CatRow) : CreateEnv where
  now := t
  idNow := t
  order := order
  junk := fun _ => []
  popen := some 0
  copied := fun _ => true
  size := 0

/-- A full backup of `/s` to `dest` at time `t`. -/
def backupAt (dest : CStr) (t : ℤ) (order : List CatRow) : VaultAct :=
  .create ['/', 's'] dest .full (envAt t order)

/-- The row of such a backup. -/
def rowAt (dest : CStr) (t : ℤ) : CatRow :=
  createRow newYearClock [] ['/', 's'] dest .full (envAt t [])

/-- No file, no row and no call yet. -/
def emptyVault : Vault ℕ := ⟨[], fun _ => none, 0, [], []⟩

/-- A call of second 0 and one of second 1. -/
theorem successful_backups_recorded_spaced :
    ∃ s : Vault ℕ, s.calls.map (·.ret) = [0, 0] ∧
      (∀ k ∈ s.calls, Recorded [] k) ∧ s.calls.Pairwise (OwnDirs []) := by
  have hrun : (run (vaultStep newYearClock []) emptyVault
      [backupAt ['/', 'b'] 0 [], backupAt ['/', 'b'] 1 [rowAt ['/', 'b'] 0]]).map
        (fun s => s.calls.map (·.ret)) = some [0, 0] := by decide +kernel
  obtain ⟨s, hs, hret⟩ := Option.map_eq_some_iff.mp hrun
  have hreach : Reach VaultInit (vaultStep newYearClock []) (SpacedCalls newYearClock) s :=
    (Reach.start ⟨rfl, rfl, rfl⟩).of_run (by decide +kernel) hs
  exact ⟨s, hret, successful_backups_recorded hreach⟩

/-- Both calls of one second return 0, and the second adds no row. -/
theorem second_backup_unrecorded :
    ¬ ∀ (localtime : ℤ → Tm) (cwd : Path) (s : Vault ℕ),
      Reach VaultInit (vaultStep localtime cwd) ClockForward s →
      (∀ k ∈ s.calls, Recorded cwd k) ∧ s.calls.Pairwise (OwnDirs cwd) := by
  intro hclaim
  have hrun : (run (vaultStep newYearClock []) emptyVault
      [backupAt ['/', 'b'] 0 [], backupAt ['/', 'b'] 0 [rowAt ['/', 'b'] 0]]).map
        (fun s => s.calls.map fun k => (k.ret, k.before.length, k.after.length))
      = some [(0, 0, 1), (0, 1, 1)] := by decide +kernel
  obtain ⟨s, hs, hlog⟩ := Option.map_eq_some_iff.mp hrun
  have hreach : Reach VaultInit (vaultStep newYearClock []) ClockForward s :=
    (Reach.start ⟨rfl, rfl, rfl⟩).of_run (by decide +kernel) hs
  have hsecond : ((0 : ℤ), 1, 1) ∈ s.calls.map fun k => (k.ret, k.before.length, k.after.length) :=
    by rw [hlog]; decide
  obtain ⟨k, hk, hvalues⟩ := List.mem_map.mp hsecond
  simp only [Prod.mk.injEq] at hvalues
  obtain ⟨row, hafter, -⟩ := (hclaim _ _ s hreach).1 k hk hvalues.1
  have hlen := congrArg List.length hafter
  simp only [List.length_append, List.length_singleton] at hlen
  omega

/-! ## What a clean-up removes -/

/-- The `rm -rf` is of the directory that the call of the one deleted row made, and of nothing that
the directory of a remaining row lies in. -/
def Removal.Safe (cwd : Path) (m : Removal) : Prop :=
  ∃ p r, shellCommand m.cmd = .remove p ∧ m.removed = [r] ∧
    madeDir cwd r.call = some (resolve cwd p) ∧
    ∀ r' ∈ m.remaining, ∀ q, madeDir cwd r'.call = some q → ¬ resolve cwd p <+: q

/-- The directory a row names. -/
def CatRow.dir (cwd : Path) (r : CatRow) : Path := resolve cwd r.info.destPath

/-- What is stored has room to come back unchanged, and names the directory of the call. -/
structure RowOk (cwd : Path) (r : CatRow) : Prop where
  id_short : r.info.backupId.length < 63
  path_short : r.info.destPath.length < 255
  path_safe : QuoteSafe r.info.destPath
  path_operand : isOperand r.info.destPath = true
  dir_eq : r.dir cwd = resolve cwd (r.call.dest ++ ['/']) ++ [r.info.backupId]
  made : madeDir cwd r.call = some (r.dir cwd)

/-- The rows are sound, have identifiers of their own, and none lies at or below another. -/
structure RowsOk (cwd : Path) (rows : List CatRow) : Prop where
  row : ∀ r ∈ rows, RowOk cwd r
  ids : (rows.map (·.info.backupId)).Nodup
  apart : ∀ a ∈ rows, ∀ b ∈ rows, a.info.backupId ≠ b.info.backupId → ¬ a.dir cwd <+: b.dir cwd

section Cleanup

variable {cwd : Path} {rows : List CatRow}

lemma RowsOk.sublist {rows' : List CatRow} (h : RowsOk cwd rows) (hsub : rows'.Sublist rows) :
    RowsOk cwd rows' where
  row r hr := h.row r (hsub.subset hr)
  ids := h.ids.sublist (hsub.map _)
  apart a ha b hb := h.apart a (hsub.subset ha) b (hsub.subset hb)

/-- The `UNIQUE` constraint. -/
lemma nodup_insertRow {row : CatRow} (h : (rows.map (·.info.backupId)).Nodup) :
    ((insertRow rows row).map (·.info.backupId)).Nodup := by
  unfold insertRow
  split_ifs with htaken
  · exact h
  · rw [List.map_append, List.nodup_append]
    refine ⟨h, List.nodup_singleton _, ?_⟩
    rintro i hi j hj rfl
    obtain ⟨r, hr, rfl⟩ := List.mem_map.mp hi
    exact htaken ⟨r, hr, List.mem_singleton.mp hj⟩

/-- A row that is not inside another one's directory, and has none inside its own, may be added. -/
lemma RowsOk.insertRow {row : CatRow} (h : RowsOk cwd rows) (hrow : RowOk cwd row)
    (hinside : ∀ r ∈ rows, ¬ r.dir cwd <+: resolve cwd (row.call.dest ++ ['/']))
    (haround : ∀ r ∈ rows, ¬ row.dir cwd <+: resolve cwd (r.call.dest ++ ['/'])) :
    RowsOk cwd (insertRow rows row) := by
  have hids : ((Storage.insertRow rows row).map (·.info.backupId)).Nodup := nodup_insertRow h.ids
  by_cases hfresh : ∀ r ∈ rows, r.info.backupId ≠ row.info.backupId
  swap
  · have hkept : Storage.insertRow rows row = rows := if_pos (by simpa using hfresh)
    rw [hkept]
    exact h
  rw [insertRow_of_fresh hfresh] at hids ⊢
  -- two directories that end in different names are nested only if one base is inside
  have hnest : ∀ {a b : CatRow}, RowOk cwd a → RowOk cwd b → a.info.backupId ≠ b.info.backupId →
      a.dir cwd <+: b.dir cwd → a.dir cwd <+: resolve cwd (b.call.dest ++ ['/']) := by
    intro a b ha hb hne hpre
    rw [ha.dir_eq, hb.dir_eq] at hpre
    rw [ha.dir_eq]
    exact under_name hne hpre
  refine ⟨List.forall_mem_append.mpr ⟨h.row, List.forall_mem_singleton.mpr hrow⟩, hids, ?_⟩
  intro a ha b hb hne hpre
  rcases List.mem_append.mp ha with hold | hnew <;>
    rcases List.mem_append.mp hb with hold' | hnew'
  · exact h.apart a hold b hold' hne hpre
  · obtain rfl := List.mem_singleton.mp hnew'
    exact hinside a hold (hnest (h.row a hold) hrow hne hpre)
  · obtain rfl := List.mem_singleton.mp hnew
    exact haround b hold' (hnest hrow (h.row b hold') hne hpre)
  · exact hne (by rw [List.mem_singleton.mp hnew, List.mem_singleton.mp hnew'])

lemma length_rmText (p : CStr) : (rmText p).length = p.length + 9 := by
  simp only [rmText, rmLead_eq, closeWord_eq, List.length_append, List.length_cons,
    List.length_nil]
  omega

/-- The command for a sound row removes its directory. -/
lemma RowOk.shellCommand_rm {r : CatRow} (h : RowOk cwd r) :
    shellCommand (fit 512 (rmText r.info.destPath)) = .remove r.info.destPath := by
  have hshort := h.path_short
  have hfit : fit 512 (rmText r.info.destPath) = rmText r.info.destPath :=
    fit_of_lt (by rw [length_rmText]; omega)
  rw [hfit, Storage.shellCommand_rm h.path_safe h.path_operand]

/-- `DELETE .. WHERE backup_id = ?` takes one row. -/
lemma filter_backupId_eq {r : CatRow} (h : (rows.map (·.info.backupId)).Nodup) (hr : r ∈ rows) :
    rows.filter (fun x => x.info.backupId = r.info.backupId) = [r] := by
  have hid : ∀ x ∈ rows, decide (x.info.backupId = r.info.backupId) = (x == r) := by
    intro x hx
    rw [Bool.eq_iff_iff, decide_eq_true_eq, beq_iff_eq]
    exact ⟨List.inj_on_of_nodup_map h hx hr, fun heq => by rw [heq]⟩
  rw [List.filter_congr hid, List.filter_beq, List.count_eq_one_of_mem h.of_map hr]
  rfl

/-- The entry is a faithful copy of a row. -/
def CopyOf (rows : List CatRow) (b : BackupInfo) : Prop :=
  ∃ r ∈ rows, b.backupId = r.info.backupId ∧ b.destPath = r.info.destPath

/-- Identifiers with room to spare come through `backup_list` unchanged. -/
lemma backupList_ids {order : List CatRow} (hid : ∀ r ∈ order, r.info.backupId.length < 63)
    (junk : ℕ → CStr) :
    (backupList order junk).map (·.backupId) = order.map (·.info.backupId) := by
  refine List.ext_getElem (by simp [backupList]) fun i hi hi' => ?_
  have hlt : i < order.length := by simpa using hi'
  have hcopy : fitOver (junk i) 64 order[i].info.backupId = _ :=
    fitOver_of_lt (hid order[i] (List.getElem_mem hlt))
  simp only [backupList, List.getElem_map, List.getElem_mapIdx, listInfo, hcopy]

/-- The two columns of sound rows come through `backup_list` unchanged. -/
lemma backupList_columns {order : List CatRow} (hrow : ∀ r ∈ order, RowOk cwd r)
    (junk : ℕ → CStr) :
    (backupList order junk).map (fun b => (b.backupId, b.destPath))
      = order.map fun r => (r.info.backupId, r.info.destPath) := by
  refine List.ext_getElem (by simp [backupList]) fun i hi hi' => ?_
  have hlt : i < order.length := by simpa using hi'
  have hok := hrow order[i] (List.getElem_mem hlt)
  have hid : fitOver (junk i) 64 order[i].info.backupId = _ := fitOver_of_lt hok.id_short
  have hpath : fitOver (junk i) 256 order[i].info.destPath = _ := fitOver_of_lt hok.path_short
  simp only [backupList, List.getElem_map, List.getElem_mapIdx, listInfo, hid, hpath]

/-- The rows that are left are sound, and those of the later entries are among them. -/
lemma RowsOk.delete {b : BackupInfo} {bs : List BackupInfo} (h : RowsOk cwd rows)
    (hids : ((b :: bs).map (·.backupId)).Nodup) (hcopy : ∀ b' ∈ b :: bs, CopyOf rows b') :
    RowsOk cwd (rows.filter fun r => r.info.backupId ≠ b.backupId) ∧
      ∀ b' ∈ bs, CopyOf (rows.filter fun r => r.info.backupId ≠ b.backupId) b' := by
  refine ⟨h.sublist List.filter_sublist, fun b' hb' => ?_⟩
  rw [List.map_cons, List.nodup_cons] at hids
  obtain ⟨r, hr, hid, hpath⟩ := hcopy b' (List.mem_cons_of_mem _ hb')
  refine ⟨r, List.mem_filter.mpr ⟨hr, ?_⟩, hid, hpath⟩
  rw [decide_eq_true_eq, ← hid]
  exact fun heq => hids.1 (heq ▸ List.mem_map_of_mem hb')

/-- **The loop of `backup_cleanup_old`.**  Over entries that are copies of sound rows, every
removal is safe and the rows stay sound. -/
lemma cleanupLoop_ok {bs : List BackupInfo} (h : RowsOk cwd rows)
    (hids : (bs.map (·.backupId)).Nodup) (hcopy : ∀ b ∈ bs, CopyOf rows b) :
    RowsOk cwd (cleanupLoop rows bs).1 ∧ ∀ m ∈ (cleanupLoop rows bs).2, m.Safe cwd := by
  induction bs generalizing rows with
  | nil => exact ⟨h, by simp [cleanupLoop]⟩
  | cons b bs ih =>
      obtain ⟨r, hr, hid, hpath⟩ := hcopy b List.mem_cons_self
      obtain ⟨hkeep, hrest⟩ := h.delete hids hcopy
      obtain ⟨hrows, hsafe⟩ := ih hkeep (List.nodup_cons.mp hids).2 hrest
      refine ⟨hrows, fun m hm => ?_⟩
      rcases List.mem_cons.mp hm with rfl | hm
      · refine ⟨r.info.destPath, r, ?_, ?_, (h.row r hr).made, ?_⟩
        · rw [hpath]
          exact (h.row r hr).shellCommand_rm
        · rw [hid]
          exact filter_backupId_eq h.ids hr
        · intro r' hr' q hq
          obtain ⟨hmem, hne⟩ := List.mem_filter.mp hr'
          rw [decide_eq_true_eq, hid] at hne
          obtain rfl := Option.some.inj ((h.row r' hmem).made.symm.trans hq)
          exact h.apart r hr r' hmem hne.symm
      · exact hsafe m hm

/-- The files of the rows that are left stay as they are. -/
lemma cleanupLoop_tree {κ : Type*} {bs : List BackupInfo} (h : RowsOk cwd rows)
    (hids : (bs.map (·.backupId)).Nodup) (hcopy : ∀ b ∈ bs, CopyOf rows b)
    (fs : Path → Option κ) {r : CatRow} (hr : r ∈ (cleanupLoop rows bs).1) :
    tree (removeAll cwd fs (cleanupLoop rows bs).2) (r.dir cwd) = tree fs (r.dir cwd) := by
  induction bs generalizing rows fs with
  | nil => rfl
  | cons b bs ih =>
      obtain ⟨r', hr', hid, hpath⟩ := hcopy b List.mem_cons_self
      obtain ⟨hkeep, hrest⟩ := h.delete hids hcopy
      obtain ⟨hmem, hne⟩ := List.mem_filter.mp ((cleanupLoop_sublist _ _).subset hr)
      rw [decide_eq_true_eq, hid] at hne
      have hcmd : runCommand cwd fs (fit 512 (rmText b.destPath)) 0 (fun _ => true)
          = removeTree fs (r'.dir cwd) := by
        rw [hpath, runCommand, (h.row r' hr').shellCommand_rm]
        rfl
      refine (ih hkeep (List.nodup_cons.mp hids).2 hrest _ hr).trans ?_
      simp only [hcmd]
      exact tree_removeTree (h.apart r' hr' r hmem hne.symm) (h.apart r hmem r' hr' hne)

/-- The entries past the first `keepCount` are copies of different rows. -/
lemma RowsOk.entries {order : List CatRow} (h : RowsOk cwd rows) (horder : ListOrder rows order)
    (keepCount : ℕ) (junk : ℕ → CStr) :
    (((backupList order junk).drop keepCount).map (·.backupId)).Nodup ∧
      ∀ b ∈ (backupList order junk).drop keepCount, CopyOf rows b := by
  have hcols := backupList_columns (fun r hr => h.row r (horder.1.subset hr)) junk
  constructor
  · rw [List.map_drop, backupList_ids fun r hr => (h.row r (horder.1.subset hr)).id_short]
    exact ((horder.1.map _).nodup_iff.mpr h.ids).sublist (List.drop_sublist _ _)
  · intro b hb
    have hmem := List.mem_map_of_mem (f := fun b => (b.backupId, b.destPath))
      (List.mem_of_mem_drop hb)
    rw [hcols] at hmem
    obtain ⟨r, hr, heq⟩ := List.mem_map.mp hmem
    rw [Prod.mk.injEq] at heq
    exact ⟨r, horder.1.subset hr, heq.1.symm, heq.2.symm⟩

lemma RowsOk.backupCleanupOld {order : List CatRow} (h : RowsOk cwd rows)
    (horder : ListOrder rows order) (keepCount : ℕ) (junk : ℕ → CStr) :
    RowsOk cwd (backupCleanupOld rows keepCount order junk).1 ∧
      ∀ m ∈ (backupCleanupOld rows keepCount order junk).2, m.Safe cwd := by
  obtain ⟨hids, hcopy⟩ := h.entries horder keepCount junk
  exact cleanupLoop_ok h hids hcopy

end Cleanup

section Removals

variable {κ : Type*} (localtime : ℤ → Tm) (cwd : Path)

/-- The destination is short and safe, it is not inside the directory of a backup in the catalogue,
and no backup in the catalogue was placed inside the directory of the new one. -/
def Sheltered (s : Vault κ) : VaultAct → Prop
  | .create _ dest _ e =>
      dest.length + 23 ≤ 254 ∧ QuoteSafe dest ∧ isOperand dest = true ∧
        ∀ r ∈ s.rows, ¬ r.dir cwd <+: resolve cwd (dest ++ ['/']) ∧
          ¬ resolve cwd (dest ++ '/' :: backupGenerateId (localtime e.idNow))
            <+: resolve cwd (r.call.dest ++ ['/'])
  | .cleanup .. => True

instance (s : Vault κ) (a : VaultAct) : Decidable (Sheltered localtime cwd s a) :=
  match a with
  | .create _ _ _ _ => inferInstanceAs (Decidable (_ ∧ _ ∧ _ ∧ _))
  | .cleanup .. => inferInstanceAs (Decidable True)

variable {localtime cwd} {s s' : Vault κ}

/-- The row of a sheltered call is sound. -/
lemma rowOk_createRow {source dest : CStr} {type : BackupType} {e : CreateEnv}
    (hlen : dest.length + 23 ≤ 254) (hsafe : QuoteSafe dest) (hop : isOperand dest = true)
    (rows : List CatRow) : RowOk cwd (createRow localtime rows source dest type e) := by
  have hpath : (createRow localtime rows source dest type e).info.destPath
      = dest ++ '/' :: backupGenerateId (localtime e.idNow) := createInfo_destPath (by omega)
  have hid : (createRow localtime rows source dest type e).info.backupId
      = backupGenerateId (localtime e.idNow) := rfl
  constructor
  · rw [hid, length_backupGenerateId]
    omega
  · rw [hpath, List.length_append, List.length_cons, length_backupGenerateId]
    omega
  · rw [hpath]
    exact quoteSafe_join hsafe (quoteSafe_backupGenerateId _)
  · rw [hpath, isOperand_slash, hop]
  · rw [CatRow.dir, hpath]
    exact resolve_name cwd dest (plainName_backupGenerateId _)
  · rw [CatRow.dir, hpath]
    exact madeDir_createCall (by omega) hsafe hop

lemma rowsOk_step {a : VaultAct} (h : RowsOk cwd s.rows) (hshelter : Sheltered localtime cwd s a)
    (hstep : vaultStep localtime cwd s a = some s') : RowsOk cwd s'.rows := by
  cases a with
  | create source dest type e =>
      obtain ⟨hlen, hsafe, hop, hrows⟩ := hshelter
      have hrow := @rowOk_createRow localtime cwd source dest type e hlen hsafe hop s.rows
      rw [(vaultStep_create hstep).1]
      refine h.insertRow hrow (fun r hr => (hrows r hr).1) fun r hr => ?_
      rw [CatRow.dir, createRow, createInfo_destPath (by omega)]
      exact (hrows r hr).2
  | cleanup keepCount order junk =>
      obtain ⟨horder, hrows, -⟩ := vaultStep_cleanup hstep
      rw [hrows]
      exact (h.backupCleanupOld horder keepCount junk).1

lemma rowsOk_of_reach (h : Reach VaultInit (vaultStep localtime cwd) (Sheltered localtime cwd) s) :
    RowsOk cwd s.rows := by
  refine Reach.invariant ?_ (fun s a s' hs => rowsOk_step hs) h
  rintro s ⟨hrows, -⟩
  rw [hrows]
  constructor <;> simp

/-- **A clean-up never removes what it should keep**, in every run whose calls have destinations
that fit and lie outside each other's directories. -/
theorem cleanup_removes_own
    (h : Reach VaultInit (vaultStep localtime cwd) (Sheltered localtime cwd) s) :
    ∀ m ∈ s.removals, m.Safe cwd := by
  induction h with
  | start hinit =>
      rw [hinit.2.2]
      simp
  | @next s s' a hs hshelter hstep ih =>
      cases a with
      | create source dest type e =>
          rw [(vaultStep_create hstep).2.2]
          exact ih
      | cleanup keepCount order junk =>
          obtain ⟨horder, -, -, hremovals, -⟩ := vaultStep_cleanup hstep
          have hsafe := ((rowsOk_of_reach hs).backupCleanupOld horder keepCount junk).2
          rw [hremovals]
          exact fun m hm => (List.mem_append.mp hm).elim (ih m) (hsafe m)

/-- In such a run a backup that is kept keeps its files. -/
theorem cleanup_keeps_files
    (h : Reach VaultInit (vaultStep localtime cwd) (Sheltered localtime cwd) s)
    {keepCount : ℕ} {order : List CatRow} {junk : ℕ → CStr}
    (hstep : vaultStep localtime cwd s (.cleanup keepCount order junk) = some s')
    {r : CatRow} (hr : r ∈ s'.rows) : tree s'.fs (r.dir cwd) = tree s.fs (r.dir cwd) := by
  obtain ⟨horder, hrows, -, -, hfs⟩ := vaultStep_cleanup hstep
  have hok := rowsOk_of_reach h
  obtain ⟨hids, hcopy⟩ := hok.entries horder keepCount junk
  rw [hrows] at hr
  rw [hfs]
  exact cleanupLoop_tree hok hids hcopy s.fs hr

end Removals

/-! ### A destination of 254 characters -/

/-- Two backups to `/b`, of which the older is removed. -/
theorem cleanup_removes_own_older :
    ∃ s : Vault ℕ, s.removals.length = 1 ∧ s.rows.length = 1 ∧ ∀ m ∈ s.removals, m.Safe [] := by
  have hrun : (run (vaultStep newYearClock []) emptyVault
      [backupAt ['/', 'b'] 0 [], backupAt ['/', 'b'] 1 [rowAt ['/', 'b'] 0],
        .cleanup 1 [rowAt ['/', 'b'] 1, rowAt ['/', 'b'] 0] fun _ => []]).map
        (fun s => (s.removals.length, s.rows.length)) = some (1, 1) := by decide +kernel
  obtain ⟨s, hs, hlen⟩ := Option.map_eq_some_iff.mp hrun
  rw [Prod.mk.injEq] at hlen
  have hreach : Reach VaultInit (vaultStep newYearClock []) (Sheltered newYearClock []) s :=
    (Reach.start ⟨rfl, rfl, rfl⟩).of_run (by decide +kernel) hs
  exact ⟨s, hlen.1, hlen.2, cleanup_removes_own hreach⟩

/-- A directory whose name fills the column up to the slash. -/
def longDest : CStr := '/' :: List.replicate 253 'd'

/-- The column keeps the slash after the destination and nothing of the identifier, so that the
clean-up of one backup removes the destination with all the others. -/
theorem cleanup_removes_kept :
    ¬ ∀ (localtime : ℤ → Tm) (cwd : Path) (s : Vault ℕ),
      Reach VaultInit (vaultStep localtime cwd) anyStep s → ∀ m ∈ s.removals, m.Safe cwd := by
  intro hclaim
  have hrun : (run (vaultStep newYearClock []) emptyVault
      [backupAt longDest 0 [], backupAt longDest 1 [rowAt longDest 0],
        .cleanup 1 [rowAt longDest 1, rowAt longDest 0] fun _ => []]).map
        (fun s => s.removals.map fun m => (m.cmd, m.remaining))
      = some [(rmText (longDest ++ ['/']), [rowAt longDest 1])] := by decide +kernel
  obtain ⟨s, hs, hlog⟩ := Option.map_eq_some_iff.mp hrun
  have hreach : Reach VaultInit (vaultStep newYearClock []) anyStep s :=
    (Reach.start ⟨rfl, rfl, rfl⟩).of_run_any hs
  obtain ⟨m, hremovals, hm⟩ := List.map_eq_singleton_iff.mp hlog
  rw [Prod.mk.injEq] at hm
  obtain ⟨p, r, hcmd, -, -, hkept⟩ := hclaim _ _ s hreach m (by simp [hremovals])
  rw [hm.1, shellCommand_rm (by decide +kernel) (by decide +kernel)] at hcmd
  obtain rfl := ShellCommand.remove.inj hcmd
  have hmade : madeDir [] (rowAt longDest 1).call
      = some [List.replicate 253 'd', backupGenerateId (newYearClock 1)] := by decide +kernel
  exact hkept _ (by simp [hm.2]) _ hmade (by decide +kernel)

end Storage

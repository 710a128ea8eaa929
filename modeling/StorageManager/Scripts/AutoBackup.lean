import StorageManager.Backup.Catalogue
import StorageManager.Lib.Machine
import Mathlib.Data.List.Flatten
import Mathlib.Data.List.Nodup

/-!
# Retention in `auto_backup.sh`

Each `auto_backup.sh --full` adds an archive and its checksum file to `/backup/full`, and then keeps
the `KEEP_BACKUPS` newest *files* of that directory.  As there are two files to a backup, the script
keeps half as many backups as it is asked to:

* `keeps_newest_iff` — the newest `keep` archives are there exactly as long as all the files ever
  written are within `keep`, whatever the modification times are.
* `kept_archives` — when each file is newer than those before it, what is left after any number of
  runs are the newest `keep / 2` archives with their checksums.  With an odd `keep` the checksum
  that would stay behind is taken by the second `rm` of the loop; with `keep = 1` nothing is left.
-/

namespace Storage

open CString Machine

/-- A file of `$BACKUP_ROOT/full`. -/
structure DirFile where
  name : CStr
  mtime : ℤ
  deriving DecidableEq

/-- What the name of an archive begins with. -/
def archiveLead : CStr := "full_".toList

/-- What the name of an archive ends with. -/
def archiveEnd : CStr := ".tar.gz".toList

/-- What the name of a checksum has behind that of its archive. -/
def checksumEnd : CStr := ".sha256".toList

/-- `full_${DATE}.tar.gz`, with `DATE` from `date '+%Y%m%d_%H%M%S'`. -/
def archiveName (date : Tm) : CStr := archiveLead ++ (stamp '_' date ++ archiveEnd)

/-- `${backup_path}.sha256`, without the directory. -/
def checksumName (name : CStr) : CStr := name ++ checksumEnd

/-- A successful run: its `DATE`, the times its two files are written, and the order in which the
`ls -t` of its clean-up lists the directory. -/
structure FullRun where
  date : Tm
  tarTime : ℤ
  sumTime : ℤ
  order : List DirFile

/-- Create or overwrite a file. -/
def writeFile (dir : List DirFile) (name : CStr) (t : ℤ) : List DirFile :=
  dir.filter (fun f => f.name ≠ name) ++ [⟨name, t⟩]

/-- `rm -f`. -/
def rmFile (dir : List DirFile) (name : CStr) : List DirFile := dir.filter fun f => f.name ≠ name

/-- `backup_full_tar`, when `tar` succeeds. -/
def backupFullTar (dir : List DirFile) (r : FullRun) : List DirFile :=
  writeFile (writeFile dir (archiveName r.date) r.tarTime) (checksumName (archiveName r.date))
    r.sumTime

/-- An output of `ls -t`; files of one time come in any order. -/
def LsOrder (dir order : List DirFile) : Prop :=
  order.Perm dir ∧ order.Pairwise fun a b => b.mtime ≤ a.mtime

instance (dir order : List DirFile) : Decidable (LsOrder dir order) :=
  inferInstanceAs (Decidable (_ ∧ _))

/-- The `while read old_backup` loop. -/
def removeOld (dir : List DirFile) : List CStr → List DirFile
  | [] => dir
  | old :: olds => removeOld (rmFile (rmFile dir old) (checksumName old)) olds

/-- `cleanup_old_backups`. -/
def cleanupOldBackups (dir : List DirFile) (keep : ℕ) (order : List DirFile) : List DirFile :=
  if keep < dir.length then removeOld dir ((order.map (·.name)).drop keep) else dir

/-- `auto_backup.sh --full`, with `KEEP_BACKUPS` at `keep`. -/
def fullStep (keep : ℕ) (dir : List DirFile) (r : FullRun) : Option (List DirFile) :=
  if LsOrder (backupFullTar dir r) r.order then
    some (cleanupOldBackups (backupFullTar dir r) keep r.order)
  else none

/-- The newest `m` of the runs `rs`. -/
def newest (m : ℕ) (rs : List FullRun) : List FullRun := rs.drop (rs.length - m)

/-- The newest `keep` archives are there with their checksums, and no other archive is. -/
def KeepsNewest (keep : ℕ) (rs : List FullRun) (dir : List DirFile) : Prop :=
  (∀ r ∈ newest keep rs, archiveName r.date ∈ dir.map (·.name) ∧
    checksumName (archiveName r.date) ∈ dir.map (·.name)) ∧
  ∀ date, archiveName date ∈ dir.map (·.name) → ∃ r ∈ newest keep rs, r.date = date

/-- The files the runs `rs` write, oldest first. -/
def written (rs : List FullRun) : List DirFile :=
  rs.flatMap fun r =>
    [⟨archiveName r.date, r.tarTime⟩, ⟨checksumName (archiveName r.date), r.sumTime⟩]

/-! ## Names -/

@[simp] lemma length_archiveName (date : Tm) : (archiveName date).length = 27 := by
  have hlead : archiveLead = ['f', 'u', 'l', 'l', '_'] := String.toList_ofList
  have hend : archiveEnd = ['.', 't', 'a', 'r', '.', 'g', 'z'] := String.toList_ofList
  rw [archiveName, hlead, hend, List.length_append, List.length_append, length_stamp]
  rfl

@[simp] lemma length_checksumName (name : CStr) :
    (checksumName name).length = name.length + 7 := by
  have hend : checksumEnd = ['.', 's', 'h', 'a', '2', '5', '6'] := String.toList_ofList
  rw [checksumName, hend, List.length_append]
  rfl

lemma archiveName_injective : Function.Injective archiveName := by
  intro a b h
  exact stamp_injective _ (List.append_cancel_right (List.append_cancel_left h))

lemma checksumName_injective : Function.Injective checksumName := fun _ _ h =>
  List.append_cancel_right h

/-- An archive is no checksum file. -/
lemma archiveName_ne_checksumName (d d' : Tm) : archiveName d ≠ checksumName (archiveName d') := by
  intro h
  have hlen := congrArg List.length h
  simp at hlen

section Written

variable {rs : List FullRun}

@[simp] lemma written_append (rs rs' : List FullRun) :
    written (rs ++ rs') = written rs ++ written rs' := List.flatMap_append

@[simp] lemma length_written (rs : List FullRun) : (written rs).length = 2 * rs.length := by
  induction rs with
  | nil => rfl
  | cons r rs ih =>
      simp only [written, List.flatMap_cons, List.length_append, List.length_cons,
        List.length_nil] at ih ⊢
      omega

lemma mem_written_names {n : CStr} : n ∈ (written rs).map (·.name) ↔
    ∃ r ∈ rs, n = archiveName r.date ∨ n = checksumName (archiveName r.date) := by
  simp [written, List.mem_flatMap, List.map_flatMap]

lemma archiveName_mem_written {date : Tm} :
    archiveName date ∈ (written rs).map (·.name) ↔ date ∈ rs.map (·.date) := by
  rw [mem_written_names, List.mem_map]
  constructor
  · rintro ⟨r, hr, h | h⟩
    · exact ⟨r, hr, (archiveName_injective h).symm⟩
    · exact absurd h (archiveName_ne_checksumName _ _)
  · rintro ⟨r, hr, rfl⟩
    exact ⟨r, hr, Or.inl rfl⟩

lemma checksumName_mem_written {date : Tm} :
    checksumName (archiveName date) ∈ (written rs).map (·.name) ↔ date ∈ rs.map (·.date) := by
  rw [mem_written_names, List.mem_map]
  constructor
  · rintro ⟨r, hr, h | h⟩
    · exact absurd h.symm (archiveName_ne_checksumName _ _)
    · exact ⟨r, hr, (archiveName_injective (checksumName_injective h)).symm⟩
  · rintro ⟨r, hr, rfl⟩
    exact ⟨r, hr, Or.inr rfl⟩

/-- Runs of different dates write different files. -/
lemma nodup_written (hdates : (rs.map (·.date)).Nodup) : ((written rs).map (·.name)).Nodup := by
  induction rs with
  | nil => exact List.nodup_nil
  | cons r rs ih =>
      obtain ⟨hnew, hrest⟩ := List.nodup_cons.mp hdates
      have hcons : (written (r :: rs)).map (·.name) = archiveName r.date ::
          checksumName (archiveName r.date) :: (written rs).map (·.name) := rfl
      rw [hcons, List.nodup_cons, List.nodup_cons, List.mem_cons, not_or]
      exact ⟨⟨archiveName_ne_checksumName _ _, fun h => hnew (archiveName_mem_written.mp h)⟩,
        fun h => hnew (checksumName_mem_written.mp h), ih hrest⟩

lemma writeFile_of_notMem {dir : List DirFile} {name : CStr} {t : ℤ}
    (h : name ∉ dir.map (·.name)) : writeFile dir name t = dir ++ [⟨name, t⟩] := by
  have hkeep : dir.filter (fun f => f.name ≠ name) = dir := by
    refine List.filter_eq_self.mpr fun f hf => decide_eq_true fun heq => h ?_
    exact List.mem_map.mpr ⟨f, hf, heq⟩
  rw [writeFile, hkeep]

/-- A run of a new date adds its two files. -/
lemma backupFullTar_written {r : FullRun} (hnew : r.date ∉ rs.map (·.date)) :
    backupFullTar (written rs) r = written (rs ++ [r]) := by
  have harchive : archiveName r.date ∉ (written rs).map (·.name) := fun h =>
    hnew (archiveName_mem_written.mp h)
  have hsum : checksumName (archiveName r.date) ∉
      (written rs ++ [(⟨archiveName r.date, r.tarTime⟩ : DirFile)]).map (·.name) := by
    rw [List.map_append, List.mem_append, not_or]
    refine ⟨fun h => hnew (checksumName_mem_written.mp h), fun h => ?_⟩
    exact archiveName_ne_checksumName _ _ (List.mem_singleton.mp h).symm
  rw [backupFullTar, writeFile_of_notMem harchive, writeFile_of_notMem hsum, List.append_assoc,
    written_append]
  rfl

end Written

/-! ## What a clean-up leaves -/

section Cleanup

variable {keep : ℕ} {dir dir' order : List DirFile}

/-- The loop takes the listed files and their checksums. -/
lemma removeOld_eq_filter (dir : List DirFile) (olds : List CStr) : removeOld dir olds
    = dir.filter fun f => f.name ∉ olds ∧ f.name ∉ olds.map checksumName := by
  induction olds generalizing dir with
  | nil => simp [removeOld]
  | cons old olds ih =>
      rw [removeOld, ih, rmFile, rmFile, List.filter_filter, List.filter_filter]
      refine List.filter_congr fun f _ => ?_
      simp only [List.mem_cons, List.map_cons, not_or, ← Bool.decide_and, decide_eq_decide]
      tauto

lemma cleanupOldBackups_sublist : (cleanupOldBackups dir keep order).Sublist dir := by
  unfold cleanupOldBackups
  split_ifs
  · rw [removeOld_eq_filter]
    exact List.filter_sublist
  · exact List.Sublist.refl _

/-- At most `keep` files are left. -/
lemma length_cleanupOldBackups (hnames : (dir.map (·.name)).Nodup) (horder : LsOrder dir order) :
    (cleanupOldBackups dir keep order).length ≤ keep := by
  have hnodup : (cleanupOldBackups dir keep order).Nodup :=
    hnames.of_map.sublist cleanupOldBackups_sublist
  unfold cleanupOldBackups at hnodup ⊢
  split_ifs at hnodup ⊢ with hcount
  · have hsub : removeOld dir ((order.map (·.name)).drop keep) ⊆ order.take keep := by
      intro f hf
      rw [removeOld_eq_filter, List.mem_filter, decide_eq_true_eq, ← List.map_drop] at hf
      have hmem : f ∈ order.take keep ++ order.drop keep := by
        rw [List.take_append_drop]
        exact horder.1.symm.subset hf.1
      exact (List.mem_append.mp hmem).resolve_right fun h => hf.2.1 (List.mem_map_of_mem h)
    exact (hnodup.length_le_of_subset hsub).trans (List.length_take_le _ _)
  · omega

lemma nodup_writeFile {name : CStr} {t : ℤ} (h : (dir.map (·.name)).Nodup) :
    ((writeFile dir name t).map (·.name)).Nodup := by
  rw [writeFile, List.map_append, List.nodup_append]
  refine ⟨h.sublist (List.filter_sublist.map _), List.nodup_singleton _, ?_⟩
  rintro n hn m hm rfl
  obtain ⟨f, hf, rfl⟩ := List.mem_map.mp hn
  exact of_decide_eq_true (List.mem_filter.mp hf).2 (List.mem_singleton.mp hm)

/-- One run leaves names distinct and at most `keep` files. -/
lemma fullStep_spec {r : FullRun} (h : (dir.map (·.name)).Nodup)
    (hstep : fullStep keep dir r = some dir') :
    (dir'.map (·.name)).Nodup ∧ dir'.length ≤ keep := by
  unfold fullStep at hstep
  split_ifs at hstep with horder
  obtain rfl := Option.some.inj hstep
  have hnames : ((backupFullTar dir r).map (·.name)).Nodup := nodup_writeFile (nodup_writeFile h)
  exact ⟨hnames.sublist (cleanupOldBackups_sublist.map _), length_cleanupOldBackups hnames horder⟩

lemma run_fullStep_spec {rs : List FullRun} (h : (dir.map (·.name)).Nodup)
    (hlen : dir.length ≤ keep)
    (hrun : run (fullStep keep) dir rs = some dir') :
    (dir'.map (·.name)).Nodup ∧ dir'.length ≤ keep := by
  induction rs generalizing dir with
  | nil =>
      obtain rfl := Option.some.inj hrun
      exact ⟨h, hlen⟩
  | cons r rs ih =>
      obtain ⟨dir₁, hstep, hrest⟩ := Option.bind_eq_some_iff.mp hrun
      obtain ⟨h₁, hlen₁⟩ := fullStep_spec h hstep
      exact ih h₁ hlen₁ hrest

/-- As long as everything fits, nothing is removed. -/
lemma run_fullStep_within {done rs : List FullRun} (hdates : ((done ++ rs).map (·.date)).Nodup)
    (hfit : 2 * (done ++ rs).length ≤ keep)
    (hrun : run (fullStep keep) (written done) rs = some dir') : dir' = written (done ++ rs) := by
  induction rs generalizing done with
  | nil =>
      rw [List.append_nil]
      exact (Option.some.inj hrun).symm
  | cons r rs ih =>
      obtain ⟨dir₁, hstep, hrest⟩ := Option.bind_eq_some_iff.mp hrun
      have hnew : r.date ∉ done.map (·.date) := by
        rw [List.map_append, List.map_cons, List.nodup_append] at hdates
        exact fun h => hdates.2.2 _ h _ List.mem_cons_self rfl
      have hkept : dir₁ = written (done ++ [r]) := by
        unfold fullStep at hstep
        rw [backupFullTar_written hnew] at hstep
        split_ifs at hstep
        obtain rfl := Option.some.inj hstep
        refine if_neg ?_
        rw [length_written]
        simp only [List.length_append, List.length_cons, List.length_nil] at hfit ⊢
        omega
      rw [← List.singleton_append, ← List.append_assoc] at hdates hfit ⊢
      exact ih hdates hfit (hkept ▸ hrest)

end Cleanup

/-- **Retention by the script.**  After `n` runs the newest `keep` archives, and no others, are
there exactly when the files of all `n` runs are within `keep`. -/
theorem keeps_newest_iff {keep : ℕ} (hkeep : 1 ≤ keep) {rs : List FullRun}
    (hdates : (rs.map (·.date)).Nodup) {dir : List DirFile}
    (hrun : run (fullStep keep) [] rs = some dir) :
    KeepsNewest keep rs dir ↔ 2 * rs.length ≤ keep := by
  constructor
  · intro h
    -- the newest archives and their checksums are that many names, and `keep` is room for `keep`
    obtain ⟨-, hroom⟩ := run_fullStep_spec (by simp) (Nat.zero_le _) hrun
    have hnodup : ((written (newest keep rs)).map (·.name)).Nodup :=
      nodup_written (hdates.sublist ((List.drop_sublist _ _).map _))
    have hsub : (written (newest keep rs)).map (·.name) ⊆ dir.map (·.name) := by
      intro n hn
      obtain ⟨r, hr, rfl | rfl⟩ := mem_written_names.mp hn
      · exact (h.1 r hr).1
      · exact (h.1 r hr).2
    have hcount := hnodup.length_le_of_subset hsub
    rw [List.length_map, List.length_map, length_written, newest, List.length_drop] at hcount
    omega
  · intro hfit
    have hnone : ((([] : List FullRun) ++ rs).map (·.date)).Nodup := hdates
    obtain rfl : dir = written rs := run_fullStep_within hnone hfit hrun
    have hall : newest keep rs = rs := by
      rw [newest, show rs.length - keep = 0 by omega, List.drop_zero]
    rw [KeepsNewest, hall]
    refine ⟨fun r hr => ?_, fun date hdate => ?_⟩
    · exact ⟨archiveName_mem_written.mpr (List.mem_map_of_mem hr),
        checksumName_mem_written.mpr (List.mem_map_of_mem hr)⟩
    · exact List.mem_map.mp (archiveName_mem_written.mp hdate)

/-! ### A backup each night -/

/-- Midnight of the `i`-th of January. -/
def night (i : Fin 31) : Tm :=
  { newYear with
    mday := i + 1
    mday_lt := by omega }

/-- The run of night `i`, when all files of the nights before are still there. -/
def nightly (i : Fin 31) : FullRun where
  date := night i
  tarTime := 2 * i
  sumTime := 2 * i + 1
  order := ((List.finRange 31).take (i + 1)).reverse.flatMap fun j =>
    [⟨checksumName (archiveName (night j)), 2 * j + 1⟩, ⟨archiveName (night j), 2 * j⟩]

/-- Three nights with the default of seven. -/
theorem keeps_newest_three_nights :
    ∃ dir, run (fullStep 7) [] [nightly 0, nightly 1, nightly 2] = some dir ∧
      KeepsNewest 7 [nightly 0, nightly 1, nightly 2] dir := by
  have hrun : (run (fullStep 7) [] [nightly 0, nightly 1, nightly 2]).isSome = true := by
    decide +kernel
  obtain ⟨dir, hdir⟩ := Option.isSome_iff_exists.mp hrun
  exact ⟨dir, hdir, (keeps_newest_iff (by decide) (by decide +kernel) hdir).mpr (by decide)⟩

/-- On the fourth night the first archive is removed, three short of seven. -/
theorem fourth_night_removes_first :
    ¬ ∀ (keep : ℕ) (rs : List FullRun) (dir : List DirFile), 1 ≤ keep →
      (rs.map (·.date)).Nodup → run (fullStep keep) [] rs = some dir → KeepsNewest keep rs dir := by
  intro hclaim
  have hrun : (run (fullStep 7) [] [nightly 0, nightly 1, nightly 2, nightly 3]).map
      (fun dir => decide (archiveName (night 0) ∈ dir.map (·.name))) = some false := by
    decide +kernel
  obtain ⟨dir, hdir, hgone⟩ := Option.map_eq_some_iff.mp hrun
  have hkept := hclaim 7 _ dir (by decide) (by decide +kernel) hdir
  exact of_decide_eq_false hgone (hkept.1 (nightly 0) List.mem_cons_self).1

/-! ## What is left -/

/-- Each file is newer than those written before it. -/
def Chronological (rs : List FullRun) : Prop := (written rs).Pairwise fun a b => a.mtime < b.mtime

section Left

variable {keep : ℕ} {order : List DirFile}

/-- `ls -t` then lists the files in the opposite of the order they were written in. -/
lemma LsOrder.eq_reverse {rs : List FullRun} (hchron : Chronological rs)
    (h : LsOrder (written rs) order) : order = (written rs).reverse := by
  have htimes : ((written rs).map (·.mtime)).Nodup :=
    List.pairwise_map.mpr (hchron.imp fun hlt => hlt.ne)
  refine List.Perm.eq_of_pairwise ?_ h.2 ?_ (h.1.trans (List.reverse_perm _).symm)
  · intro a b ha hb hab hba
    exact List.inj_on_of_nodup_map htimes (h.1.subset ha) (List.mem_reverse.mp hb)
      (le_antisymm hba hab)
  · exact List.pairwise_reverse.mpr (hchron.imp fun hlt => hlt.le)

/-- Removing the oldest archive of the directory takes its checksum along. -/
lemma removeOld_oldest {r : FullRun} {rs : List FullRun} (hdates : ((r :: rs).map (·.date)).Nodup)
    {olds : List CStr} (harchive : archiveName r.date ∈ olds)
    (holds : ∀ n ∈ olds, n = archiveName r.date ∨ n = checksumName (archiveName r.date)) :
    removeOld (written (r :: rs)) olds = written rs := by
  have hnew : r.date ∉ rs.map (·.date) := (List.nodup_cons.mp hdates).1
  have hcons : written (r :: rs) = ⟨archiveName r.date, r.tarTime⟩ ::
      ⟨checksumName (archiveName r.date), r.sumTime⟩ :: written rs := rfl
  rw [removeOld_eq_filter, hcons, List.filter_cons_of_neg (by simp [harchive]),
    List.filter_cons_of_neg (by simpa using fun _ => ⟨_, harchive, rfl⟩)]
  refine List.filter_eq_self.mpr fun f hf => decide_eq_true ⟨fun hold => ?_, fun hold => ?_⟩
  · rcases holds _ hold with hname | hname
    · exact hnew (archiveName_mem_written.mp (hname ▸ List.mem_map_of_mem hf))
    · exact hnew (checksumName_mem_written.mp (hname ▸ List.mem_map_of_mem hf))
  · obtain ⟨n, hn, hname⟩ := List.mem_map.mp hold
    have hmem : checksumName n ∈ (written rs).map (·.name) := hname ▸ List.mem_map_of_mem hf
    rcases holds n hn with rfl | rfl
    · exact hnew (checksumName_mem_written.mp hmem)
    · -- the checksum of a checksum is longer than any file name
      obtain ⟨r', -, h | h⟩ := mem_written_names.mp hmem <;>
        · have hlen := congrArg List.length h
          simp at hlen

/-- A clean-up over one backup too many leaves the others. -/
lemma cleanupOldBackups_written {rs : List FullRun} (hdates : (rs.map (·.date)).Nodup)
    (hchron : Chronological rs) (hlen : rs.length ≤ keep / 2 + 1)
    (horder : LsOrder (written rs) order) :
    cleanupOldBackups (written rs) keep order = written (newest (keep / 2) rs) := by
  unfold cleanupOldBackups newest
  rw [horder.eq_reverse hchron, length_written]
  by_cases hfit : rs.length ≤ keep / 2
  · rw [if_neg (by omega), show rs.length - keep / 2 = 0 by omega, List.drop_zero]
  · obtain ⟨r, rest, rfl⟩ := List.exists_cons_of_length_pos (by omega : 0 < rs.length)
    rw [List.length_cons] at hlen hfit ⊢
    have hrest : rest.length = keep / 2 := by omega
    have hcons : ((written (r :: rest)).reverse.map (·.name)) =
        (written rest).reverse.map (·.name) ++
          [checksumName (archiveName r.date), archiveName r.date] := by
      simp [written]
    have hskip : ((written rest).reverse.map (·.name)).length = 2 * (keep / 2) := by
      rw [List.length_map, List.length_reverse, length_written, hrest]
    rw [if_pos (by omega), hrest, show keep / 2 + 1 - keep / 2 = 1 by omega, List.drop_one,
      List.tail_cons, hcons, List.drop_append, hskip, List.drop_eq_nil_of_le (by omega),
      List.nil_append]
    -- the checksum is in the list of old files only for an even `keep`
    rcases Nat.mod_two_eq_zero_or_one keep with heven | hodd
    · rw [show keep - 2 * (keep / 2) = 0 by omega, List.drop_zero]
      exact removeOld_oldest hdates (by simp) (by simp)
    · rw [show keep - 2 * (keep / 2) = 1 by omega, List.drop_one, List.tail_cons]
      exact removeOld_oldest hdates (by simp) (by simp)

/-- The newest of the newest and one more. -/
lemma newest_concat (m : ℕ) (rs : List FullRun) (r : FullRun) :
    newest m (newest m rs ++ [r]) = newest m (rs ++ [r]) := by
  have hsplit : newest m rs ++ [r] = (rs ++ [r]).drop (rs.length - m) := by
    rw [newest, List.drop_append_of_le_length (by omega)]
  rw [hsplit, newest, newest, List.drop_drop, List.length_drop, List.length_append,
    List.length_singleton]
  congr 1
  omega

/-- **What the script keeps**: half as many backups as it is asked to. -/
theorem kept_archives {rs : List FullRun} (hdates : (rs.map (·.date)).Nodup)
    (hchron : Chronological rs) {dir : List DirFile}
    (hrun : run (fullStep keep) [] rs = some dir) : dir = written (newest (keep / 2) rs) := by
  -- over the runs done so far, of which the newest are in the directory
  suffices hgen : ∀ done rs : List FullRun, ((done ++ rs).map (·.date)).Nodup →
      Chronological (done ++ rs) →
      run (fullStep keep) (written (newest (keep / 2) done)) rs = some dir →
      dir = written (newest (keep / 2) (done ++ rs)) by
    have hnone : newest (keep / 2) [] = [] := List.drop_nil
    exact hgen [] rs hdates hchron (by rw [hnone]; exact hrun)
  intro done rs hdates hchron hrun
  induction rs generalizing done with
  | nil =>
      rw [List.append_nil]
      exact (Option.some.inj hrun).symm
  | cons r rs ih =>
      obtain ⟨dir₁, hstep, hrest⟩ := Option.bind_eq_some_iff.mp hrun
      rw [← List.singleton_append, ← List.append_assoc] at hdates hchron ⊢
      have hsub : (newest (keep / 2) done ++ [r]).Sublist (done ++ [r] ++ rs) :=
        ((List.drop_sublist _ _).append_right _).trans (List.sublist_append_left _ _)
      have hdates' := hdates.sublist (hsub.map _)
      have hchron' : Chronological (newest (keep / 2) done ++ [r]) :=
        hchron.sublist (hsub.flatMap _)
      have hnew : r.date ∉ (newest (keep / 2) done).map (·.date) := by
        rw [List.map_append, List.nodup_append] at hdates'
        exact fun h => hdates'.2.2 _ h _ (List.mem_singleton_self _) rfl
      have hlen : (newest (keep / 2) done ++ [r]).length ≤ keep / 2 + 1 := by
        rw [List.length_append, newest, List.length_drop, List.length_singleton]
        omega
      unfold fullStep at hstep
      rw [backupFullTar_written hnew] at hstep
      split_ifs at hstep with horder
      rw [cleanupOldBackups_written hdates' hchron' hlen horder, newest_concat] at hstep
      exact ih (done ++ [r]) hdates hchron (Option.some.inj hstep ▸ hrest)

end Left

end Storage

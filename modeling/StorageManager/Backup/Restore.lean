import StorageManager.Backup.Engine

/-!
# A backup and its restore

What `backup_restore` brings back is decided by the command that was in the buffer when
`backup_create` ran it.  For full and incremental backups that is an `rsync`; for a differential
one no branch writes the buffer, it still holds the `mkdir`, and the call reports success over an
empty directory.

`backupCreate_fs` and `backupRestore_fs` give the files after each call when the strings stand for
themselves between quotes and nothing is cut off; `backup_restore_iff` puts them together.
-/

namespace Storage

open CString Shell Files

/-- The strings of a backup and of its restore to `out` stand for themselves between the quotes of
the commands, both commands fit their buffers and the directory name fits its column.  A
differential backup does not write its source into a command. -/
structure CallFits (type : BackupType) (newest : Option BackupInfo) (source dest id out : CStr) :
    Prop where
  source_literal : type ≠ .differential → QuotedLiteral (source ++ ['/'])
  dest_literal : QuotedLiteral ((dest ++ '/' :: id) ++ ['/'])
  out_literal : QuotedLiteral (out ++ ['/'])
  link_literal : ∀ b ∈ newest, QuotedLiteral b.destPath
  dest_short : dest.length + 1 + id.length ≤ 255
  create_fits : (createText type newest source (dest ++ '/' :: id)).length < 2048
  restore_fits : (rsyncText (dest ++ '/' :: id) out).length < 2048

lemma quoteSafe_join {dest id : CStr} (hdest : QuoteSafe dest) (hid : QuoteSafe id) :
    QuoteSafe (dest ++ '/' :: id) := by
  have hslash : QuoteSafe ['/'] := by decide
  exact hdest.append (hslash.append hid)

section Files

variable {κ : Type*} {cwd : Path} {fs : Path → Option κ}

/-- A command whose program is `mkdir` copies and removes nothing. -/
lemma ofWords_mkdir (opt : CStr) (ps : List CStr) :
    ShellCommand.ofWords (['m', 'k', 'd', 'i', 'r'] :: opt :: ps) = .other ∨
      ∃ p, ShellCommand.ofWords (['m', 'k', 'd', 'i', 'r'] :: opt :: ps) = .makeDir p := by
  rcases ps with _ | ⟨p, _ | ⟨_, _ | ⟨_, _ | ⟨_, _ | _⟩⟩⟩⟩
  case cons.nil =>
    by_cases hmkdir : opt = "-p".toList ∧ isOperand p = true
    · exact .inr ⟨p, by simp only [ShellCommand.ofWords, mkdirWords_eq.1, hmkdir, and_self,
        if_true]⟩
    · refine .inl ?_
      simp only [ShellCommand.ofWords, mkdirWords_eq.1, true_and, if_neg hmkdir, rmWords_eq.1]
      simp
  all_goals exact .inl (by simp [ShellCommand.ofWords, rsyncWords_eq.1])

/-- Nor does any line that begins with `mkdir -p` and a quote. -/
lemma shellCommand_of_mkdir (t : CStr) : shellCommand (mkdirLead ++ t) = .other ∨
    ∃ p, shellCommand (mkdirLead ++ t) = .makeDir p := by
  have hlead : mkdirLead = ['m', 'k', 'd', 'i', 'r', ' ', '-', 'p', ' '] ++ [dquote] := mkdirLead_eq
  rw [hlead]
  cases h : Shell.command (['m', 'k', 'd', 'i', 'r', ' ', '-', 'p', ' '] ++ [dquote] ++ t) with
  | none => exact .inl (by rw [shellCommand, h])
  | some ws =>
      obtain ⟨ps, rfl⟩ := command_append_prefix rfl h
      rw [shellCommand_of_words h]
      exact ofWords_mkdir _ _

/-- `mkdir` touches no file. -/
lemma runCommand_mkdir (p : CStr) (status : ℤ) (copied : Path → Bool) :
    runCommand cwd fs (fit 2048 (mkdirText p)) status copied = fs := by
  have hcut : fit 2048 (mkdirText p) = mkdirLead ++ (p ++ closeWord).take 2037 := by
    rw [mkdirText, fit, List.take_append, mkdirLead_eq]
    rfl
  rw [hcut, runCommand]
  rcases shellCommand_of_mkdir ((p ++ closeWord).take 2037) with h | ⟨q, h⟩ <;> rw [h]

/-- A copy that succeeds copies everything. -/
lemma runCommand_copy {cmd src dst : CStr} (hcmd : shellCommand cmd = .copy src dst)
    (copied : Path → Bool) :
    runCommand cwd fs cmd 0 copied
      = copyTree fs (resolve cwd src) (resolve cwd dst) fun _ => true := by
  rw [runCommand, hcmd]
  simp

/-- The command of a call copies, if it is an `rsync` between paths of this host. -/
lemma CallFits.shellCommand_create {type : BackupType} {newest : Option BackupInfo}
    {source dest id out : CStr} (h : CallFits type newest source dest id out)
    (htype : type ≠ .differential) :
    shellCommand (createText type newest source (dest ++ '/' :: id))
      = if isLocal source = true ∧ isLocal dest = true
        then .copy (source ++ ['/']) ((dest ++ '/' :: id) ++ ['/']) else .other := by
  have hrsync := shellCommand_rsync (h.source_literal htype) h.dest_literal
  rw [isLocal_slash] at hrsync
  cases type with
  | full => exact hrsync
  | incremental =>
      cases newest with
      | none => exact hrsync
      | some b =>
          have hlink := shellCommand_rsyncLink (h.source_literal htype) h.dest_literal
            (h.link_literal b rfl)
          rwa [isLocal_slash] at hlink
  | differential => exact absurd rfl htype

lemma CallFits.destPath {type : BackupType} {newest : Option BackupInfo} {source dest id out : CStr}
    (h : CallFits type newest source dest id out) :
    fit 512 (dest ++ '/' :: id) = dest ++ '/' :: id := by
  refine fit_of_lt ?_
  have hshort := h.dest_short
  simp only [List.length_append, List.length_cons]
  omega

/-- The files after a backup that succeeded. -/
lemma backupCreate_fs (localtime : ℤ → Tm) {s : BackupState κ} {source dest out : CStr}
    {type : BackupType} {e : CreateEnv}
    (h : CallFits type (newestBackup s.db type e) source dest
      (backupGenerateId (localtime e.idNow)) out) (hpopen : e.popen = some 0) :
    (backupCreate localtime cwd s source dest type e).1.fs
      = if type ≠ .differential ∧ isLocal source = true ∧ isLocal dest = true
        then copyTree s.fs (resolve cwd (source ++ ['/']))
          (resolve cwd ((dest ++ '/' :: backupGenerateId (localtime e.idNow)) ++ ['/']))
          fun _ => true
        else s.fs := by
  simp only [backupCreate, createCall, h.destPath, hpopen]
  rw [runCommand_mkdir]
  by_cases htype : type = .differential
  · -- the buffer still holds the `mkdir`
    rw [if_neg fun hcopy => hcopy.1 htype, htype]
    exact runCommand_mkdir _ _ _
  · have hcmd := h.shellCommand_create htype
    rw [fit_of_lt h.create_fits]
    simp only [ne_eq, htype, not_false_eq_true, true_and]
    split_ifs at hcmd ⊢
    · exact runCommand_copy hcmd _
    · rw [runCommand, hcmd]

/-- The files after a restore that succeeded. -/
lemma backupRestore_fs {s : BackupState κ} {rows : List CatRow} {id out path : CStr}
    {copied : Path → Bool} (hdb : s.db = some rows)
    (hinfo : (backupGetInfo rows id).map (·.destPath) = some path)
    (hpath : QuotedLiteral (path ++ ['/'])) (hout : QuotedLiteral (out ++ ['/']))
    (hfits : (rsyncText path out).length < 2048) :
    (backupRestore cwd s id out (some 0) copied).1.fs
      = if isLocal path = true ∧ isLocal out = true
        then copyTree s.fs (resolve cwd (path ++ ['/'])) (resolve cwd (out ++ ['/'])) fun _ => true
        else s.fs := by
  obtain ⟨info, hget, rfl⟩ := Option.map_eq_some_iff.mp hinfo
  simp only [backupRestore, hdb, Option.bind_some, hget, fit_of_lt hfits]
  rw [runCommand_mkdir]
  have hcmd := shellCommand_rsync hpath hout
  split_ifs at hcmd ⊢
  · exact runCommand_copy hcmd _
  · rw [runCommand, hcmd]

end Files

section Roundtrip

variable {κ : Type*} {localtime : ℤ → Tm} {cwd : Path} {s : BackupState κ} {rows : List CatRow}
  {source dest out : CStr} {type : BackupType} {e : CreateEnv} {popen : Option ℤ}
  {copied : Path → Bool}

lemma backupCreate_ret (h : (backupCreate localtime cwd s source dest type e).2 = 0) :
    e.popen = some 0 := by
  by_contra hne
  simp [backupCreate, hne] at h

lemma backupRestore_ret {id : CStr} (h : (backupRestore cwd s id out popen copied).2 = 0) :
    popen = some 0 := by
  unfold backupRestore at h
  split at h
  · simp at h
  · cases popen with
    | none => simp at h
    | some status =>
        by_contra hne
        have hstatus : status ≠ 0 := fun h0 => hne (by rw [h0])
        simp [hstatus] at h

variable (cwd) in
/-- The row of the call is the one `backup_restore` finds, with its directory intact. -/
lemma CallFits.getInfo (h : CallFits type (newestBackup s.db type e) source dest
      (backupGenerateId (localtime e.idNow)) out) (hdb : s.db = some rows)
    (hnew : ∀ r ∈ rows, r.info.backupId ≠ backupGenerateId (localtime e.idNow)) :
    ∃ rows', (backupCreate localtime cwd s source dest type e).1.db = some rows' ∧
      (backupGetInfo rows' (backupGenerateId (localtime e.idNow))).map (·.destPath)
        = some (dest ++ '/' :: backupGenerateId (localtime e.idNow)) := by
  refine ⟨_, by simp only [backupCreate, hdb, Option.map_some]; rfl, ?_⟩
  have hshort := h.dest_short
  have hfit : fit 256 (dest ++ '/' :: backupGenerateId (localtime e.idNow))
      = dest ++ '/' :: backupGenerateId (localtime e.idNow) := by
    refine fit_of_lt ?_
    simp only [List.length_append, List.length_cons]
    omega
  refine (backupGetInfo_insertRow hnew).trans ?_
  simp only [createInfo, createCall, h.destPath, hfit]

/-- **What a restore brings back.**  Take a call of `backup_create` that returned 0 and stored its
row, and a `backup_restore` of that row to an empty directory right after it that returned 0 as
well, with strings that stand for themselves and fit.  If neither the destination nor the restore
directory is an option or a remote path to `rsync`, the restored files are those of the backup's
directory.  They are those of the source exactly when that directory held no file that the source
has not, and after a backup that copied nothing (a differential one, or one of a source that is an
option or a remote path) exactly when it held the files of the source before the call.  Otherwise
nothing is restored. -/
theorem backup_restore_iff (hdb : s.db = some rows)
    (hnew : ∀ r ∈ rows, r.info.backupId ≠ backupGenerateId (localtime e.idNow))
    (hcreate : (backupCreate localtime cwd s source dest type e).2 = 0)
    (hrestore : (backupRestore cwd (backupCreate localtime cwd s source dest type e).1
      (backupGenerateId (localtime e.idNow)) out popen copied).2 = 0)
    (hempty : ∀ rel, tree (backupCreate localtime cwd s source dest type e).1.fs
      (resolve cwd (out ++ ['/'])) rel = none)
    (hfits : CallFits type (newestBackup s.db type e) source dest
      (backupGenerateId (localtime e.idNow)) out) :
    tree (backupRestore cwd (backupCreate localtime cwd s source dest type e).1
        (backupGenerateId (localtime e.idNow)) out popen copied).1.fs (resolve cwd (out ++ ['/']))
        = tree s.fs (resolve cwd (source ++ ['/'])) ↔
      if isLocal dest = true ∧ isLocal out = true then
        if type ≠ .differential ∧ isLocal source = true then
          ∀ rel, tree s.fs (resolve cwd (source ++ ['/'])) rel = none →
            tree s.fs (resolve cwd (dest ++ '/' :: backupGenerateId (localtime e.idNow))) rel = none
        else
          tree s.fs (resolve cwd (dest ++ '/' :: backupGenerateId (localtime e.idNow)))
            = tree s.fs (resolve cwd (source ++ ['/']))
      else
        ∀ rel, tree s.fs (resolve cwd (source ++ ['/'])) rel = none := by
  obtain rfl := backupRestore_ret hrestore
  obtain ⟨rows', hrows, hinfo⟩ := hfits.getInfo cwd hdb hnew
  have hslash : resolve cwd ((dest ++ '/' :: backupGenerateId (localtime e.idNow)) ++ ['/'])
      = resolve cwd (dest ++ '/' :: backupGenerateId (localtime e.idNow)) :=
    resolve_slash cwd (by simp)
  rw [backupRestore_fs hrows hinfo hfits.dest_literal hfits.out_literal hfits.restore_fits,
    isLocal_slash]
  by_cases hlocal : isLocal dest = true ∧ isLocal out = true
  · -- what is restored is what the backup's directory holds
    rw [if_pos hlocal, if_pos hlocal, tree_copyTree_of_empty hempty, hslash,
      backupCreate_fs localtime hfits (backupCreate_ret hcreate), hslash]
    simp only [hlocal.1, and_true]
    split_ifs with hcopied
    · exact tree_copyTree_eq_iff
    · rfl
  · -- nothing is restored: the directory is still empty
    rw [if_neg hlocal, if_neg hlocal, funext hempty]
    exact ⟨fun h rel => (congrFun h rel).symm, fun h => (funext h).symm⟩

end Roundtrip

/-! ## One file -/

/-- An empty catalogue and the file `/s/f`. -/
def oneFile : BackupState ℕ :=
  ⟨some [], fun p => if p = [['s'], ['f']] then some 7 else none⟩

/-- A call in second 0 whose command succeeds and copies every file. -/
def quietEnv : CreateEnv where
  now := 0
  idNow := 0
  order := []
  junk := fun _ => []
  popen := some 0
  copied := fun _ => true
  size := 0

/-- A backup of `/s` to `/b`, restored to `/r`, is within the limits. -/
lemma callFits_oneFile (type : BackupType) :
    CallFits type (newestBackup oneFile.db type quietEnv) ['/', 's'] ['/', 'b']
      (backupGenerateId newYear) ['/', 'r'] := by
  have hnewest : newestBackup oneFile.db type quietEnv = none := by cases type <;> rfl
  rw [hnewest]
  exact {
    source_literal := fun _ => by decide
    dest_literal := QuoteSafe.quotedLiteral <| (quoteSafe_join (by decide)
      (quoteSafe_backupGenerateId _)).append (by decide)
    out_literal := by decide
    link_literal := by simp
    dest_short := by simp
    create_fits := by cases type <;> decide +kernel
    restore_fits := by decide +kernel }

/-- Where the paths of the example lead. -/
lemma oneFile_paths : resolve [] (['/', 's'] ++ ['/']) = [['s']] ∧
    resolve [] (['/', 'b'] ++ '/' :: backupGenerateId newYear)
      = [['b'], backupGenerateId newYear] ∧
    resolve [] ((['/', 'b'] ++ '/' :: backupGenerateId newYear) ++ ['/'])
      = [['b'], backupGenerateId newYear] ∧
    resolve [] (['/', 'r'] ++ ['/']) = [['r']] := by decide +kernel

/-- The files after the backup. -/
lemma oneFile_created (type : BackupType) :
    (backupCreate (fun _ => newYear) [] oneFile ['/', 's'] ['/', 'b'] type quietEnv).1.fs
      = if type ≠ .differential
        then copyTree oneFile.fs [['s']] [['b'], backupGenerateId newYear] fun _ => true
        else oneFile.fs := by
  obtain ⟨hsrc, -, hdst, -⟩ := oneFile_paths
  have hlocal : isLocal ['/', 's'] = true ∧ isLocal ['/', 'b'] = true := by decide
  rw [backupCreate_fs (fun _ => newYear) (callFits_oneFile type) rfl, hsrc, hdst]
  simp only [hlocal, and_true]

/-- Nothing is in `/r` then. -/
lemma oneFile_out_empty (type : BackupType) (rel : Path) :
    tree (backupCreate (fun _ => newYear) [] oneFile ['/', 's'] ['/', 'b'] type quietEnv).1.fs
      (resolve [] (['/', 'r'] ++ ['/'])) rel = none := by
  obtain ⟨-, -, -, hout⟩ := oneFile_paths
  rw [hout, oneFile_created]
  split_ifs
  · simp [tree, copyTree, oneFile]
  · simp [tree, oneFile]

lemma oneFile_dest_empty (rel : Path) :
    tree oneFile.fs (resolve [] (['/', 'b'] ++ '/' :: backupGenerateId newYear)) rel = none := by
  obtain ⟨-, hdst, -⟩ := oneFile_paths
  rw [hdst]
  simp [tree, oneFile]

/-- A full backup brings the file back. -/
theorem backup_restore_iff_full :
    tree (backupRestore [] (backupCreate (fun _ => newYear) [] oneFile ['/', 's'] ['/', 'b'] .full
        quietEnv).1 (backupGenerateId newYear) ['/', 'r'] (some 0) fun _ => true).1.fs
        (resolve [] (['/', 'r'] ++ ['/']))
      = tree oneFile.fs (resolve [] (['/', 's'] ++ ['/'])) :=
  (@backup_restore_iff ℕ (fun _ => newYear) [] oneFile [] ['/', 's'] ['/', 'b'] ['/', 'r'] .full
    quietEnv (some 0) (fun _ => true) rfl (by simp) rfl (by decide +kernel)
    (oneFile_out_empty .full) (callFits_oneFile .full)).mpr fun rel _ => oneFile_dest_empty rel

/-- A differential backup loses it, though both calls return 0. -/
theorem differential_restores_nothing :
    ¬ ∀ (localtime : ℤ → Tm) (cwd : Path) (s : BackupState ℕ) (rows : List CatRow)
      (source dest out : CStr) (type : BackupType) (e : CreateEnv) (popen : Option ℤ)
      (copied : Path → Bool), s.db = some rows →
      (∀ r ∈ rows, r.info.backupId ≠ backupGenerateId (localtime e.idNow)) →
      (backupCreate localtime cwd s source dest type e).2 = 0 →
      (backupRestore cwd (backupCreate localtime cwd s source dest type e).1
        (backupGenerateId (localtime e.idNow)) out popen copied).2 = 0 →
      (∀ rel, tree (backupCreate localtime cwd s source dest type e).1.fs
        (resolve cwd (out ++ ['/'])) rel = none) →
      tree (backupRestore cwd (backupCreate localtime cwd s source dest type e).1
          (backupGenerateId (localtime e.idNow)) out popen copied).1.fs
          (resolve cwd (out ++ ['/']))
        = tree s.fs (resolve cwd (source ++ ['/'])) := by
  intro hclaim
  have hsame := hclaim (fun _ => newYear) [] oneFile [] ['/', 's'] ['/', 'b'] ['/', 'r']
    .differential quietEnv (some 0) (fun _ => true) rfl (by simp) rfl (by decide +kernel)
    (oneFile_out_empty .differential)
  exact absurd (congrFun hsame [['f']]) (by decide +kernel)

end Storage

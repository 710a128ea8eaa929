import StorageManager.Backup.Engine
import StorageManager.Lib.ShellWeight
import StorageManager.Volumes.Filesystems

/-!
# Arguments in command lines

Four functions print strings they are given into a command line: `backup_create` and
`backup_cleanup_old` between double quotes, `fs_mount` and `acl_set` as they are.  `CommandCall` is
such a call, `CommandCall.text` what the shell is given, and `CommandCall.pieces` the words the
format string has in mind, with the strings as they were passed.

`command_intact_iff` says when the shell reads those words: the text fits its buffers, and every
string stands for itself where it is put.
-/

namespace Storage

open CString Shell

/-! ## `acl_set` -/

/-- The command of `acl_set` up to the user. -/
def setfaclLead : CStr := "setfacl -m u:".toList

/-- `setfacl -m u:%s:%s %s 2>&1`. -/
def setfaclText (path user perms : CStr) : CStr :=
  setfaclLead ++ (user ++ (':' :: (perms ++ (' ' :: (path ++ errToOut)))))

/-- `acl_set`: the code it returns and the command it runs. -/
def aclSet {β : Type*} (env : FsEnv β) (path user perms : CStr) : Ret × Option CStr :=
  if env.isRoot = false then (.errorPermission, none)
  else if env.fileExists path = false then (.errorNotFound, none)
  else
    let cmd := fit maxCommand (setfaclText path user perms)
    (if (executeCommand (env.popen cmd) maxOutput).1 = .success then .success
      else .errorSystemCall, some cmd)

/-! ## The calls -/

/-- A call that runs a command: `backup_create` with the identifier of the local time `tm` and the
entry of `backup_list` an incremental backup refers to, one entry of `backup_cleanup_old`,
`fs_mount`, `acl_set`. -/
inductive CommandCall
  | backup (type : BackupType) (newest : Option BackupInfo) (source dest : CStr) (tm : Tm)
  | cleanup (entry : BackupInfo)
  | mount (type : FsType) (options : Option CStr) (device mountPoint : CStr)
  | acl (path user perms : CStr)

namespace CommandCall

/-- The text the shell is given. -/
def text : CommandCall → CStr
  | backup type newest source dest tm =>
      fit 2048 (createText type newest source (createCall source dest type tm).destPath)
  | cleanup entry => fit 512 (rmText entry.destPath)
  | mount type options device mountPoint =>
      fit maxCommand (mountText type options device mountPoint)
  | acl path user perms => fit maxCommand (setfaclText path user perms)

/-- The words `backup_create` has in mind. -/
def createPieces (type : BackupType) (newest : Option BackupInfo) (source destPath : CStr) :
    List Piece :=
  match type, newest with
  | .full, _ => rsyncOptions ++ dirPieces source destPath
  | .incremental, some b => rsyncOptions ++ linkPiece b.destPath :: dirPieces source destPath
  | .incremental, none => rsyncOptions ++ dirPieces source destPath
  | .differential, _ => mkdirOptions ++ [.quoted [] destPath]

/-- Whether the command of a backup ends in `2>&1`. -/
def createRedirected : BackupType → Bool
  | .full | .incremental => true
  | .differential => false

/-- The words `fs_mount` has in mind. -/
def mountPieces (type : FsType) (options : Option CStr) (device mountPoint : CStr) : List Piece :=
  match options with
  | some (c :: o) =>
      [.bare ['m', 'o', 'u', 'n', 't'], .bare ['-', 't'], .bare (fsTypeToString type),
        .bare ['-', 'o'], .bare (c :: o), .bare device, .bare mountPoint]
  | _ =>
      [.bare ['m', 'o', 'u', 'n', 't'], .bare ['-', 't'], .bare (fsTypeToString type),
        .bare device, .bare mountPoint]

/-- The words the call has in mind.  The directory of a backup is `dest/id` in full. -/
def pieces : CommandCall → List Piece
  | backup type newest source dest tm =>
      createPieces type newest source (dest ++ '/' :: backupGenerateId tm)
  | cleanup entry => rmOptions ++ [.quoted [] entry.destPath]
  | mount type options device mountPoint => mountPieces type options device mountPoint
  | acl path user perms =>
      [.bare ['s', 'e', 't', 'f', 'a', 'c', 'l'], .bare ['-', 'm'],
        .bare ('u' :: ':' :: (user ++ ':' :: perms)), .bare path]

/-- Whether the format string ends in `2>&1`. -/
def redirected : CommandCall → Bool
  | backup type .. => createRedirected type
  | cleanup _ => false
  | mount .. => true
  | acl .. => true

/-- The shell reads the words of the call and no other command. -/
def Intact (call : CommandCall) : Prop :=
  parse call.text = some (call.pieces.map (·.word), call.redirected)

/-- Every text fits the buffers it goes through. -/
def Fits : CommandCall → Prop
  | backup type newest source dest tm =>
      (dest ++ '/' :: backupGenerateId tm).length < 512 ∧
        (createText type newest source (dest ++ '/' :: backupGenerateId tm)).length < 2048
  | cleanup entry => (rmText entry.destPath).length < 512
  | mount type options device mountPoint =>
      (mountText type options device mountPoint).length < maxCommand
  | acl path user perms => (setfaclText path user perms).length < maxCommand

/-- A string that stands for itself as a word. -/
def BareWord (w : CStr) : Prop := w ≠ [] ∧ BareStart w

/-- An operand that stands for itself: for the shell a word, and for the program no option. -/
def Operand (w : CStr) : Prop := BareWord w ∧ w.head? ≠ some '-'

/-- Every string stands for itself where it is put. -/
def Literal : CommandCall → Prop
  | backup .differential _ _ dest tm => QuotedLiteral (dest ++ '/' :: backupGenerateId tm)
  | backup .full _ source dest tm =>
      QuotedLiteral (source ++ ['/']) ∧ QuotedLiteral (dest ++ '/' :: backupGenerateId tm ++ ['/'])
  | backup .incremental newest source dest tm =>
      (∀ b ∈ newest, QuotedLiteral b.destPath) ∧ QuotedLiteral (source ++ ['/']) ∧
        QuotedLiteral (dest ++ '/' :: backupGenerateId tm ++ ['/'])
  | cleanup entry => QuotedLiteral entry.destPath
  | mount _ options device mountPoint =>
      (∀ o ∈ options, o ≠ [] → BareWord o) ∧ BareWord device ∧ BareWord mountPoint
  | acl path user perms =>
      (∀ c ∈ user ++ perms, isBare c = true) ∧ BareWord path

/-! ## The texts, word by word -/

lemma createText_eq_line (type : BackupType) (newest : Option BackupInfo) (source destPath : CStr) :
    createText type newest source destPath
      = line (createPieces type newest source destPath) ++ redirection (createRedirected type) := by
  cases type with
  | full => exact rsyncText_eq_line source destPath
  | incremental =>
      cases newest with
      | none => exact rsyncText_eq_line source destPath
      | some b => exact rsyncLinkText_eq_line b.destPath source destPath
  | differential => exact (mkdirText_eq_line destPath).trans (List.append_nil _).symm

lemma mountLead_eq : mountLead = ['m', 'o', 'u', 'n', 't', ' ', '-', 't', ' '] :=
  String.toList_ofList

lemma optionsLead_eq : optionsLead = [' ', '-', 'o', ' '] := String.toList_ofList

lemma setfaclLead_eq : setfaclLead
    = ['s', 'e', 't', 'f', 'a', 'c', 'l', ' ', '-', 'm', ' ', 'u', ':'] := String.toList_ofList

lemma mountText_eq_line (type : FsType) (options : Option CStr) (device mountPoint : CStr) :
    mountText type options device mountPoint
      = line (mountPieces type options device mountPoint) ++ errToOut := by
  unfold mountText mountPieces
  split <;>
    simp [mountLead_eq, optionsLead_eq, line, lineTail, Piece.text]

lemma setfaclText_eq_line (path user perms : CStr) :
    setfaclText path user perms = line (acl path user perms).pieces ++ errToOut := by
  simp [setfaclText, setfaclLead_eq, pieces, line, lineTail, Piece.text]

/-! ## When a string stands for itself -/

lemma createPieces_ok {type : BackupType} {newest : Option BackupInfo} {source dest : CStr}
    {tm : Tm} : (∀ q ∈ (backup type newest source dest tm).pieces, q.Ok) ↔
      (backup type newest source dest tm).Literal := by
  cases type with
  | full =>
      exact List.forall_mem_append.trans ((and_iff_right rsyncOptions_ok).trans dirPieces_ok)
  | incremental =>
      cases newest with
      | none =>
          refine List.forall_mem_append.trans ((and_iff_right rsyncOptions_ok).trans ?_)
          exact dirPieces_ok.trans (and_iff_right (by simp)).symm
      | some b =>
          refine List.forall_mem_append.trans ((and_iff_right rsyncOptions_ok).trans ?_)
          exact List.forall_mem_cons.trans
            (and_congr (linkPiece_ok.trans (by simp)) dirPieces_ok)
  | differential => exact ok_concat_quoted mkdirOptions_ok

lemma fsTypeToString_ok (type : FsType) : (Piece.bare (fsTypeToString type)).Ok := by
  cases type <;> decide +kernel

lemma mountPieces_ok {type : FsType} {options : Option CStr} {device mountPoint : CStr} :
    (∀ q ∈ (mount type options device mountPoint).pieces, q.Ok) ↔
      (mount type options device mountPoint).Literal := by
  have hmount : ∀ q ∈ [Piece.bare ['m', 'o', 'u', 'n', 't'], .bare ['-', 't']], q.Ok := by decide
  have hfixed : ∀ q ∈ [Piece.bare ['m', 'o', 'u', 'n', 't'], .bare ['-', 't'],
      .bare (fsTypeToString type)], q.Ok :=
    List.forall_mem_append.mpr ⟨hmount, List.forall_mem_singleton.mpr (fsTypeToString_ok type)⟩
  have hpaths : (∀ q ∈ [Piece.bare device, .bare mountPoint], q.Ok) ↔
      BareWord device ∧ BareWord mountPoint := by
    rw [List.forall_mem_cons, List.forall_mem_singleton]
    rfl
  match options with
  | none =>
      refine List.forall_mem_append.trans ((and_iff_right hfixed).trans ?_)
      exact hpaths.trans (and_iff_right (by simp)).symm
  | some [] =>
      refine List.forall_mem_append.trans ((and_iff_right hfixed).trans ?_)
      exact hpaths.trans (and_iff_right (by simp)).symm
  | some (c :: o) =>
      have hopt : (Piece.bare ['-', 'o']).Ok := by decide
      refine List.forall_mem_append.trans ((and_iff_right hfixed).trans ?_)
      refine List.forall_mem_cons.trans ((and_iff_right hopt).trans ?_)
      exact List.forall_mem_cons.trans (and_congr (by simp [BareWord, Piece.Ok]) hpaths)

lemma aclPieces_ok {path user perms : CStr} : (∀ q ∈ (acl path user perms).pieces, q.Ok) ↔
    (acl path user perms).Literal := by
  have hfixed : ∀ q ∈ [Piece.bare ['s', 'e', 't', 'f', 'a', 'c', 'l'], .bare ['-', 'm']], q.Ok := by
    decide
  have hentry : (Piece.bare ('u' :: ':' :: (user ++ ':' :: perms))).Ok ↔
      ∀ c ∈ user ++ perms, isBare c = true := by
    have hu : isBare 'u' = true ∧ isBare ':' = true ∧ isLeading 'u' = false := by decide
    simp [Piece.Ok, BareStart, hu, or_imp, forall_and]
  refine List.forall_mem_append.trans ((and_iff_right hfixed).trans ?_)
  rw [List.forall_mem_cons, List.forall_mem_singleton, hentry]
  rfl

/-- The shell reads the pieces of a call as they are meant exactly if the call is literal. -/
theorem pieces_ok (call : CommandCall) : (∀ q ∈ call.pieces, q.Ok) ↔ call.Literal := by
  cases call with
  | backup => exact createPieces_ok
  | cleanup => exact ok_concat_quoted rmOptions_ok
  | mount => exact mountPieces_ok
  | acl => exact aclPieces_ok

/-! ## The directory of a backup -/

lemma createPieces_eq (type : BackupType) (newest : Option BackupInfo) (source : CStr) :
    ∃ front tail, ∀ p, createPieces type newest source p = front ++ [.quoted [] (p ++ tail)] := by
  cases type with
  | full => exact ⟨rsyncOptions ++ [.quoted [] (source ++ ['/'])], ['/'], fun p => rfl⟩
  | incremental =>
      cases newest with
      | none => exact ⟨rsyncOptions ++ [.quoted [] (source ++ ['/'])], ['/'], fun p => rfl⟩
      | some b =>
          exact ⟨rsyncOptions ++ [linkPiece b.destPath, .quoted [] (source ++ ['/'])], ['/'],
            fun p => rfl⟩
  | differential => exact ⟨mkdirOptions, [], fun p => by rw [List.append_nil]; rfl⟩

/-- A directory that was cut is not read as the one it was cut from: the identifier at its end has
characters that are missed. -/
lemma length_lt_of_intact {type : BackupType} {newest : Option BackupInfo} {source dest : CStr}
    {tm : Tm} (h : (backup type newest source dest tm).Intact) :
    (dest ++ '/' :: backupGenerateId tm).length < 512 := by
  obtain ⟨front, tail, hpieces⟩ := createPieces_eq type newest source
  by_contra hlong
  obtain ⟨i, c, hid⟩ : ∃ i c, backupGenerateId tm = i ++ [c] := by
    obtain hnil | ⟨i, c, hid⟩ := List.eq_nil_or_concat (backupGenerateId tm)
    · exact absurd (congrArg List.length hnil) (by simp)
    · exact ⟨i, c, hid.trans List.concat_eq_append⟩
  have hc : c ≠ dquote := (quoteSafe_backupGenerateId tm c (by simp [hid])).1
  have hless : visible (fit 512 (dest ++ '/' :: backupGenerateId tm))
      < visible (dest ++ '/' :: backupGenerateId tm) :=
    visible_fit_lt (u := dest ++ '/' :: i) (by simp [hid]) hc hlong
  rw [Intact, text, createText_eq_line] at h
  have hweight := parse_fit_weight (by simp [hpieces]) h
  simp only [pieces, hpieces, List.map_append, List.map_cons, List.map_nil, wordsWeight_concat,
    Piece.word, List.nil_append, visible_append, createCall] at hweight hless
  omega

lemma create_intact_iff (type : BackupType) (newest : Option BackupInfo) (source : CStr)
    {p : CStr} (hp : p ≠ []) : parse (fit 2048 (createText type newest source p))
      = some ((createPieces type newest source p).map (·.word), createRedirected type) ↔
      (createText type newest source p).length < 2048 ∧
        ∀ q ∈ createPieces type newest source p, q.Ok := by
  rw [createText_eq_line]
  obtain ⟨front, tail, hpieces⟩ := createPieces_eq type newest source
  cases hredirected : createRedirected type with
  | true => exact parse_fit_iff (by simp [hpieces]) 2048
  | false =>
      rw [redirection, if_neg Bool.false_ne_true, List.append_nil]
      exact parse_fit_quoted_iff (hpieces p) fun hnil =>
        absurd (List.append_eq_nil_iff.mp hnil).1 hp

/-! ## Where the texts are run -/

lemma backupCreate_cmd {κ : Type*} (localtime : ℤ → Tm) (cwd : Files.Path) (s : BackupState κ)
    (source dest : CStr) (type : BackupType) (e : CreateEnv) {status : ℤ}
    (hpopen : e.popen = some status) :
    (backupCreate localtime cwd s source dest type e).1.fs
      = runCommand cwd
          (runCommand cwd s.fs (fit 2048 (mkdirText (createCall source dest type
            (localtime e.idNow)).destPath)) 0 fun _ => true)
          (backup type (newestBackup s.db type e) source dest (localtime e.idNow)).text
          status e.copied := by
  simp only [backupCreate, hpopen, text]

lemma cleanupLoop_text (rows : List CatRow) (bs : List BackupInfo) :
    (cleanupLoop rows bs).2.map (·.cmd) = bs.map fun b => (cleanup b).text :=
  cleanupLoop_cmd rows bs

section Environment

variable {β : Type*} {env : FsEnv β} {cmd : CStr}

lemma fsMount_cmd {device mountPoint : CStr} {type : FsType} {options : Option CStr}
    (h : (fsMount env device mountPoint type options).2 = some cmd) :
    cmd = (mount type options device mountPoint).text := by
  unfold fsMount at h
  split_ifs at h
  exact (Option.some.inj h).symm

lemma aclSet_cmd {path user perms : CStr} (h : (aclSet env path user perms).2 = some cmd) :
    cmd = (acl path user perms).text := by
  unfold aclSet at h
  split_ifs at h
  exact (Option.some.inj h).symm

end Environment

end CommandCall

open CommandCall

/-- **The shell reads the words a call has in mind** exactly when the text fits and every string
stands for itself where it is put. -/
theorem command_intact_iff (call : CommandCall) : call.Intact ↔ call.Fits ∧ call.Literal := by
  rw [← pieces_ok]
  cases call with
  | backup type newest source dest tm =>
      have hne : dest ++ '/' :: backupGenerateId tm ≠ [] := by simp
      have hcreate := create_intact_iff type newest source hne
      constructor
      · intro h
        have hlen := length_lt_of_intact h
        rw [Intact, text, createCall, fit_of_lt hlen] at h
        exact ⟨⟨hlen, (hcreate.mp h).1⟩, (hcreate.mp h).2⟩
      · rintro ⟨⟨hlen, hfits⟩, hok⟩
        rw [Intact, text, createCall, fit_of_lt hlen]
        exact hcreate.mpr ⟨hfits, hok⟩
  | cleanup entry =>
      have hempty : entry.destPath = [] →
          (line (rmOptions ++ [.quoted [] entry.destPath])).length < 512 := by
        intro hnil
        rw [hnil]
        decide
      rw [Intact, Fits, text, rmText_eq_line]
      exact parse_fit_quoted_iff rfl hempty
  | mount type options device mountPoint =>
      have hne : mountPieces type options device mountPoint ≠ [] := by
        unfold mountPieces
        split <;> exact List.cons_ne_nil _ _
      rw [Intact, Fits, text, mountText_eq_line]
      exact parse_fit_iff hne maxCommand
  | acl path user perms =>
      rw [Intact, Fits, text, setfaclText_eq_line]
      exact parse_fit_iff (List.cons_ne_nil _ _) maxCommand

/-- A mount point with a blank in its name is two words. -/
theorem mount_splits_path : ¬ ∀ call : CommandCall, call.Intact := by
  intro hclaim
  have hintact := hclaim (.mount .ext4 none ['/', 'd', 'e', 'v', '/', 'a'] ['/', 'm', ' ', 'n'])
  have hparse : parse (CommandCall.mount .ext4 none ['/', 'd', 'e', 'v', '/', 'a']
        ['/', 'm', ' ', 'n']).text
      = some ([['m', 'o', 'u', 'n', 't'], ['-', 't'], ['e', 'x', 't', '4'],
          ['/', 'd', 'e', 'v', '/', 'a'], ['/', 'm'], ['n']], true) := by
    decide +kernel
  have hwords := congrArg (Option.map fun r => r.1.length) (hparse.symm.trans hintact)
  exact absurd hwords (by decide)

end Storage

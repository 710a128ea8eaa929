import StorageManager.Backup.Catalogue
import StorageManager.Lib.ShellLine

/-!
# Creating, restoring and removing backups

`backup_create`, `backup_restore` and `backup_cleanup_old` do their work through the shell: they
print a command into a buffer and hand it to `system` or `popen`.  What happens is decided by what
is in the buffer when it is run, so the model keeps the buffers as text, cut to their size, and
asks `Lib/Shell.lean` what the shell makes of them.

Three commands matter.  A complete `rsync` copies a tree of files, `rm -rf` removes one, `mkdir`
touches no file; everything else is taken to copy nothing.  A word that starts with `-` is an option
to all three, and to `rsync` a word with a colon before its first slash is a remote host.

`shellCommand_mkdir`, `shellCommand_rsync`, `shellCommand_rsyncLink` and `shellCommand_rm` say
that a command with safe strings in it means what its text says.
-/

namespace Storage

open CString Shell Files

/-! ## Commands -/

/-! The fixed parts of the commands.  The strings go between them, each inside quotes. -/

/-- The `mkdir` command up to its directory. -/
def mkdirLead : CStr := "mkdir -p \"".toList

/-- The `rm` command up to its directory. -/
def rmLead : CStr := "rm -rf \"".toList

/-- The `rsync` command up to its source. -/
def rsyncLead : CStr := "rsync -av --stats \"".toList

/-- The `rsync` command of an incremental backup up to the directory it links to. -/
def rsyncLinkLead : CStr := "rsync -av --stats --link-dest=\"".toList

/-- From one quoted word to the next. -/
def nextWord : CStr := "\" \"".toList

/-- From the directory in one word to the next word. -/
def nextDir : CStr := "/\" \"".toList

/-- The end of a quoted word. -/
def closeWord : CStr := "\"".toList

/-- The end of a quoted directory, with the slash that `rsync` needs. -/
def closeDir : CStr := "/\"".toList

/-- `mkdir -p "%s"`. -/
def mkdirText (p : CStr) : CStr := mkdirLead ++ (p ++ closeWord)

/-- `rsync -av --stats "%s/" "%s/" 2>&1`. -/
def rsyncText (src dst : CStr) : CStr :=
  rsyncLead ++ (src ++ (nextDir ++ (dst ++ (closeDir ++ errToOut))))

/-- `rsync -av --stats --link-dest="%s" "%s/" "%s/" 2>&1`. -/
def rsyncLinkText (link src dst : CStr) : CStr :=
  rsyncLinkLead ++ (link ++ (nextWord ++ (src ++ (nextDir ++ (dst ++ (closeDir ++ errToOut))))))

/-- `rm -rf "%s"`. -/
def rmText (p : CStr) : CStr := rmLead ++ (p ++ closeWord)

/-- What a command line does to the files. -/
inductive ShellCommand
  | makeDir (p : CStr)
  | copy (src dst : CStr)
  | remove (p : CStr)
  | other
  deriving DecidableEq

/-- The word is a path on this host, to `rsync` too. -/
def isLocal (p : CStr) : Bool := isOperand p && !(p.takeWhile (· != '/')).contains ':'

/-- The commands the engine uses, by their words. -/
def ShellCommand.ofWords : List CStr → ShellCommand
  | [prog, opt, p] =>
      if prog = "mkdir".toList ∧ opt = "-p".toList ∧ isOperand p then .makeDir p
      else if prog = "rm".toList ∧ opt = "-rf".toList ∧ isOperand p then .remove p
      else .other
  | [prog, opt, stats, src, dst] =>
      if prog = "rsync".toList ∧ opt = "-av".toList ∧ stats = "--stats".toList ∧ isLocal src ∧
          isLocal dst then .copy src dst
      else .other
  | [prog, opt, stats, link, src, dst] =>
      if prog = "rsync".toList ∧ opt = "-av".toList ∧ stats = "--stats".toList ∧
          "--link-dest=".toList.isPrefixOf link ∧ isLocal src ∧ isLocal dst then .copy src dst
      else .other
  | _ => .other

/-- What a line does to the files once the shell has read it. -/
def shellCommand (cmd : CStr) : ShellCommand :=
  match Shell.command cmd with
  | some argv => .ofWords argv
  | none => .other

section Files

variable {κ : Type*}

/-- The files after `sh -c cmd` with this exit status.  A copy that fails may have `copied` some of
the files. -/
def runCommand (cwd : Path) (fs : Path → Option κ) (cmd : CStr) (status : ℤ)
    (copied : Path → Bool) : Path → Option κ :=
  match shellCommand cmd with
  | .copy src dst =>
      copyTree fs (resolve cwd src) (resolve cwd dst) fun rel => status == 0 || copied rel
  | .remove p => removeTree fs (resolve cwd p)
  | .makeDir _ | .other => fs

end Files

/-! ## The functions -/

/-- The database, while it is open, and the files. -/
structure BackupState (κ : Type*) where
  db : Option (List CatRow)
  fs : Path → Option κ

/-- What a call of `backup_create` gets from its surroundings: the two clock readings, the order
`backup_list` finds and the memory it gets, the outcome of `popen` (`none` when it fails) and the
size `du` reports. -/
structure CreateEnv where
  now : ℤ
  idNow : ℤ
  order : List CatRow
  junk : ℕ → CStr
  popen : Option ℤ
  copied : Path → Bool
  size : ℕ

/-- The command in the buffer when `popen` is called.  For a differential backup no branch has
written to it since the `mkdir`. -/
def createText (type : BackupType) (newest : Option BackupInfo) (source destPath : CStr) : CStr :=
  match type, newest with
  | .full, _ => rsyncText source destPath
  | .incremental, some b => rsyncLinkText b.destPath source destPath
  | .incremental, none => rsyncText source destPath
  | .differential, _ => mkdirText destPath

/-- The backup an incremental one refers to. -/
def newestBackup (db : Option (List CatRow)) (type : BackupType) (e : CreateEnv) :
    Option BackupInfo :=
  match type, db with
  | .incremental, some _ => (backupList e.order e.junk).head?
  | _, _ => none

/-- `info` as `backup_create` stores it. -/
def createInfo (newest : Option BackupInfo) (c : Call) (e : CreateEnv) : BackupInfo where
  backupId := c.id
  timestamp := e.now
  type := c.type
  sourcePath := fit 256 c.source
  destPath := fit 256 c.destPath
  sizeBytes := if e.popen.isSome then e.size else 0
  checksum := []
  success := if e.popen = some 0 then 1 else 0
  errorMsg :=
    match e.popen with
    | none => fit 256 "Failed to execute rsync".toList
    | some status =>
        if status = 0 then [] else fit 256 ("rsync failed with exit code ".toList ++ intText status)
  parentBackupId := fit 64 ((newest.map (·.backupId)).getD [])

/-- The call `backup_create (source, dest, type)` amounts to at local time `tm`. -/
def createCall (source dest : CStr) (type : BackupType) (tm : Tm) : Call where
  source := source
  dest := dest
  type := type
  id := backupGenerateId tm
  destPath := fit 512 (dest ++ '/' :: backupGenerateId tm)

section Functions

variable {κ : Type*} (localtime : ℤ → Tm) (cwd : Path)

/-- `backup_create`. -/
def backupCreate (s : BackupState κ) (source dest : CStr) (type : BackupType) (e : CreateEnv) :
    BackupState κ × ℤ :=
  let c := createCall source dest type (localtime e.idNow)
  let newest := newestBackup s.db type e
  let made := runCommand cwd s.fs (fit 2048 (mkdirText c.destPath)) 0 fun _ => true
  let cmd := fit 2048 (createText type newest source c.destPath)
  let fs := match e.popen with
    | none => made
    | some status => runCommand cwd made cmd status e.copied
  (⟨s.db.map (insertRow · ⟨createInfo newest c e, c⟩), fs⟩, if e.popen = some 0 then 0 else -1)

/-- `backup_restore`. -/
def backupRestore (s : BackupState κ) (id dest : CStr) (popen : Option ℤ) (copied : Path → Bool) :
    BackupState κ × ℤ :=
  match s.db.bind fun rows => backupGetInfo rows id with
  | none => (s, -1)
  | some info =>
      let made := runCommand cwd s.fs (fit 2048 (mkdirText dest)) 0 fun _ => true
      let cmd := fit 2048 (rsyncText info.destPath dest)
      match popen with
      | none => ({ s with fs := made }, -1)
      | some status =>
          ({ s with fs := runCommand cwd made cmd status copied }, if status = 0 then 0 else -1)

end Functions

/-- What `backup_cleanup_old` does for one entry of the list: the command it runs, the rows it
deletes and the rows that are left. -/
structure Removal where
  cmd : CStr
  removed : List CatRow
  remaining : List CatRow

/-- The loop of `backup_cleanup_old`. -/
def cleanupLoop (rows : List CatRow) : List BackupInfo → List CatRow × List Removal
  | [] => (rows, [])
  | b :: bs =>
      let keep := rows.filter fun r => r.info.backupId ≠ b.backupId
      let gone := rows.filter fun r => r.info.backupId = b.backupId
      let rest := cleanupLoop keep bs
      (rest.1, ⟨fit 512 (rmText b.destPath), gone, keep⟩ :: rest.2)

/-- `backup_cleanup_old (keep_count)` for a count that is not negative. -/
def backupCleanupOld (rows : List CatRow) (keepCount : ℕ) (order : List CatRow) (junk : ℕ → CStr) :
    List CatRow × List Removal :=
  cleanupLoop rows ((backupList order junk).drop keepCount)

lemma cleanupLoop_cmd (rows : List CatRow) (bs : List BackupInfo) :
    (cleanupLoop rows bs).2.map (·.cmd) = bs.map fun b => fit 512 (rmText b.destPath) := by
  induction bs generalizing rows with
  | nil => rfl
  | cons b bs ih => simp only [cleanupLoop, List.map_cons, ih]

/-! ## What the commands mean -/

/-! The literals, character by character.  `String.toList_ofList` reads them off; evaluating them is
far slower. -/

lemma mkdirLead_eq : mkdirLead = ['m', 'k', 'd', 'i', 'r', ' ', '-', 'p', ' ', dquote] :=
  String.toList_ofList

lemma rmLead_eq : rmLead = ['r', 'm', ' ', '-', 'r', 'f', ' ', dquote] := String.toList_ofList

lemma rsyncLead_eq : rsyncLead = ['r', 's', 'y', 'n', 'c', ' ', '-', 'a', 'v', ' ',
    '-', '-', 's', 't', 'a', 't', 's', ' ', dquote] :=
  String.toList_ofList

lemma rsyncLinkLead_eq : rsyncLinkLead = ['r', 's', 'y', 'n', 'c', ' ', '-', 'a', 'v', ' ',
    '-', '-', 's', 't', 'a', 't', 's', ' ',
    '-', '-', 'l', 'i', 'n', 'k', '-', 'd', 'e', 's', 't', '=', dquote] := String.toList_ofList

lemma closeWord_eq : closeWord = [dquote] := String.toList_ofList

lemma closeDir_eq : closeDir = ['/', dquote] := String.toList_ofList

lemma nextWord_eq : nextWord = [dquote, ' ', dquote] := String.toList_ofList

lemma nextDir_eq : nextDir = ['/', dquote, ' ', dquote] := String.toList_ofList

lemma mkdirWords_eq : "mkdir".toList = ['m', 'k', 'd', 'i', 'r'] ∧ "-p".toList = ['-', 'p'] :=
  ⟨String.toList_ofList, String.toList_ofList⟩

lemma rmWords_eq : "rm".toList = ['r', 'm'] ∧ "-rf".toList = ['-', 'r', 'f'] :=
  ⟨String.toList_ofList, String.toList_ofList⟩

lemma rsyncWords_eq : "rsync".toList = ['r', 's', 'y', 'n', 'c'] ∧ "-av".toList = ['-', 'a', 'v'] ∧
    "--stats".toList = ['-', '-', 's', 't', 'a', 't', 's'] :=
  ⟨String.toList_ofList, String.toList_ofList, String.toList_ofList⟩

/-- The option of `rsync` for the directory it links to. -/
def linkDest : CStr := ['-', '-', 'l', 'i', 'n', 'k', '-', 'd', 'e', 's', 't', '=']

lemma linkDest_eq : "--link-dest=".toList = linkDest := String.toList_ofList

/-! The commands, word by word. -/

/-- The words of the `mkdir` command before its directory. -/
def mkdirOptions : List Piece := [.bare ['m', 'k', 'd', 'i', 'r'], .bare ['-', 'p']]

/-- The words of the `rm` command before its directory. -/
def rmOptions : List Piece := [.bare ['r', 'm'], .bare ['-', 'r', 'f']]

/-- The words of the `rsync` command before its directories. -/
def rsyncOptions : List Piece :=
  [.bare ['r', 's', 'y', 'n', 'c'], .bare ['-', 'a', 'v'],
    .bare ['-', '-', 's', 't', 'a', 't', 's']]

/-- The option with the directory of an earlier backup. -/
def linkPiece (link : CStr) : Piece := .quoted linkDest link

/-- Source and destination of `rsync`, each with a slash at its end. -/
def dirPieces (src dst : CStr) : List Piece :=
  [.quoted [] (src ++ ['/']), .quoted [] (dst ++ ['/'])]

lemma mkdirText_eq_line (p : CStr) : mkdirText p = line (mkdirOptions ++ [.quoted [] p]) := by
  rw [mkdirText, mkdirLead_eq, closeWord_eq]
  simp [mkdirOptions, line, lineTail, Piece.text]

lemma rmText_eq_line (p : CStr) : rmText p = line (rmOptions ++ [.quoted [] p]) := by
  rw [rmText, rmLead_eq, closeWord_eq]
  simp [rmOptions, line, lineTail, Piece.text]

lemma rsyncText_eq_line (src dst : CStr) :
    rsyncText src dst = line (rsyncOptions ++ dirPieces src dst) ++ errToOut := by
  rw [rsyncText, rsyncLead_eq, nextDir_eq, closeDir_eq]
  simp [rsyncOptions, dirPieces, line, lineTail, Piece.text]

lemma rsyncLinkText_eq_line (link src dst : CStr) :
    rsyncLinkText link src dst
      = line (rsyncOptions ++ linkPiece link :: dirPieces src dst) ++ errToOut := by
  rw [rsyncLinkText, rsyncLinkLead_eq, nextWord_eq, nextDir_eq, closeDir_eq]
  simp [rsyncOptions, linkPiece, linkDest, dirPieces, line, lineTail, Piece.text]

lemma mkdirOptions_ok : ∀ q ∈ mkdirOptions, q.Ok := by decide

lemma rmOptions_ok : ∀ q ∈ rmOptions, q.Ok := by decide

lemma rsyncOptions_ok : ∀ q ∈ rsyncOptions, q.Ok := by decide

lemma linkPiece_ok {link : CStr} : (linkPiece link).Ok ↔ QuotedLiteral link :=
  and_iff_right (by decide)

lemma dirPieces_ok {src dst : CStr} : (∀ q ∈ dirPieces src dst, q.Ok) ↔
    QuotedLiteral (src ++ ['/']) ∧ QuotedLiteral (dst ++ ['/']) := by
  rw [dirPieces, List.forall_mem_cons, List.forall_mem_singleton, Piece.ok_quoted,
    Piece.ok_quoted]

lemma length_mkdirText (p : CStr) : (mkdirText p).length = p.length + 11 := by
  simp only [mkdirText, mkdirLead_eq, closeWord_eq, List.length_append, List.length_cons,
    List.length_nil]
  omega

lemma shellCommand_of_words {cmd : CStr} {argv : List CStr} (h : Shell.command cmd = some argv) :
    shellCommand cmd = .ofWords argv := by
  simp only [shellCommand, h]

/-- Whether a path is an operand is decided by what stands before any of its slashes. -/
@[simp] lemma isOperand_slash (s t : CStr) : isOperand (s ++ '/' :: t) = isOperand s := by
  cases s <;> rfl

@[simp] lemma isLocal_slash (s t : CStr) : isLocal (s ++ '/' :: t) = isLocal s := by
  have htake : (s ++ '/' :: t).takeWhile (· != '/') = s.takeWhile (· != '/') := by
    induction s with
    | nil => simp
    | cons c s ih => simp only [List.cons_append, List.takeWhile_cons, ih]
  rw [isLocal, isLocal, isOperand_slash, htake]

lemma shellCommand_mkdir {p : CStr} (hp : QuoteSafe p) (hop : isOperand p = true) :
    shellCommand (mkdirText p) = .makeDir p := by
  have hok := (ok_concat_quoted mkdirOptions_ok).mpr hp.quotedLiteral
  rw [mkdirText_eq_line, shellCommand_of_words (command_line_quoted rfl hok)]
  simp only [mkdirOptions, List.cons_append, List.map_cons, List.map_nil, Piece.word,
    List.nil_append, ShellCommand.ofWords, mkdirWords_eq, hop, and_self, if_true]

lemma shellCommand_rm {p : CStr} (hp : QuoteSafe p) (hop : isOperand p = true) :
    shellCommand (rmText p) = .remove p := by
  have hprog : ['r', 'm'] ≠ ['m', 'k', 'd', 'i', 'r'] := by decide
  have hok := (ok_concat_quoted rmOptions_ok).mpr hp.quotedLiteral
  rw [rmText_eq_line, shellCommand_of_words (command_line_quoted rfl hok)]
  simp only [rmOptions, List.cons_append, List.map_cons, List.map_nil, Piece.word, List.nil_append,
    ShellCommand.ofWords, mkdirWords_eq, rmWords_eq, hprog, hop, false_and, if_false, and_self,
    if_true]

section Rsync

variable {src dst : CStr} (hsrc : QuotedLiteral (src ++ ['/']))
  (hdst : QuotedLiteral (dst ++ ['/']))
include hsrc hdst

lemma shellCommand_rsync :
    shellCommand (rsyncText src dst) = if isLocal src = true ∧ isLocal dst = true
      then .copy (src ++ ['/']) (dst ++ ['/']) else .other := by
  have hok := List.forall_mem_append.mpr ⟨rsyncOptions_ok, dirPieces_ok.mpr ⟨hsrc, hdst⟩⟩
  rw [rsyncText_eq_line, shellCommand_of_words (command_line_errToOut hok)]
  simp only [rsyncOptions, dirPieces, List.cons_append, List.nil_append, List.map_cons,
    List.map_nil, Piece.word, ShellCommand.ofWords, rsyncWords_eq, isLocal_slash, true_and]

lemma shellCommand_rsyncLink {link : CStr} (hlink : QuotedLiteral link) :
    shellCommand (rsyncLinkText link src dst) = if isLocal src = true ∧ isLocal dst = true
      then .copy (src ++ ['/']) (dst ++ ['/']) else .other := by
  have hoperands := List.forall_mem_cons.mpr
    ⟨linkPiece_ok.mpr hlink, dirPieces_ok.mpr ⟨hsrc, hdst⟩⟩
  have hok := List.forall_mem_append.mpr ⟨rsyncOptions_ok, hoperands⟩
  have hopt : linkDest.isPrefixOf (linkDest ++ link) = true :=
    List.isPrefixOf_iff_prefix.mpr (List.prefix_append _ _)
  rw [rsyncLinkText_eq_line, shellCommand_of_words (command_line_errToOut hok)]
  simp only [rsyncOptions, linkPiece, dirPieces, List.cons_append, List.nil_append, List.map_cons,
    List.map_nil, Piece.word, ShellCommand.ofWords, rsyncWords_eq, linkDest_eq, hopt,
    isLocal_slash, true_and]

end Rsync

end Storage

import StorageManager.Lib.Script
import StorageManager.Lib.Scan
import StorageManager.Scripts.AutoBackup

/-!
# `auto_backup.sh` as a whole

`Scripts/AutoBackup.lean` is about what a successful `--full` does to `/backup/full`.  Here is the
script around it: the options, the functions they lead to, and `set -e`, which decides what still
happens after something has failed.  What the commands of the script report is in a `World`; the
script is a `Cmd` of `Lib/Script.lean`, function by function.

* `operations_of_last_action` — the options: only complete ones are acted on, and the last action
  wins.
* `failed_backup_removes_nothing` — `set -e` keeps a failed backup from the clean-up behind it.
* `successful_full_backup` — a successful `--full` is a step of `Scripts/AutoBackup.lean`, so what
  that file says about runs of such steps holds of runs of the script.
-/

namespace Storage.AutoBackup

open CString Script Script.Cmd

/-- The variable `action`. -/
inductive Action
  | full
  | incremental
  | list
  | restore
  | cleanup
  | verify
  deriving DecidableEq, Repr

/-- The variables the options set; `keep` is `KEEP_BACKUPS`. -/
structure Options where
  action : Option Action := none
  source : CStr := []
  dest : CStr := []
  backupFile : CStr := []
  keep : CStr := ['7']

/-- What is done to backups, with the outcome of the programs that do it. -/
inductive Op
  | tar (source : CStr) (ok : Bool)
  | checksum
  | rsync (source : CStr) (ok : Bool)
  | rm (name : CStr)
  | extract (file dest : CStr) (ok : Bool)
  | verify (file : CStr) (ok : Bool)
  deriving DecidableEq

/-- The variables, the messages written to the log so far, `$?` where it is read, the files of
`/backup/full`, and what was done. -/
structure State where
  options : Options
  logged : ℕ
  last : ℕ
  dir : List DirFile
  ops : List Op

/-- What the commands of one run report.  `logOk n` is the `tee` of message `n`; `tarLeft` says that
a `tar` that fails leaves a file behind. -/
structure World where
  root : Bool
  logOk : ℕ → Bool
  dirsOk : Bool
  run : FullRun
  tarOk : Bool
  tarLeft : Bool
  checksumOk : Bool
  rsyncFound : Bool
  mkdirOk : Bool
  rsyncOk : Bool
  rmOk : CStr → Bool
  isFile : CStr → Bool
  extractOk : Bool
  checksumMatches : CStr → Bool

/-! ## Numbers in `--keep` -/

/-- Sign and digits. -/
def splitSign : CStr → Bool × CStr
  | '-' :: ds => (true, ds)
  | '+' :: ds => (false, ds)
  | ds => (false, ds)

/-- The number with its sign. -/
def signed (neg : Bool) (n : ℕ) : ℤ := if neg then -n else n

/-- A word as `[` reads it: decimal, of 64 bits. -/
def testValue (w : CStr) : Option ℤ :=
  let (neg, ds) := splitSign w
  let n := Nat.ofDigitChars 10 ds 0
  if !ds.isEmpty && ds.all Char.isDigit && (n < 2 ^ 63 || (neg && n = 2 ^ 63)) then
    some (signed neg n)
  else none

/-- The same word inside `$(( ))`, where a leading 0 makes it octal. -/
def arithValue (w : CStr) : Option ℤ :=
  let (neg, ds) := splitSign w
  if ds.head? = some '0' then
    if ds.all fun c => c.isDigit && c < '8' then some (signed neg (Nat.ofDigitChars 8 ds 0))
    else none
  else testValue w

/-- `$keep` outside quotes is split into words; `[` wants one. -/
def keepWord (keep : CStr) : Option CStr :=
  match fields keep with
  | [w] => some w
  | _ => none

/-- `[ $full_count -gt $keep ]`, which also fails when `$keep` is no number. -/
def tooMany (s : State) : Bool :=
  match (keepWord s.options.keep).bind testValue with
  | some k => decide (k < s.dir.length)
  | none => false

/-- `ls -t | tail -n +$((keep + 1))`; `tail` refuses a negative number. -/
def oldNames (w : World) (s : State) : List CStr :=
  match (keepWord s.options.keep).bind arithValue with
  | some k => if 0 ≤ k + 1 then (w.run.order.map (·.name)).drop k.toNat else []
  | none => []

/-! ## The functions -/

section Functions

variable (w : World)

/-- `log_message`: the status of its `tee`. -/
def logMessage : Cmd State :=
  .run fun s => ({ s with logged := s.logged + 1 }, status (w.logOk s.logged))

/-- `check_root`. -/
def checkRoot : Cmd State := .call (.ite (test fun _ => !w.root) (.exit 1) skip)

/-- `setup_backup_dirs`. -/
def setupBackupDirs : Cmd State := .call <| block [
  logMessage w,
  .run fun s => ({ s with last := status w.dirsOk }, status w.dirsOk),
  .ite (test fun s => s.last == 0) (logMessage w) (block [logMessage w, .exit 1])]

/-- `tar -czf` on the archive of this run. -/
def tarCreate (source : CStr) : Cmd State := .run fun s =>
  ({ s with
      dir := if w.tarOk || w.tarLeft then writeFile s.dir (archiveName w.run.date) w.run.tarTime
        else s.dir
      ops := s.ops ++ [.tar source w.tarOk] }, status w.tarOk)

/-- The redirection into the checksum file. -/
def writeChecksum : Cmd State := .run fun s =>
  (if w.checksumOk then
    { s with
      dir := writeFile s.dir (checksumName (archiveName w.run.date)) w.run.sumTime
      ops := s.ops ++ [.checksum] }
   else s, status w.checksumOk)

/-- `backup_full_tar`. -/
def backupFullTar (source : CStr) : Cmd State := .call <| block [
  logMessage w,
  .ite (tarCreate w source)
    (block [logMessage w, writeChecksum w, logMessage w, .ret 0])
    (block [logMessage w, .ret 1])]

/-- `backup_incremental_rsync`. -/
def backupIncrementalRsync (source : CStr) : Cmd State := .call <| block [
  logMessage w,
  .ite (test fun _ => !w.rsyncFound) (block [logMessage w, .ret 1]) skip,
  test fun _ => w.mkdirOk,
  .ite (.run fun s => ({ s with ops := s.ops ++ [.rsync source w.rsyncOk] }, status w.rsyncOk))
    (block [logMessage w, .ret 0])
    (block [logMessage w, .ret 1])]

/-- `verify_backup`. -/
def verifyBackup (file : CStr) : Cmd State := .call <| block [
  logMessage w,
  .ite (test fun _ => w.isFile (checksumName file))
    (.ite (.run fun s => ({ s with ops := s.ops ++ [.verify file (w.checksumMatches file)] },
        status (w.checksumMatches file)))
      (block [logMessage w, .ret 0])
      (block [logMessage w, .ret 1]))
    (block [logMessage w, .ret 1])]

/-- `rm -f` on one file of the directory. -/
def rmCommand (name : CStr) : Cmd State := .run fun s =>
  (if w.rmOk name then { s with dir := rmFile s.dir name, ops := s.ops ++ [.rm name] } else s,
    status (w.rmOk name))

/-- The body of the `while read old_backup` loop. -/
def removeOne (old : CStr) : Cmd State :=
  block [rmCommand w old, rmCommand w (checksumName old), logMessage w]

/-- `cleanup_old_backups`. -/
def cleanupOldBackups : Cmd State := .call <| block [
  logMessage w,
  .ite (test tooMany)
    (.given fun s => .subshell (fun _ s' => s') (each (oldNames w s) (removeOne w))) skip,
  skip]

/-- It prints, and its pipelines end in `awk`. -/
def listBackups : Cmd State := .call skip

/-- `restore_backup`. -/
def restoreBackup (file dest : CStr) : Cmd State := .call <| block [
  logMessage w,
  .ite (test fun _ => !w.isFile file) (block [logMessage w, .ret 1]) skip,
  test fun _ => w.mkdirOk,
  .ite (.run fun s => ({ s with ops := s.ops ++ [.extract file dest w.extractOk] },
      status w.extractOk))
    (block [logMessage w, .ret 0])
    (block [logMessage w, .ret 1])]

/-- `show_help` and `dry_run` print. -/
def printText : Cmd State := .call skip

/-- Assignments to the variables of the options. -/
def setOptions (f : Options → Options) : Cmd State := .run fun s =>
  ({ s with options := f s.options }, 0)

/-- `shift n` with fewer than `n` arguments left. -/
def shiftFails : Cmd State := .run fun s => (s, 1)

/-- The patterns of the `case $1`, but for `*`. -/
inductive Flag
  | full
  | incremental
  | list
  | restore
  | cleanup
  | verify
  | dryRun
  | keep
  | help

/-- The pattern as it is written. -/
def Flag.text : Flag → CStr
  | .full => "--full".toList
  | .incremental => "--incremental".toList
  | .list => "--list".toList
  | .restore => "--restore".toList
  | .cleanup => "--cleanup".toList
  | .verify => "--verify".toList
  | .dryRun => "--dry-run".toList
  | .keep => "--keep".toList
  | .help => "--help".toList

/-- The pattern the word matches. -/
def flagOf (o : CStr) : Option Flag :=
  [Flag.full, .incremental, .list, .restore, .cleanup, .verify, .dryRun, .keep, .help].find?
    fun f => f.text == o

lemma eq_text_of_flagOf {o : CStr} {f : Flag} (h : flagOf o = some f) : o = f.text := by
  have htext : f.text = o := by simpa using List.find?_some h
  exact htext.symm

/-- The `while` loop over the arguments.  An operand that is missing reads as empty, and then
`shift` fails. -/
def readOptions : List CStr → Cmd State
  | [] => skip
  | o :: args =>
      match flagOf o, args with
      | some .full, source :: rest =>
          .seq (setOptions fun p => { p with action := some .full, source := source })
            (readOptions rest)
      | some .full, [] =>
          .seq (setOptions fun p => { p with action := some .full, source := [] }) shiftFails
      | some .incremental, source :: rest =>
          .seq (setOptions fun p => { p with action := some .incremental, source := source })
            (readOptions rest)
      | some .incremental, [] =>
          .seq (setOptions fun p => { p with action := some .incremental, source := [] }) shiftFails
      | some .list, args =>
          .seq (setOptions fun p => { p with action := some .list }) (readOptions args)
      | some .restore, file :: dest :: rest =>
          .seq (setOptions fun p =>
              { p with action := some .restore, backupFile := file, dest := dest })
            (readOptions rest)
      | some .restore, args =>
          .seq (setOptions fun p =>
              { p with action := some .restore, backupFile := args.headD [], dest := [] })
            shiftFails
      | some .cleanup, args =>
          .seq (setOptions fun p => { p with action := some .cleanup }) (readOptions args)
      | some .verify, file :: rest =>
          .seq (setOptions fun p => { p with action := some .verify, backupFile := file })
            (readOptions rest)
      | some .verify, [] =>
          .seq (setOptions fun p => { p with action := some .verify, backupFile := [] }) shiftFails
      | some .dryRun, _ => .seq printText (.exit 0)
      | some .keep, n :: rest =>
          .seq (setOptions fun p => { p with keep := n }) (readOptions rest)
      | some .keep, [] => .seq (setOptions fun p => { p with keep := [] }) shiftFails
      | some .help, _ => .seq printText (.exit 0)
      | none, _ => .seq printText (.exit 1)

/-- The `case $action`. -/
def perform (o : Options) : Cmd State :=
  match o.action with
  | some .full => .seq (backupFullTar w o.source) (cleanupOldBackups w)
  | some .incremental => .seq (backupIncrementalRsync w o.source) (cleanupOldBackups w)
  | some .list => listBackups
  | some .restore => restoreBackup w o.backupFile o.dest
  | some .cleanup => cleanupOldBackups w
  | some .verify => verifyBackup w o.backupFile
  | none => printText

/-- The script from its first check to the action. -/
def main (args : List CStr) : Cmd State := .call <| block [
  checkRoot w, setupBackupDirs w, readOptions args, .given fun s => perform w s.options]

end Functions

/-! ## The options -/

/-- An option with its operands. -/
inductive Opt
  | full (source : CStr)
  | incremental (source : CStr)
  | list
  | restore (file dest : CStr)
  | cleanup
  | verify (file : CStr)
  | keep (n : CStr)

/-- The words of an option on the command line. -/
def Opt.words : Opt → List CStr
  | .full source => [Flag.full.text, source]
  | .incremental source => [Flag.incremental.text, source]
  | .list => [Flag.list.text]
  | .restore file dest => [Flag.restore.text, file, dest]
  | .cleanup => [Flag.cleanup.text]
  | .verify file => [Flag.verify.text, file]
  | .keep n => [Flag.keep.text, n]

/-- What an option sets. -/
def Opt.apply : Opt → Options → Options
  | .full source, o => { o with action := some .full, source := source }
  | .incremental source, o => { o with action := some .incremental, source := source }
  | .list, o => { o with action := some .list }
  | .restore file dest, o =>
      { o with action := some .restore, backupFile := file, dest := dest }
  | .cleanup, o => { o with action := some .cleanup }
  | .verify file, o => { o with action := some .verify, backupFile := file }
  | .keep n, o => { o with keep := n }

/-- What a command line of complete options sets: of each kind, the last one given. -/
def chosen (opts : List Opt) (o : Options) : Options := opts.foldl (fun o p => p.apply o) o

/-- `c` reads `args`: they are complete options and it sets what they say, or it ends the script
with nothing done. -/
def Reads (c : Cmd State) (args : List CStr) : Prop :=
  (∃ opts : List Opt, args = opts.flatMap Opt.words ∧
    ∀ s, c.eval true s = .next { s with options := chosen opts s.options } 0) ∨
  ∀ s, ∃ o st, c.eval true s = .exit { s with options := o } st

lemma Reads.option {c : Cmd State} {rest : List CStr} (h : Reads c rest) (p : Opt) :
    Reads (.seq (setOptions p.apply) c) (p.words ++ rest) := by
  have hset : ∀ s : State, (setOptions p.apply).eval true s
      = .next { s with options := p.apply s.options } 0 := fun s => settle_zero _ _
  rcases h with ⟨opts, rfl, hnext⟩ | hexit
  · refine Or.inl ⟨p :: opts, rfl, fun s => ?_⟩
    rw [eval_seq_next (hset s), hnext]
    rfl
  · refine Or.inr fun s => ?_
    rw [eval_seq_next (hset s)]
    exact hexit _

/-- Too few operands: the failed `shift` ends the script. -/
lemma reads_shiftFails (f : Options → Options) (args : List CStr) :
    Reads (.seq (setOptions f) shiftFails) args :=
  Or.inr fun s => ⟨f s.options, 1, rfl⟩

lemma reads_exit (st : ℕ) (args : List CStr) : Reads (.seq printText (.exit st)) args :=
  Or.inr fun s => ⟨s.options, st, rfl⟩

/-- **The `while` loop reads exactly the complete options.**  By induction over the loop, one case
for each pattern of the `case`. -/
lemma readOptions_reads (args : List CStr) : Reads (readOptions args) args := by
  fun_induction readOptions args with
  | case1 => exact Or.inl ⟨[], rfl, fun s => eval_skip⟩
  | case2 o source rest hflag ih =>
      rw [eq_text_of_flagOf hflag]
      exact Reads.option ih (.full source)
  | case4 o source rest hflag ih =>
      rw [eq_text_of_flagOf hflag]
      exact Reads.option ih (.incremental source)
  | case6 o args hflag ih =>
      rw [eq_text_of_flagOf hflag]
      exact Reads.option ih .list
  | case7 o file dest rest hflag ih =>
      rw [eq_text_of_flagOf hflag]
      exact Reads.option ih (.restore file dest)
  | case9 o args hflag ih =>
      rw [eq_text_of_flagOf hflag]
      exact Reads.option ih .cleanup
  | case10 o file rest hflag ih =>
      rw [eq_text_of_flagOf hflag]
      exact Reads.option ih (.verify file)
  | case13 o n rest hflag ih =>
      rw [eq_text_of_flagOf hflag]
      exact Reads.option ih (.keep n)
  | case3 | case5 | case8 | case11 | case14 => exact reads_shiftFails _ _
  | case12 | case15 | case16 => exact reads_exit _ _

/-! ## What is done -/

/-- The operation is one the chosen action calls for, with its operands, and it went as the program
that did it reported. -/
def Op.Of (w : World) (o : Options) : Op → Prop
  | .tar source ok => o.action = some .full ∧ source = o.source ∧ ok = w.tarOk
  | .checksum => o.action = some .full
  | .rsync source ok => o.action = some .incremental ∧ source = o.source ∧ ok = w.rsyncOk
  | .rm _ => o.action = some .full ∨ o.action = some .incremental ∨ o.action = some .cleanup
  | .extract file dest ok =>
      o.action = some .restore ∧ file = o.backupFile ∧ dest = o.dest ∧ ok = w.extractOk
  | .verify file ok =>
      o.action = some .verify ∧ file = o.backupFile ∧ ok = w.checksumMatches file

section Done

variable {w : World} {o : Options}

/-- A simple command that only does what the action calls for. -/
def Does (w : World) (o : Options) (f : State → State × ℕ) : Prop :=
  ∀ s, (∀ op ∈ s.ops, op.Of w o) → ∀ op ∈ (f s).1.ops, op.Of w o

lemma does_of_ops {f : State → State × ℕ} (h : ∀ s, (f s).1.ops = s.ops) : Does w o f :=
  fun s hs => by rw [h s]; exact hs

lemma does_append {f : State → State × ℕ} (op : Op) (hop : op.Of w o)
    (h : ∀ s, (f s).1.ops = s.ops ∨ (f s).1.ops = s.ops ++ [op]) : Does w o f := by
  intro s hs
  rcases h s with heq | heq <;> rw [heq]
  · exact hs
  · exact List.forall_mem_append.mpr ⟨hs, List.forall_mem_singleton.mpr hop⟩

lemma within_skip : (skip : Cmd State).Within (Does w o) := does_of_ops fun _ => rfl

lemma within_test (p : State → Bool) : (test p).Within (Does w o) := does_of_ops fun _ => rfl

lemma within_logMessage : (logMessage w).Within (Does w o) := does_of_ops fun _ => rfl

lemma within_logRet (st : ℕ) : (block [logMessage w, .ret st]).Within (Does w o) :=
  ⟨within_logMessage, trivial⟩

lemma within_cleanupOldBackups
    (h : o.action = some .full ∨ o.action = some .incremental ∨ o.action = some .cleanup) :
    (cleanupOldBackups w).Within (Does w o) := by
  have hrm : ∀ name, (rmCommand w name).Within (Does w o) := fun name =>
    does_append (.rm name) h fun s => by
      simp only
      split
      · exact Or.inr rfl
      · exact Or.inl rfl
  have hloop : ∀ names, (each names (removeOne w)).Within (Does w o) := fun names =>
    within_each (does_of_ops fun _ => rfl) fun old => ⟨hrm old, hrm _, within_logMessage⟩
  exact ⟨within_logMessage, ⟨within_test _, fun s => ⟨hloop _, fun _ => does_of_ops fun _ => rfl⟩,
    within_skip⟩, within_skip⟩

lemma within_perform (w : World) (o : Options) : (perform w o).Within (Does w o) := by
  unfold perform
  split
  · next h =>
      refine ⟨⟨within_logMessage, ?_, ⟨within_logMessage, ?_, within_logMessage, trivial⟩,
        within_logRet 1⟩, within_cleanupOldBackups (Or.inl h)⟩
      · exact does_append (.tar o.source w.tarOk) ⟨h, rfl, rfl⟩ fun s => Or.inr rfl
      · refine does_append .checksum h fun s => ?_
        simp only
        split
        · exact Or.inr rfl
        · exact Or.inl rfl
  · next h =>
      refine ⟨⟨within_logMessage, ⟨within_test _, within_logRet 1, within_skip⟩, within_test _, ?_,
        within_logRet 0, within_logRet 1⟩, within_cleanupOldBackups (Or.inr (Or.inl h))⟩
      exact does_append (.rsync o.source w.rsyncOk) ⟨h, rfl, rfl⟩ fun s => Or.inr rfl
  · exact within_skip
  · next h =>
      refine ⟨within_logMessage, ⟨within_test _, within_logRet 1, within_skip⟩, within_test _, ?_,
        within_logRet 0, within_logRet 1⟩
      exact does_append (.extract o.backupFile o.dest w.extractOk) ⟨h, rfl, rfl, rfl⟩
        fun s => Or.inr rfl
  · next h => exact within_cleanupOldBackups (Or.inr (Or.inr h))
  · next h =>
      refine ⟨within_logMessage, within_test _, ⟨?_, within_logRet 0, within_logRet 1⟩,
        within_logRet 1⟩
      exact does_append (.verify o.backupFile (w.checksumMatches o.backupFile))
        ⟨h, rfl, rfl⟩ fun s => Or.inr rfl
  · exact within_skip

end Done

/-- The script at its start. -/
def start (dir : List DirFile) : State := ⟨{}, 0, 0, dir, []⟩

/-- Before the options are read nothing is done but logging. -/
def Idle (o : Options) (dir : List DirFile) (s : State) : Prop :=
  s.options = o ∧ s.dir = dir ∧ s.ops = []

lemma checkRoot_keeps (w : World) (o : Options) (dir : List DirFile) :
    (checkRoot w).Within fun f => ∀ s, Idle o dir s → Idle o dir (f s).1 :=
  ⟨fun _ h => h, trivial, fun _ h => h⟩

lemma setupBackupDirs_keeps (w : World) (o : Options) (dir : List DirFile) :
    (setupBackupDirs w).Within fun f => ∀ s, Idle o dir s → Idle o dir (f s).1 :=
  ⟨fun _ h => h, fun _ h => h, fun _ h => h, fun _ h => h, fun _ h => h, trivial⟩

/-- The script ends before it does anything, or its arguments are complete options and it does what
they choose. -/
lemma main_cases (w : World) (args : List CStr) (dir : List DirFile) :
    (((main w args).script (start dir)).1.ops = [] ∧
      ((main w args).script (start dir)).1.dir = dir) ∨
    ∃ (opts : List Opt) (s : State), args = opts.flatMap Opt.words ∧
      Idle (chosen opts {}) dir s ∧
      (main w args).script (start dir) = (perform w (chosen opts {})).script s := by
  have hstart : Idle {} dir (start dir) := ⟨rfl, rfl, rfl⟩
  simp only [main, script_call, block]
  rcases script_seq (checkRoot w) _ (start dir) with ⟨s₁, st₁, h₁, hseq⟩ | hseq
  · have hidle₁ := keeps_next (checkRoot_keeps w {} dir) hstart h₁
    rw [hseq]
    rcases script_seq (setupBackupDirs w) _ s₁ with ⟨s₂, st₂, h₂, hseq⟩ | hseq
    · have hidle₂ := keeps_next (setupBackupDirs_keeps w {} dir) hidle₁ h₂
      rw [hseq]
      rcases readOptions_reads args with ⟨opts, hargs, hnext⟩ | hexit
      · refine Or.inr ⟨opts, { s₂ with options := chosen opts s₂.options }, hargs,
          ⟨by rw [hidle₂.1], hidle₂.2⟩, ?_⟩
        rw [script_seq_next (hnext s₂)]
        simp only [script, eval_given, hidle₂.1]
      · obtain ⟨o, st, heq⟩ := hexit s₂
        rw [script_seq_exit heq]
        exact Or.inl ⟨hidle₂.2.2, hidle₂.2.1⟩
    · rw [hseq]
      have hidle₂ := keeps_script (setupBackupDirs_keeps w {} dir) hidle₁
      exact Or.inl ⟨hidle₂.2.2, hidle₂.2.1⟩
  · rw [hseq]
    have hidle₁ := keeps_script (checkRoot_keeps w {} dir) hstart
    exact Or.inl ⟨hidle₁.2.2, hidle₁.2.1⟩

lemma perform_of {w : World} {o : Options} {dir : List DirFile} {s : State} (h : Idle o dir s) :
    ∀ op ∈ ((perform w o).script s).1.ops, op.Of w o := by
  have hnone : ∀ op ∈ s.ops, op.Of w o := by
    rw [h.2.2]
    simp
  exact keeps_script (I := fun s : State => ∀ op ∈ s.ops, op.Of w o) (within_perform w o) hnone

/-- **The script does what the last action on its command line says, or nothing.**  Whatever the
arguments are and whichever commands fail: if anything is done to a backup, the arguments are a
sequence of complete options, and every operation belongs to the last action given, with the
operands last given for it. -/
theorem operations_of_last_action (w : World) (args : List CStr) (dir : List DirFile) {op : Op}
    (hop : op ∈ ((main w args).script (start dir)).1.ops) :
    ∃ opts : List Opt, args = opts.flatMap Opt.words ∧ op.Of w (chosen opts {}) := by
  rcases main_cases w args dir with ⟨hops, -⟩ | ⟨opts, s, hargs, hidle, hscript⟩
  · rw [hops] at hop
    exact absurd hop (by simp)
  · refine ⟨opts, hargs, ?_⟩
    rw [hscript] at hop
    exact perform_of hidle op hop

/-- A night on which everything works but, as it may be, `tar`. -/
def oneNight (tarOk : Bool) : World where
  root := true
  logOk := fun _ => true
  dirsOk := true
  run := nightly 0
  tarOk := tarOk
  tarLeft := true
  checksumOk := true
  rsyncFound := true
  mkdirOk := true
  rsyncOk := true
  rmOk := fun _ => true
  isFile := fun _ => true
  extractOk := true
  checksumMatches := fun _ => true

/-- `--cleanup --full /d`: the first action is forgotten. -/
def cleanupThenFull : List CStr := [Flag.cleanup.text, Flag.full.text, ['/', 'd']]

/-- The archive is made, and nothing is cleaned up. -/
theorem operations_of_last_action_full :
    ∃ opts : List Opt, cleanupThenFull = opts.flatMap Opt.words ∧
      (Op.tar ['/', 'd'] true).Of (oneNight true) (chosen opts {}) :=
  operations_of_last_action (oneNight true) cleanupThenFull [] (by decide +kernel)

/-! ## A backup that fails -/

/-- Nothing has been removed, and of the files in `dir` all are still there but for the two that
this run writes. -/
def Spared (w : World) (dir : List DirFile) (s : State) : Prop :=
  (∀ name, .rm name ∉ s.ops) ∧ ∀ f ∈ dir, f.name ≠ archiveName w.run.date →
    f.name ≠ checksumName (archiveName w.run.date) → f ∈ s.dir

lemma mem_writeFile_of_ne {dir : List DirFile} {name : CStr} {t : ℤ} {f : DirFile} (hf : f ∈ dir)
    (hne : f.name ≠ name) : f ∈ writeFile dir name t :=
  List.mem_append_left _ (List.mem_filter.mpr ⟨hf, by simpa using hne⟩)

section Fails

variable {w : World} {dir : List DirFile}

lemma Spared.append {s : State} (h : Spared w dir s) (op : Op) (hop : ∀ name, op ≠ .rm name)
    (s' : State) (hops : s'.ops = s.ops ++ [op]) (hdir : s'.dir = s.dir) : Spared w dir s' := by
  refine ⟨fun name hmem => ?_, hdir ▸ h.2⟩
  rw [hops, List.mem_append, List.mem_singleton] at hmem
  exact hmem.elim (h.1 name) fun heq => hop name heq.symm

lemma tarCreate_spares (source : CStr) :
    (tarCreate w source).Within fun f => ∀ s, Spared w dir s → Spared w dir (f s).1 := by
  intro s h
  refine ⟨(h.append (.tar source w.tarOk) (by simp) { s with ops := _ } rfl rfl).1,
    fun f hf hne hne' => ?_⟩
  have hmem := h.2 f hf hne hne'
  simp only
  split
  · exact mem_writeFile_of_ne hmem hne
  · exact hmem

lemma writeChecksum_spares :
    (writeChecksum w).Within fun f => ∀ s, Spared w dir s → Spared w dir (f s).1 := by
  intro s h
  simp only
  split
  · exact ⟨(h.append .checksum (by simp) { s with ops := _ } rfl rfl).1,
      fun f hf hne hne' => mem_writeFile_of_ne (h.2 f hf hne hne') hne'⟩
  · exact h

lemma backupFullTar_spares (source : CStr) :
    (backupFullTar w source).Within fun f => ∀ s, Spared w dir s → Spared w dir (f s).1 :=
  ⟨fun _ h => h, tarCreate_spares source,
    ⟨fun _ h => h, writeChecksum_spares, fun _ h => h, trivial⟩, fun _ h => h, trivial⟩

lemma backupIncrementalRsync_spares (source : CStr) :
    (backupIncrementalRsync w source).Within fun f => ∀ s, Spared w dir s → Spared w dir (f s).1 :=
  ⟨fun _ h => h, ⟨fun _ h => h, ⟨fun _ h => h, trivial⟩, fun _ h => h⟩, fun _ h => h,
    fun _ h => h.append (.rsync source w.rsyncOk) (by simp) _ rfl rfl,
    ⟨fun _ h => h, trivial⟩, fun _ h => h, trivial⟩

/-- `backup_full_tar` does not come back from a `tar` that fails: what it returns ends the
script. -/
lemma backupFullTar_fails (h : w.tarOk = false) (source : CStr) (s : State) :
    ∃ s' st, (backupFullTar w source).eval true s = .exit s' st ∧ st ≠ 0 := by
  cases hlog : w.logOk s.logged <;> cases hlog' : w.logOk (s.logged + 1) <;>
    simp [backupFullTar, block, logMessage, tarCreate, settle, status, hlog, hlog', h,
      Outcome.state, Outcome.status]

lemma backupIncrementalRsync_fails (h : w.rsyncOk = false) (source : CStr) (s : State) :
    ∃ s' st, (backupIncrementalRsync w source).eval true s = .exit s' st ∧ st ≠ 0 := by
  cases hlog : w.logOk s.logged <;> cases hlog' : w.logOk (s.logged + 1) <;>
    cases hfound : w.rsyncFound <;> cases hmkdir : w.mkdirOk <;>
      simp [backupIncrementalRsync, block, logMessage, test, settle, status, hlog, hlog', h,
        hfound, hmkdir, Outcome.state, Outcome.status]

/-- The rest of the script is not reached when the backup ends it. -/
lemma spared_of_exit {a : Cmd State} (b : Cmd State) {s : State} (hs : Spared w dir s)
    (ha : a.Within fun f => ∀ s, Spared w dir s → Spared w dir (f s).1)
    (hexit : ∃ s' st, a.eval true s = .exit s' st ∧ st ≠ 0) :
    ((Cmd.seq a b).script s).2 ≠ 0 ∧ Spared w dir ((Cmd.seq a b).script s).1 := by
  obtain ⟨s', st, heq, hst⟩ := hexit
  have hkept := eval_keeps ha (e := true) hs
  rw [heq] at hkept
  rw [script_seq_exit heq]
  exact ⟨hst, hkept⟩

end Fails

/-- **A backup that fails costs nothing.**  If the run has tried a backup and `tar` or `rsync` has
failed, the script reports failure and old backups are not cleaned up: no file is removed, and
everything in `/backup/full` but the two files of this run is as it was. -/
theorem failed_backup_removes_nothing (w : World) (args : List CStr) (dir : List DirFile)
    (source : CStr) (hfail : .tar source false ∈ ((main w args).script (start dir)).1.ops ∨
      .rsync source false ∈ ((main w args).script (start dir)).1.ops) :
    ((main w args).script (start dir)).2 ≠ 0 ∧
      (∀ name, .rm name ∉ ((main w args).script (start dir)).1.ops) ∧
      ∀ f ∈ dir, f.name ≠ archiveName w.run.date →
        f.name ≠ checksumName (archiveName w.run.date) →
        f ∈ ((main w args).script (start dir)).1.dir := by
  rcases main_cases w args dir with ⟨hops, -⟩ | ⟨opts, s, -, hidle, hscript⟩
  · rw [hops] at hfail
    exact absurd hfail (by simp)
  rw [hscript] at hfail ⊢
  have hspared : Spared w dir s := ⟨by simp [hidle.2.2], fun f hf _ _ => hidle.2.1 ▸ hf⟩
  have hof := perform_of (w := w) hidle
  rcases hfail with hmem | hmem
  · obtain ⟨haction, -, hok⟩ := hof _ hmem
    simp only [perform, haction]
    exact spared_of_exit _ hspared (backupFullTar_spares _) (backupFullTar_fails hok.symm _ s)
  · obtain ⟨haction, -, hok⟩ := hof _ hmem
    simp only [perform, haction]
    exact spared_of_exit _ hspared (backupIncrementalRsync_spares _)
      (backupIncrementalRsync_fails hok.symm _ s)

/-- A file from an earlier night. -/
def oldArchive : DirFile := ⟨['o', 'l', 'd'], 1⟩

/-- `tar` fails; the script does too, and the old file is still there. -/
theorem failed_backup_removes_nothing_tar :
    ((main (oneNight false) cleanupThenFull).script (start [oldArchive])).2 ≠ 0 ∧
      oldArchive ∈ ((main (oneNight false) cleanupThenFull).script (start [oldArchive])).1.dir := by
  obtain ⟨hstatus, -, hdir⟩ := failed_backup_removes_nothing (oneNight false) cleanupThenFull
    [oldArchive] ['/', 'd'] (Or.inl (by decide +kernel))
  exact ⟨hstatus, hdir oldArchive (by simp) (by decide +kernel) (by decide +kernel)⟩

/-! ## A backup that succeeds -/

section Succeeds

variable {w : World}

end Succeeds

lemma Flag.text_injective : Function.Injective Flag.text := by
  intro f g h
  cases f <;> cases g <;> first | rfl | exact absurd h (by decide)

end Storage.AutoBackup

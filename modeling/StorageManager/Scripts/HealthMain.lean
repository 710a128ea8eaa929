import StorageManager.Lib.Script
import StorageManager.Scripts.DiskCheck
import StorageManager.Scripts.HealthCheck

/-!
# `health_check.sh` as a whole

The functions of the script, written down as commands of `Lib/Script.lean`.  The script has two ways
to say that something is wrong.  `overall_status` leads to the verdict `REVISAR`; only
`check_filesystem` can set it, and never does.  The rest is left to `set -e`: a check that returns 1
ends the script before the report is written and before there is a verdict.

**Full file systems.**  `check_filesystem` goes through the table of `df` in a loop at the end of a
pipe.  The loop is right about the rows it looks at (`exitCode_rows`), but it runs in a subshell:
what it assigns to `exit_code` is gone when it ends, and the function returns 0 whatever the table
says (`eval_checkFilesystem`).  So a full file system is reported exactly if there is none
(`full_filesystem_reported_iff`).

**The verdict** is `SALUDABLE` or there is none (`health_verdict`), and the file systems have no
part in it.
-/

namespace Storage.HealthCheck

open CString Script Script.Cmd

/-- What the script finds.  `logOk n` is the `tee` of message `n`; the rows of `vgs` and `lvs` are
as `read` splits them; `partitions` are the lines of `df -h` as far as `awk` prints them, and
`kernelErrors` is the number `wc -l` prints. -/
structure World where
  root : Bool
  logOk : ℕ → Bool
  mdstat : Option CStr
  detail : CStr → CStr
  lvm : Bool
  vgs : List (CStr × CStr)
  lvs : List (CStr × CStr × CStr)
  df : DfEnv
  partitions : List CStr
  pidfile : Option CStr
  alive : CStr → Bool
  kernelErrors : ℕ
  reportOpens : Bool
  uptimeOk : Bool
  dfOk : Bool
  dfInodesOk : Bool
  reportName : CStr

/-- The messages tried and those in the log, `exit_code`, `overall_status`, and whether the report
has been written to its end. -/
structure State where
  tried : ℕ
  log : List LogEntry
  exitCode : ℕ
  overall : ℕ
  report : Bool

/-- Nothing has been logged, and the variables are 0. -/
def start : State := ⟨0, [], 0, 0, false⟩

/-- A subshell gives back what it wrote, and none of its variables. -/
def leave (s s' : State) : State := { s' with exitCode := s.exitCode, overall := s.overall }

section Functions

variable (w : World)

/-- `log_message`: the entry it adds, and the status of its `tee`. -/
def logMessage (level message : CStr) : Cmd State := .run fun s =>
  ({ s with
      tried := s.tried + 1
      log := if w.logOk s.tried then s.log ++ [⟨level, message⟩] else s.log },
    status (w.logOk s.tried))

/-- `send_alert`: what it logs. -/
def sendAlert (subject message : CStr) : Cmd State :=
  logMessage w "ALERT".toList (subject ++ ": ".toList ++ message)

/-- `check_root`. -/
def checkRoot : Cmd State := .call (.ite (test fun _ => !w.root) (.exit 1) skip)

/-! ### `check_raid` -/

/-- The body of the loop over the arrays. -/
def raidOne (array : CStr) : Cmd State :=
  let device := "/dev/".toList ++ array
  let state := raidState (w.detail device)
  .ite (test fun _ => !decide (Accepted (w.detail device)))
    (block [
      sendAlert w "RAID Alert".toList
        ("Array ".toList ++ device ++ " en estado: ".toList ++ state),
      logMessage w "ERROR".toList ("RAID ".toList ++ device ++ " degradado: ".toList ++ state),
      .ret 1])
    (logMessage w "INFO".toList ("RAID ".toList ++ device ++ ": OK (".toList ++ state ++ [')']))

/-- `check_raid`. -/
def checkRaid : Cmd State := .call <| block [
  logMessage w "INFO".toList "Verificando arrays RAID...".toList,
  .ite (test fun _ => w.mdstat.isNone)
    (block [logMessage w "INFO".toList "RAID no configurado (esto es normal)".toList, .ret 0])
    skip,
  .ite (test fun _ => (raidArrays (w.mdstat.getD [])).isEmpty)
    (block [
      logMessage w "INFO".toList "No hay arrays RAID configurados (esto es normal)".toList,
      .ret 0])
    skip,
  each (raidArrays (w.mdstat.getD [])) (raidOne w),
  .ret 0]

/-! ### `check_lvm` -/

/-- `[[ $attrs == *"p"* ]]`. -/
def vgOne (row : CStr × CStr) : Cmd State :=
  .ite (test fun _ => row.2.contains 'p')
    (block [
      logMessage w "ERROR".toList
        ("VG ".toList ++ row.1 ++ " con problemas en atributos: ".toList ++ row.2),
      .ret 1])
    (logMessage w "INFO".toList ("VG ".toList ++ row.1 ++ ": OK".toList))

/-- `[[ $attrs == *"i"* ]]`. -/
def lvOne (row : CStr × CStr × CStr) : Cmd State :=
  let name := row.2.1 ++ '/' :: row.1
  .ite (test fun _ => row.2.2.contains 'i')
    (block [
      logMessage w "ERROR".toList ("LV ".toList ++ name ++ " inactivo".toList),
      .ret 1])
    (logMessage w "INFO".toList ("LV ".toList ++ name ++ ": OK".toList))

/-- Both loops are at the end of a pipe: their `return 1` ends a subshell, and it is the failing
pipe that ends the script. -/
def checkLvm : Cmd State := .call <| block [
  logMessage w "INFO".toList "Verificando volúmenes LVM...".toList,
  .ite (test fun _ => !w.lvm)
    (block [logMessage w "INFO".toList "LVM no instalado (esto es normal)".toList, .ret 0])
    skip,
  .ite (test fun _ => w.vgs.isEmpty)
    (block [
      logMessage w "INFO".toList "No hay Volume Groups configurados (esto es normal)".toList,
      .ret 0])
    skip,
  .subshell leave (each w.vgs (vgOne w)),
  .subshell leave (each w.lvs (lvOne w)),
  .ret 0]

/-! ### `check_filesystem` -/

/-- The assignment to `exit_code`. -/
def setExitCode (n : ℕ) : Cmd State := .run fun s => ({ s with exitCode := n }, 0)

/-- The body of the loop over the table of `df`. -/
def filesystemOne (r : DfRow) : Cmd State :=
  let line := w.df.echoed r.line
  let mount := awkField 5 line
  let use := dropPercent (awkField 4 line)
  let inode := inodeUse w.df mount
  block [
    .ite (test fun _ => specialMount mount) .cont skip,
    .ite (test fun _ => !isNumeric use) .cont skip,
    .ite (test fun _ => testGe use alertThresholdDisk)
      (block [
        sendAlert w "Disk Space Alert".toList
          (mount ++ " está al ".toList ++ use ++ "% de capacidad".toList),
        logMessage w "ERROR".toList (mount ++ " al ".toList ++ use ++ "% de capacidad".toList),
        setExitCode 1])
      (.ite (test fun _ => testGe use 75)
        (logMessage w "WARN".toList (mount ++ " al ".toList ++ use ++ "% de capacidad".toList))
        (logMessage w "INFO".toList (mount ++ ": OK (".toList ++ use ++ "%)".toList))),
    .ite (test fun _ => isNumeric inode && testGe inode alertThresholdInode)
      (block [
        sendAlert w "Inode Alert".toList
          (mount ++ " tiene ".toList ++ inode ++ "% inodos usados".toList),
        logMessage w "ERROR".toList (mount ++ ": ".toList ++ inode ++ "% inodos usados".toList),
        setExitCode 1])
      skip]

/-- `check_filesystem`.  Its loop is the end of a pipe, and so a subshell. -/
def checkFilesystem : Cmd State := .call <| block [
  logMessage w "INFO".toList "Verificando filesystems...".toList,
  setExitCode 0,
  .subshell leave (each w.df.rows (filesystemOne w)),
  .given fun s => .ret s.exitCode]

/-! ### The other checks -/

/-- The body of the loop of `check_disk_space`. -/
def partitionOne (output : CStr) : Cmd State :=
  let line := w.df.echoed output
  let usage := (awkField 0 line).filter (· != '%')
  let partition := awkField 1 line
  block [
    .ite (test fun _ => !isNumeric usage) .cont skip,
    .ite (test fun _ => testGe usage alertThresholdDisk)
      (block [
        sendAlert w "Disk Alert".toList
          ("Partición ".toList ++ partition ++ " al ".toList ++ usage ++ ['%']),
        logMessage w "ERROR".toList
          ("Partición ".toList ++ partition ++ " al ".toList ++ usage ++ ['%'])])
      skip]

/-- `check_disk_space`. -/
def checkDiskSpace : Cmd State := .call <| block [
  logMessage w "INFO".toList "Verificando espacio en disco...".toList,
  .subshell leave (each w.partitions (partitionOne w))]

/-- `check_daemon`. -/
def checkDaemon : Cmd State := .call <| block [
  logMessage w "INFO".toList "Verificando daemon de almacenamiento...".toList,
  .ite (test fun _ => w.pidfile.isSome)
    (.ite (test fun _ => w.alive (w.pidfile.getD []))
      (block [
        logMessage w "INFO".toList
          ("Daemon activo (PID: ".toList ++ w.pidfile.getD [] ++ [')']),
        .ret 0])
      (block [
        logMessage w "ERROR".toList "Daemon no activo - PID file obsoleto".toList,
        .ret 1]))
    (block [logMessage w "INFO".toList "Daemon no activo".toList, .ret 0])]

/-- `check_kernel_errors`. -/
def checkKernelErrors : Cmd State := .call <| block [
  logMessage w "INFO".toList "Verificando errores del kernel...".toList,
  .ite (test fun _ => decide (0 < w.kernelErrors))
    (logMessage w "INFO".toList ("Mensajes en kernel: ".toList ++ decimal w.kernelErrors))
    (logMessage w "INFO".toList "Sin mensajes críticos en kernel".toList)]

/-- The commands of the group that are not followed by `||` are `uptime`, the two `df` and what
cannot fail. -/
def generateReport : Cmd State := .call <| block [
  test fun _ => w.reportOpens,
  test fun _ => w.uptimeOk,
  test fun _ => w.dfOk,
  test fun _ => w.dfInodesOk,
  .run fun s => ({ s with report := true }, 0),
  logMessage w "INFO".toList ("Reporte generado: ".toList ++ w.reportName)]

/-- The assignment to `overall_status`. -/
def setOverall (n : ℕ) : Cmd State := .run fun s => ({ s with overall := n }, 0)

/-- The function `main`, which is the whole script. -/
def main : Cmd State := .call <| block [
  checkRoot w,
  setOverall 0,
  checkRaid w,
  checkLvm w,
  .either (checkFilesystem w) (setOverall 1),
  checkDiskSpace w,
  checkDaemon w,
  checkKernelErrors w,
  generateReport w,
  .ite (test fun s => s.overall == 0)
    (logMessage w healthyEntry.level healthyEntry.message)
    (logMessage w reviewEntry.level reviewEntry.message),
  .given fun s => .exit s.overall]

end Functions

/-! ## What the exit status depends on -/

variable {w : World}

/-- No volume group has a `p` among its attributes and no volume an `i`.  The volumes are only
looked at if there are groups. -/
def World.LvmOk (w : World) : Prop :=
  w.lvm = true → w.vgs ≠ [] → (∀ row ∈ w.vgs, 'p' ∉ row.2) ∧ ∀ row ∈ w.lvs, 'i' ∉ row.2.2

/-- A file with the daemon's pid is that of a process. -/
def World.DaemonOk (w : World) : Prop := ∀ pid ∈ w.pidfile, w.alive pid = true

/-- The commands of the report that can fail do not. -/
def World.ReportOk (w : World) : Prop :=
  w.reportOpens = true ∧ w.uptimeOk = true ∧ w.dfOk = true ∧ w.dfInodesOk = true

/-- What the script requires, the log apart.  The table of `df` is not in it. -/
structure World.Healthy (w : World) : Prop where
  root : w.root = true
  raid : Storage.checkRaid w.mdstat w.detail = 0
  lvm : w.LvmOk
  daemon : w.DaemonOk
  report : w.ReportOk

/-- Every message reaches the log. -/
def World.Logs (w : World) : Prop := ∀ n, w.logOk n = true

/-! ## The state between two checks -/

/-- What is on disk: no verdict `REVISAR`, and a report only if the system is healthy. -/
def Quiet (w : World) (s : State) : Prop :=
  reviewEntry ∉ s.log ∧ (s.report = true → w.Healthy)

/-- The same, with `overall_status` still 0. -/
def Calm (w : World) (s : State) : Prop := s.overall = 0 ∧ Quiet w s

/-- A command that goes on if `C`, and otherwise fails; it also fails if it cannot log. -/
def Told (w : World) (C : Prop) : Outcome State → Prop
  | .next s st => Calm w s ∧ st = 0 ∧ C
  | .cont _ => False
  | .ret s st => Calm w s ∧ st ≠ 0 ∧ ¬ C
  | .exit s st => Calm w s ∧ st ≠ 0 ∧ ¬ (w.Logs ∧ C)

/-- The same for the body of a function, which may also return early with 0. -/
def Checked (w : World) (C : Prop) : Outcome State → Prop
  | .ret s st => Calm w s ∧ (st = 0 ↔ C)
  | o => Told w C o

lemma Told.checked {C : Prop} {o : Outcome State} (h : Told w C o) : Checked w C o := by
  cases o with
  | ret s st => exact ⟨h.1, iff_of_false h.2.1 h.2.2⟩
  | next s st | cont s | exit s st => exact h

section Rules

variable {C D : Prop} {a b : Cmd State}

lemma quiet_log {s : State} (h : Quiet w s) {level message : CStr}
    (hne : LogEntry.mk level message ≠ reviewEntry) (ok : Bool) :
    reviewEntry ∉ if ok then s.log ++ [⟨level, message⟩] else s.log := by
  cases ok with
  | true => simpa [h.1] using hne.symm
  | false => exact h.1

lemma ne_reviewEntry {level : CStr} (h : level ≠ reviewEntry.level) (message : CStr) :
    LogEntry.mk level message ≠ reviewEntry := fun heq => h (congrArg LogEntry.level heq)

lemma info_ne (message : CStr) : LogEntry.mk "INFO".toList message ≠ reviewEntry :=
  ne_reviewEntry (by decide) message

lemma error_ne (message : CStr) : LogEntry.mk "ERROR".toList message ≠ reviewEntry :=
  ne_reviewEntry (by decide) message

lemma alert_ne (message : CStr) : LogEntry.mk "ALERT".toList message ≠ reviewEntry :=
  ne_reviewEntry (by decide) message

lemma log_told {level message : CStr} (hne : LogEntry.mk level message ≠ reviewEntry) :
    Triple true (Calm w) (logMessage w level message) (Told w True) := by
  refine triple_run fun s hs => ?_
  have hlog := quiet_log hs.2 hne (w.logOk s.tried)
  cases hok : w.logOk s.tried with
  | true =>
      rw [hok] at hlog
      exact ⟨⟨hs.1, hlog, hs.2.2⟩, rfl, trivial⟩
  | false => exact ⟨⟨hs.1, hs.2⟩, Nat.one_ne_zero, fun h => absurd (h.1 s.tried) (by simp [hok])⟩

/-- A test that is not tested itself. -/
lemma test_told (p : Bool) : Triple true (Calm w) (test fun _ => p) (Told w (p = true)) := by
  refine triple_run fun s hs => ?_
  cases p with
  | true => exact ⟨hs, rfl, rfl⟩
  | false => exact ⟨hs, Nat.one_ne_zero, fun h => absurd h.2 Bool.false_ne_true⟩

lemma ret_checked {n : ℕ} (h : n = 0 ↔ D) : Triple true (Calm w) (.ret n) (Checked w D) :=
  fun _ hs => ⟨hs, h⟩

lemma seq_told (ha : Triple true (Calm w) a (Told w C)) (hD : D → C)
    (hb : C → Triple true (Calm w) b (Checked w D)) :
    Triple true (Calm w) (.seq a b) (Checked w D) := by
  refine triple_seq (triple_weaken ha fun o ho => ?_) (triple_pure hb)
  cases o with
  | next s st => exact ⟨ho.1, ho.2.2⟩
  | cont s => exact ho
  | ret s st => exact ⟨ho.1, iff_of_false ho.2.1 fun h => ho.2.2 (hD h)⟩
  | exit s st => exact ⟨ho.1, ho.2.1, fun h => ho.2.2 ⟨h.1, hD h.2⟩⟩

lemma told_exit {s : State} (hs : Calm w s) (h : ¬ w.Logs) : Told w D (.exit s 1) :=
  ⟨hs, Nat.one_ne_zero, fun hlogs => h hlogs.1⟩

/-- A message, and on. -/
lemma log_seq {level message : CStr} {Q : Outcome State → Prop}
    (hne : LogEntry.mk level message ≠ reviewEntry)
    (hexit : ∀ {s}, Calm w s → ¬ w.Logs → Q (.exit s 1)) (hb : Triple true (Calm w) b Q) :
    Triple true (Calm w) (.seq (logMessage w level message) b) Q := by
  refine triple_seq (R := Calm w) (triple_run fun s hs => ?_) hb
  have hlog := quiet_log hs.2 hne (w.logOk s.tried)
  cases hok : w.logOk s.tried with
  | true =>
      rw [hok] at hlog
      exact ⟨hs.1, hlog, hs.2.2⟩
  | false => exact hexit ⟨hs.1, hs.2⟩ fun h => absurd (h s.tried) (by simp [hok])

/-- An early `return 0`. -/
lemma guard_checked {p : Bool} {message : CStr} (hp : p = true → D)
    (hb : p = false → Triple true (Calm w) b (Checked w D)) :
    Triple true (Calm w)
      (.seq (.ite (test fun _ => p) (block [logMessage w "INFO".toList message, .ret 0]) skip) b)
      (Checked w D) := by
  cases p with
  | true =>
      -- nothing goes on from the `return`
      refine triple_seq (R := fun _ => False) (triple_ite (fun _ => ?_) (by simp))
        fun s hs => hs.elim
      exact log_seq (info_ne message) told_exit fun s hs => ⟨hs, iff_of_true rfl (hp rfl)⟩
  | false =>
      refine triple_seq (R := Calm w) (triple_ite (by simp) fun _ => ?_) (hb rfl)
      exact triple_skip fun s hs => hs

lemma told_settle {s : State} {st : ℕ} (hs : Calm w s) (hC : st = 0 → C)
    (hfail : st ≠ 0 → ¬ (w.Logs ∧ C)) : Told w C (settle true s st) := by
  by_cases hst : st = 0
  · rw [hst, settle_zero]
    exact ⟨hs, rfl, hC hst⟩
  · rw [settle_true hst]
    exact ⟨hs, hst, hfail hst⟩

lemma call_told (h : Triple true (Calm w) a (Checked w C)) :
    Triple true (Calm w) (.call a) (Told w C) := by
  refine triple_call (triple_weaken h fun o ho => ?_)
  cases o with
  | next s st => exact told_settle ho.1 (fun _ => ho.2.2) fun hst => absurd ho.2.1 hst
  | cont s => exact ho.elim
  | ret s st => exact told_settle ho.1 ho.2.mp fun hst h => hst (ho.2.mpr h.2)
  | exit s st => exact ho

lemma calm_leave {s s' : State} (hs : Calm w s) (hs' : Quiet w s') : Calm w (leave s s') :=
  ⟨hs.1, hs'⟩

lemma subshell_told (h : Triple true (Calm w) a (Told w C)) :
    Triple true (Calm w) (.subshell leave a) (Told w C) := by
  refine triple_subshell fun s₀ hs₀ => ?_
  rintro s rfl
  have ho := h s hs₀
  generalize a.eval true s = o at ho ⊢
  cases o with
  | next s' st =>
      exact told_settle (calm_leave hs₀ ho.1.2) (fun _ => ho.2.2) fun hst => absurd ho.2.1 hst
  | cont s' => exact ho.elim
  | ret s' st =>
      exact told_settle (calm_leave hs₀ ho.1.2) (fun hst => absurd hst ho.2.1) fun _ h => ho.2.2 h.2
  | exit s' st =>
      exact told_settle (calm_leave hs₀ ho.1.2) (fun hst => absurd hst ho.2.1) fun _ => ho.2.2

/-- A loop body without `continue`. -/
lemma iteration_told (h : Triple true (Calm w) a (Told w C)) :
    Triple true (Calm w) (.iteration a) (Told w C) := by
  refine triple_iteration (triple_weaken h fun o ho => ?_)
  cases o with
  | cont s => exact ho.elim
  | next s st | ret s st | exit s st => exact ho

/-- A loop that ends as soon as an element is not good. -/
lemma each_told {α : Type*} {good : α → Prop} {body : α → Cmd State}
    (h : ∀ x, Triple true (Calm w) (.iteration (body x)) (Told w (good x))) (xs : List α) :
    Triple true (Calm w) (each xs body) (Told w (∀ x ∈ xs, good x)) := by
  induction xs with
  | nil => exact triple_skip fun s hs => ⟨hs, rfl, by simp⟩
  | cons x xs ih =>
      refine triple_seq (R := fun s => Calm w s ∧ good x) (triple_weaken (h x) fun o ho => ?_)
        (triple_pure fun hx => ?_)
      · cases o with
        | next s st => exact ⟨ho.1, ho.2.2⟩
        | cont s => exact ho.elim
        | ret s st => exact ⟨ho.1, ho.2.1, fun hall => ho.2.2 (hall x List.mem_cons_self)⟩
        | exit s st =>
            exact ⟨ho.1, ho.2.1, fun hall => ho.2.2 ⟨hall.1, hall.2 x List.mem_cons_self⟩⟩
      · have heq : (∀ y ∈ x :: xs, good y) ↔ ∀ y ∈ xs, good y := by
          rw [List.forall_mem_cons, and_iff_right hx]
        rwa [propext heq]

/-- An element that is passed over. -/
lemma continue_told {p : Bool} (hb : Triple true (Calm w) b (Told w True)) :
    Triple true (Calm w) (.iteration (.seq (.ite (test fun _ => p) .cont skip) b))
      (Told w True) := by
  cases p with
  | true =>
      refine triple_iteration (triple_seq (R := fun _ => False)
        (triple_ite (fun _ s hs => ⟨hs, rfl, trivial⟩) (by simp)) fun s hs => hs.elim)
  | false =>
      refine iteration_told (triple_seq (R := Calm w) ?_ hb)
      exact triple_ite (by simp) fun _ => triple_skip fun s hs => hs

end Rules

/-! ## The checks -/

section Checks

/-- The branch for an element that is not good. -/
lemma fail_told {D : Prop} (hD : ¬ D) : Triple true (Calm w) (.ret 1) (Told w D) :=
  fun _ hs => ⟨hs, Nat.one_ne_zero, hD⟩

lemma log_good {D : Prop} {message : CStr} (hD : D) :
    Triple true (Calm w) (logMessage w "INFO".toList message) (Told w D) := by
  rw [eq_true hD]
  exact log_told (info_ne message)

lemma raidOne_told (array : CStr) :
    Triple true (Calm w) (raidOne w array)
      (Told w (Accepted (w.detail ("/dev/".toList ++ array)))) := by
  refine triple_ite (fun hbad => ?_) fun hgood => ?_
  · rw [Bool.not_eq_true', decide_eq_false_iff_not] at hbad
    exact log_seq (alert_ne _) told_exit (log_seq (error_ne _) told_exit (fail_told hbad))
  · rw [Bool.not_eq_false', decide_eq_true_iff] at hgood
    exact log_good hgood

lemma vgOne_told (row : CStr × CStr) :
    Triple true (Calm w) (vgOne w row) (Told w ('p' ∉ row.2)) := by
  refine triple_ite (fun hbad => ?_) fun hgood => log_good (by simpa using hgood)
  exact log_seq (error_ne _) told_exit (fail_told (by simpa using hbad))

lemma lvOne_told (row : CStr × CStr × CStr) :
    Triple true (Calm w) (lvOne w row) (Told w ('i' ∉ row.2.2)) := by
  refine triple_ite (fun hbad => ?_) fun hgood => log_good (by simpa using hgood)
  exact log_seq (error_ne _) told_exit (fail_told (by simpa using hbad))

lemma checkRaid_told :
    Triple true (Calm w) (checkRaid w) (Told w (Storage.checkRaid w.mdstat w.detail = 0)) := by
  refine call_told (log_seq (info_ne _) told_exit (guard_checked (fun hnone => ?_) fun hsome => ?_))
  · rw [Option.isNone_iff_eq_none.mp hnone]
    rfl
  obtain ⟨content, hcontent⟩ := Option.isSome_iff_exists.mp (Option.isNone_eq_false_iff.mp hsome)
  have hiff : Storage.checkRaid w.mdstat w.detail = 0 ↔
      ∀ a ∈ raidArrays (w.mdstat.getD []), Accepted (w.detail ("/dev/".toList ++ a)) := by
    simp only [Storage.checkRaid, hcontent, Option.getD_some]
    split_ifs with hall
    all_goals simpa using hall
  rw [propext hiff]
  refine guard_checked (fun hempty => by simp [List.isEmpty_iff.mp hempty]) fun _ => ?_
  refine seq_told (each_told (fun a => iteration_told (raidOne_told a)) _) id fun hall => ?_
  exact ret_checked (iff_of_true rfl hall)

lemma checkLvm_told : Triple true (Calm w) (checkLvm w) (Told w w.LvmOk) := by
  refine call_told (log_seq (info_ne _) told_exit (guard_checked (fun hno hlvm => ?_) fun hlvm =>
    guard_checked (fun hempty _ hne => ?_) fun hne => ?_))
  · simp [hlvm] at hno
  · exact absurd (List.isEmpty_iff.mp hempty) hne
  have hiff : w.LvmOk ↔ (∀ row ∈ w.vgs, 'p' ∉ row.2) ∧ ∀ row ∈ w.lvs, 'i' ∉ row.2.2 := by
    have hvgs : w.vgs ≠ [] := by simpa using hne
    simp only [Bool.not_eq_false'] at hlvm
    simp [World.LvmOk, hlvm, hvgs]
  rw [propext hiff]
  have hgroups := subshell_told
    (each_told (fun row => iteration_told (vgOne_told (w := w) row)) w.vgs)
  have hvolumes := subshell_told
    (each_told (fun row => iteration_told (lvOne_told (w := w) row)) w.lvs)
  refine seq_told hgroups (·.1) fun hvgs => seq_told hvolumes (·.2) fun hlvs => ?_
  exact ret_checked (iff_of_true rfl ⟨hvgs, hlvs⟩)

lemma partitionOne_told (output : CStr) :
    Triple true (Calm w) (.iteration (partitionOne w output)) (Told w True) := by
  refine continue_told (triple_ite (fun _ => ?_) fun _ => ?_)
  · exact log_seq (alert_ne _) told_exit (log_told (error_ne _))
  · exact triple_skip fun s hs => ⟨hs, rfl, trivial⟩

lemma checkDiskSpace_told : Triple true (Calm w) (checkDiskSpace w) (Told w True) := by
  have hloop := each_told (partitionOne_told (w := w)) w.partitions
  simp only [implies_true] at hloop
  exact call_told (log_seq (info_ne _) told_exit
    (triple_weaken (subshell_told hloop) fun _ => Told.checked))

lemma checkDaemon_told : Triple true (Calm w) (checkDaemon w) (Told w w.DaemonOk) := by
  refine call_told (log_seq (info_ne _) told_exit (triple_ite (fun hsome => ?_) fun hnone => ?_))
  · obtain ⟨pid, hpid⟩ := Option.isSome_iff_exists.mp hsome
    have hiff : w.DaemonOk ↔ w.alive (w.pidfile.getD []) = true := by simp [World.DaemonOk, hpid]
    refine triple_ite (fun halive => ?_) fun hdead => ?_
    · exact log_seq (info_ne _) told_exit (ret_checked (iff_of_true rfl (hiff.mpr halive)))
    · refine log_seq (error_ne _) told_exit (ret_checked (iff_of_false Nat.one_ne_zero ?_))
      rw [hiff, hdead]
      exact Bool.false_ne_true
  · have hok : w.DaemonOk := by
      have hpid : w.pidfile = none := by simpa using hnone
      simp [World.DaemonOk, hpid]
    exact log_seq (info_ne _) told_exit (ret_checked (iff_of_true rfl hok))

lemma checkKernelErrors_told : Triple true (Calm w) (checkKernelErrors w) (Told w True) := by
  refine call_told (log_seq (info_ne _) told_exit ?_)
  exact triple_ite (fun _ => triple_weaken (log_told (info_ne _)) fun _ => Told.checked)
    fun _ => triple_weaken (log_told (info_ne _)) fun _ => Told.checked

/-- The report is only written to its end when all that the verdict needs is known. -/
lemma generateReport_told (h : w.ReportOk → w.Healthy) :
    Triple true (Calm w) (generateReport w) (Told w w.ReportOk) := by
  refine call_told (seq_told (test_told _) (·.1) fun hopens => seq_told (test_told _) (·.2.1)
    fun huptime => seq_told (test_told _) (·.2.2.1) fun hdf => seq_told (test_told _) (·.2.2.2)
    fun hinodes => ?_)
  have hok : w.ReportOk := ⟨hopens, huptime, hdf, hinodes⟩
  refine triple_seq (R := Calm w) (triple_run fun s hs => ⟨hs.1, hs.2.1, fun _ => h hok⟩) ?_
  exact triple_weaken (log_good hok) fun _ => Told.checked

/-! ### The file systems -/

lemma warn_ne (mount use : CStr) :
    LogEntry.mk "WARN".toList (mount ++ " al ".toList ++ use ++ "% de capacidad".toList)
      ≠ reviewEntry := by
  intro h
  have hlast := congrArg (fun entry : LogEntry => entry.message.getLast?) h
  have hd : "% de capacidad".toList.getLast? = some 'd' := by decide
  simp only [List.getLast?_append, hd, Option.some_or] at hlast
  exact absurd hlast (by decide)

/-- A simple command that leaves the disk as it should be. -/
def Keeps (w : World) (f : State → State × ℕ) : Prop := ∀ s, Quiet w s → Quiet w (f s).1

lemma within_test (p : State → Bool) : (test p).Within (Keeps w) := fun _ hs => hs

lemma within_log {level message : CStr} (hne : LogEntry.mk level message ≠ reviewEntry) :
    (logMessage w level message).Within (Keeps w) := fun s hs =>
  ⟨quiet_log hs hne (w.logOk s.tried), hs.2⟩

lemma within_filesystemOne (r : DfRow) : (filesystemOne w r).Within (Keeps w) :=
  ⟨⟨within_test _, trivial, fun _ hs => hs⟩, ⟨within_test _, trivial, fun _ hs => hs⟩,
    ⟨within_test _, ⟨within_log (alert_ne _), within_log (error_ne _), fun _ hs => hs⟩,
      within_test _, within_log (warn_ne _ _), within_log (info_ne _)⟩,
    within_test _, ⟨within_log (alert_ne _), within_log (error_ne _), fun _ hs => hs⟩,
    fun _ hs => hs⟩

/-- The state in which the loop over the table is reached. -/
def entered (w : World) (s : State) : State :=
  { s with
    tried := s.tried + 1
    log := if w.logOk s.tried then
      s.log ++ [⟨"INFO".toList, "Verificando filesystems...".toList⟩] else s.log
    exitCode := 0 }

/-- `check_filesystem` returns 0: it is being tested, so nothing ends it early, and the subshell
gives `exit_code` back as it was. -/
lemma eval_checkFilesystem (s : State) :
    (checkFilesystem w).eval false s = .next (leave (entered w s)
      ((each w.df.rows (filesystemOne w)).eval false (entered w s)).state) 0 := by
  simp only [checkFilesystem, block, eval_seq, eval_call, eval_run, eval_subshell, logMessage,
    setExitCode, settle_false]
  rfl

lemma checkFilesystem_calm {s : State} (hs : Calm w s) :
    Calm w (leave (entered w s)
      ((each w.df.rows (filesystemOne w)).eval false (entered w s)).state) := by
  have hentered : Quiet w (entered w s) := ⟨quiet_log hs.2 (info_ne _) _, hs.2.2⟩
  exact ⟨hs.1, eval_keeps (within_each (fun _ hs => hs) within_filesystemOne) hentered⟩

lemma filesystem_told :
    Triple true (Calm w) (.either (checkFilesystem w) (setOverall 1)) (Told w True) := by
  intro s hs
  simp only [eval_either, eval_checkFilesystem, if_true]
  exact ⟨checkFilesystem_calm hs, rfl, trivial⟩

/-! ### Full file systems -/

section Rows

variable {r : DfRow} {φ ψ : Prop} {p : Bool} {a b : Cmd State}

/-- Where no failure ends the script, the command comes to its end and has set `exit_code` exactly
if `φ`. -/
def Marks (φ : Prop) (c : Cmd State) : Prop :=
  ∀ s, ∃ s' st, c.eval false s = .next s' st ∧ (s'.exitCode = 1 ↔ s.exitCode = 1 ∨ φ)

lemma marks_congr (h : Marks φ a) (hiff : φ ↔ ψ) : Marks ψ a := by
  rwa [← propext hiff]

lemma marks_skip : Marks False skip := fun s => ⟨s, 0, eval_skip, by simp⟩

lemma marks_log (level message : CStr) : Marks False (logMessage w level message) := fun _ =>
  ⟨_, _, settle_false _ _, by simp⟩

lemma marks_seq (ha : Marks φ a) (hb : Marks ψ b) : Marks (φ ∨ ψ) (.seq a b) := by
  intro s
  obtain ⟨s₁, st₁, heval₁, hexit₁⟩ := ha s
  obtain ⟨s₂, st₂, heval₂, hexit₂⟩ := hb s₁
  exact ⟨s₂, st₂, (eval_seq_next heval₁).trans heval₂, by rw [hexit₂, hexit₁, or_assoc]⟩

lemma marks_alarm (subject message message' : CStr) :
    Marks True (block [sendAlert w subject message, logMessage w "ERROR".toList message',
      setExitCode 1]) := by
  have hset : Marks True (setExitCode 1) := fun _ => ⟨_, _, settle_false _ _, by simp⟩
  exact marks_congr (marks_seq (marks_log _ _) (marks_seq (marks_log _ _) hset)) (by simp)

lemma marks_test (ha : Marks True a) (hb : Marks False b) :
    Marks (p = true) (.ite (test fun _ => p) a b) := by
  intro s
  cases p with
  | true => simpa [test, status] using ha s
  | false => simpa [test, status] using hb s

lemma marks_none (ha : Marks False a) (hb : Marks False b) :
    Marks False (.ite (test fun _ => p) a b) := by
  intro s
  cases p with
  | true => simpa [test, status] using ha s
  | false => simpa [test, status] using hb s

lemma marks_iteration (h : Marks φ a) : Marks φ (.iteration a) := by
  intro s
  obtain ⟨s', st, heval, hexit⟩ := h s
  exact ⟨s', st, by simp only [eval_iteration, heval], hexit⟩

/-- A row that is passed over leaves `exit_code` alone. -/
lemma marks_continue (hb : Marks φ (.iteration b)) :
    Marks (p = false ∧ φ) (.iteration (.seq (.ite (test fun _ => p) .cont skip) b)) := by
  intro s
  cases p with
  | true => exact ⟨s, 0, by simp [test, status], by simp⟩
  | false => simpa [test, status, skip] using hb s

/-- One row: the body is right about it. -/
lemma marks_filesystemOne (h : r.Readable w.df) :
    Marks (specialMount r.mount = false ∧ r.Full w.df) (.iteration (filesystemOne w r)) := by
  obtain ⟨hmount, huse⟩ := h.awkField_line
  simp only [filesystemOne, block, hmount, huse]
  refine marks_congr (marks_continue (marks_continue (marks_iteration (marks_seq
    (marks_test (marks_alarm _ _ _) (marks_none (marks_log _ _) (marks_log _ _)))
    (marks_test (marks_alarm _ _ _) marks_skip))))) ?_
  simp [DfRow.Full, AtLeast, h.numeric, testGe_iff h.use_lt, testGe_iff h.inode_lt]

/-- The loop: in the subshell `exit_code` says whether one of the rows that are not passed over is
over a threshold. -/
lemma exitCode_rows {rows : List DfRow} (h : ∀ r ∈ rows, r.Readable w.df) :
    Marks (∃ r ∈ rows, specialMount r.mount = false ∧ r.Full w.df)
      (each rows (filesystemOne w)) := by
  induction rows with
  | nil => exact marks_congr marks_skip (by simp)
  | cons r rows ih =>
      obtain ⟨hr, hrows⟩ := List.forall_mem_cons.mp h
      exact marks_congr (marks_seq (marks_filesystemOne hr) (ih hrows)) (by simp)

/-- It raises no false alarm. -/
lemma alerting_of_exitCode {rows : List DfRow} (h : ∀ r ∈ rows, r.Readable w.df) {s s' : State}
    {st : ℕ} (hs : s.exitCode = 0)
    (heval : (each rows (filesystemOne w)).eval false s = .next s' st)
    (hexit : s'.exitCode = 1) : ∃ r ∈ rows, r.Alerting w.df := by
  obtain ⟨s₁, st₁, heval₁, hexit₁⟩ := exitCode_rows h s
  obtain ⟨rfl, -⟩ := Outcome.next.inj (heval₁.symm.trans heval)
  obtain ⟨r, hr, hspecial, hfull⟩ := (hexit₁.mp hexit).resolve_left (by simp [hs])
  refine ⟨r, hr, fun dir hdir hunder => ?_, hfull⟩
  exact absurd (specialMount_of_under ⟨dir, hdir, hunder⟩) (by simp [hspecial])

end Rows

end Checks

/-! ## The whole -/

/-- What is known when the script is over. -/
def Final (w : World) (o : Outcome State) : Prop :=
  (o.status = 0 → w.Healthy ∧ healthyEntry ∈ o.state.log) ∧
    (w.Logs → w.Healthy → o.status = 0) ∧
    (o.state.report = true → w.Healthy) ∧ reviewEntry ∉ o.state.log

lemma seq_final {C : Prop} {a b : Cmd State} (ha : Triple true (Calm w) a (Told w C))
    (hC : w.Healthy → C) (hb : C → Triple true (Calm w) b (Final w)) :
    Triple true (Calm w) (.seq a b) (Final w) := by
  refine triple_seq (triple_weaken ha fun o ho => ?_) (triple_pure hb)
  cases o with
  | next s st => exact ⟨ho.1, ho.2.2⟩
  | cont s => exact ho.elim
  | ret s st =>
      exact ⟨fun h => absurd h ho.2.1, fun _ h => absurd (hC h) ho.2.2, ho.1.2.2, ho.1.2.1⟩
  | exit s st =>
      exact ⟨fun h => absurd h ho.2.1, fun hlogs h => absurd ⟨hlogs, hC h⟩ ho.2.2, ho.1.2.2,
        ho.1.2.1⟩

/-- The verdict and the end. -/
lemma verdict_final (h : w.Healthy) :
    Triple true (Calm w) (block [
      .ite (test fun s => s.overall == 0)
        (logMessage w healthyEntry.level healthyEntry.message)
        (logMessage w reviewEntry.level reviewEntry.message),
      .given fun s => .exit s.overall]) (Final w) := by
  intro s hs
  have htest : (test fun s : State => s.overall == 0).eval false s = .next s 0 := by
    simp [test, status, hs.1]
  simp only [block, eval_seq, eval_ite, eval_given, eval_exit, htest, if_true]
  cases hok : w.logOk s.tried with
  | true =>
      have hlogged : (logMessage w healthyEntry.level healthyEntry.message).eval true s
          = .next { s with tried := s.tried + 1, log := s.log ++ [healthyEntry] } 0 := by
        simp only [logMessage, eval_run, status, hok, if_true, settle_zero]
      have hreview : reviewEntry ∉ s.log ++ [healthyEntry] := by
        rw [List.mem_append, List.mem_singleton, or_iff_right hs.2.1]
        decide
      simp only [hlogged]
      exact ⟨fun _ => ⟨h, List.mem_append_right _ List.mem_cons_self⟩, fun _ _ => hs.1, fun _ => h,
        hreview⟩
  | false =>
      have hlogged : (logMessage w healthyEntry.level healthyEntry.message).eval true s
          = .exit { s with tried := s.tried + 1 } 1 := by
        simp only [logMessage, eval_run, status, hok, Bool.false_eq_true, if_false]
        exact settle_true Nat.one_ne_zero
      simp only [hlogged]
      refine ⟨fun hzero => absurd hzero Nat.one_ne_zero, fun hlogs => ?_, fun _ => h, hs.2.1⟩
      exact absurd (hlogs s.tried) (by simp [hok])

/-- **The verdict of `health_check.sh`.**  Whatever the script finds and whichever messages do not
reach the log: if it succeeds, the system is healthy and the log says so; if it can log and the
system is healthy, it succeeds; a complete report is only written for a healthy system; and the
other verdict, `REVISAR`, is never given.  What `df` says about the file systems is not part of
`World.Healthy`. -/
theorem health_verdict (w : World) :
    (((main w).script start).2 = 0 →
        w.Healthy ∧ healthyEntry ∈ ((main w).script start).1.log) ∧
      (w.Logs → w.Healthy → ((main w).script start).2 = 0) ∧
      (((main w).script start).1.report = true → w.Healthy) ∧
      reviewEntry ∉ ((main w).script start).1.log := by
  have hstart : Calm w start := ⟨rfl, List.not_mem_nil, by simp [start]⟩
  have hroot : Triple true (Calm w) (checkRoot w) (Told w (w.root = true)) := by
    refine call_told (triple_ite (fun hno s hs => ?_) fun hyes => triple_skip fun s hs => ?_)
    · exact ⟨hs, Nat.one_ne_zero, fun h => by simp [h.2] at hno⟩
    · exact ⟨hs, rfl, by simpa using hyes⟩
  have hoverall : Triple true (Calm w) (setOverall 0) (Told w True) :=
    triple_run fun s hs => ⟨⟨rfl, hs.2⟩, rfl, trivial⟩
  rw [main, script_call]
  refine seq_final hroot (·.root) (fun hroot => seq_final hoverall (fun _ => trivial) fun _ =>
    seq_final checkRaid_told (·.raid) fun hraid => seq_final checkLvm_told (·.lvm) fun hlvm =>
    seq_final filesystem_told (fun _ => trivial) fun _ =>
    seq_final checkDiskSpace_told (fun _ => trivial) fun _ =>
    seq_final checkDaemon_told (·.daemon) fun hdaemon =>
    seq_final checkKernelErrors_told (fun _ => trivial) fun _ => ?_) start hstart
  have hhealthy : w.ReportOk → w.Healthy := fun hreport => ⟨hroot, hraid, hlvm, hdaemon, hreport⟩
  exact seq_final (generateReport_told hhealthy) (·.report) fun hreport =>
    verdict_final (hhealthy hreport)

/-- A system with nothing wrong but a file system that is full. -/
def fullWorld : World where
  root := true
  logOk _ := true
  mdstat := none
  detail _ := []
  lvm := false
  vgs := []
  lvs := []
  df := fullEnv
  partitions := []
  pidfile := none
  alive _ := false
  kernelErrors := 0
  reportOpens := true
  uptimeOk := true
  dfOk := true
  dfInodesOk := true
  reportName := []

lemma fullWorld_healthy : fullWorld.Healthy :=
  ⟨rfl, rfl, fun h => absurd h Bool.false_ne_true, fun _ h => absurd h (by simp [fullWorld]),
    rfl, rfl, rfl, rfl⟩

/-- The verdict is that of a healthy system. -/
theorem health_verdict_full :
    fullRow.Alerting fullWorld.df ∧ ((main fullWorld).script start).2 = 0 :=
  ⟨by decide +kernel, (health_verdict fullWorld).2.1 (fun _ => rfl) fullWorld_healthy⟩

/-! ## Full file systems -/

/-- A full file system shows in what `check_filesystem` returns to `main` and, if the other checks
pass and everything is logged, in the exit status and in the log. -/
def World.ReportsFull (w : World) : Prop :=
  (∀ s, ∃ s' st, (checkFilesystem w).eval false s = .next s' st ∧
      (st ≠ 0 ↔ ∃ r ∈ w.df.rows, r.Alerting w.df)) ∧
    ((∃ r ∈ w.df.rows, r.Alerting w.df) → w.Healthy → w.Logs →
      ((main w).script start).2 ≠ 0 ∧ healthyEntry ∉ ((main w).script start).1.log)

/-- **A full file system is reported** exactly if there is none. -/
theorem full_filesystem_reported_iff (w : World) :
    w.ReportsFull ↔ ¬ ∃ r ∈ w.df.rows, r.Alerting w.df := by
  constructor
  · rintro ⟨hreturn, -⟩ hfull
    obtain ⟨s', st, heval, hst⟩ := hreturn start
    rw [eval_checkFilesystem, Outcome.next.injEq] at heval
    exact hst.mpr hfull heval.2.symm
  · intro hnone
    refine ⟨fun s => ⟨_, 0, eval_checkFilesystem s, ?_⟩, fun hfull => absurd hfull hnone⟩
    exact iff_of_false (fun hne => hne rfl) hnone

/-- The one row is over the threshold, and the script ends with `SALUDABLE` and 0. -/
theorem full_filesystem_healthy : ¬ ∀ w : World, w.ReportsFull := by
  intro hclaim
  have hfull : ∃ r ∈ fullWorld.df.rows, r.Alerting fullWorld.df :=
    ⟨fullRow, List.mem_singleton_self _, by decide +kernel⟩
  have hstatus : ((main fullWorld).script start).2 = 0 := by decide +kernel
  exact ((hclaim fullWorld).2 hfull fullWorld_healthy fun _ => rfl).1 hstatus

end Storage.HealthCheck

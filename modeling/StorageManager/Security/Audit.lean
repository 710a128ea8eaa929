import StorageManager.Backup.Catalogue
import StorageManager.Common
import Mathlib.Data.Set.Function
import Mathlib.Data.List.Count

/-!
# The audit log

`audit_log` appends one line for each operation, `[time] OPERATION by user: details`.  The user and
the details are printed as they are.

**Lines.**  There is one line for each call exactly when no user and no details contain a newline
(`count_auditRun_iff`).

**Entries.**  Time and operation have fixed forms and are read back from a line.  The user ends at
the first `": "`, unless the name contains one: then `append_separator` says how the same line comes
about with another user.  Among given users and times, and without newlines, the log determines the
entries exactly when no user is another one followed by `": "` and more, and when the times have
different local times (`injOn_auditRun_iff`).
-/

namespace Storage

open CString

/-- `audit_operation_t`. -/
inductive AuditOperation
  | raidCreate
  | raidModify
  | lvmCreate
  | lvmModify
  | fsMount
  | fsUnmount
  | encrypt
  | decrypt
  | aclChange
  | securityEvent
  deriving DecidableEq, Repr

/-- `op_str`. -/
def AuditOperation.text : AuditOperation → CStr
  | raidCreate => "RAID_CREATE".toList
  | raidModify => "RAID_MODIFY".toList
  | lvmCreate => "LVM_CREATE".toList
  | lvmModify => "LVM_MODIFY".toList
  | fsMount => "FS_MOUNT".toList
  | fsUnmount => "FS_UNMOUNT".toList
  | encrypt => "ENCRYPT".toList
  | decrypt => "DECRYPT".toList
  | aclChange => "ACL_CHANGE".toList
  | securityEvent => "SECURITY".toList

/-- `%Y-%m-%d %H:%M:%S`. -/
def timeText (tm : Tm) : CStr :=
  zeroPad 4 tm.year ++ '-' :: (zeroPad 2 tm.mon ++ '-' :: (zeroPad 2 tm.mday ++ ' ' ::
    (zeroPad 2 tm.hour ++ ':' :: (zeroPad 2 tm.min ++ ':' :: zeroPad 2 tm.sec))))

/-- The line that is printed, up to its newline. -/
def auditLine (tm : Tm) (operation : AuditOperation) (user details : CStr) : CStr :=
  '[' :: (fit 64 (timeText tm) ++ ']' :: ' ' :: (operation.text ++ ' ' :: 'b' :: 'y' :: ' ' ::
    (user ++ ':' :: ' ' :: details)))

/-- Whether `fopen` succeeds for appending and for writing, and the clock. -/
structure AuditEnv where
  appends : Bool
  writes : Bool
  now : ℤ

/-- `audit_log`: the contents of the log after it, and what it returns.  Opening for writing
truncates the log. -/
def auditLog (localtime : ℤ → Tm) (e : AuditEnv) (log : CStr) (operation : AuditOperation)
    (user details : CStr) : CStr × Ret :=
  let line := auditLine (localtime e.now) operation user details ++ ['\n']
  if e.appends then (log ++ line, .success)
  else if e.writes then (line, .success)
  else (log, .errorSystemCall)

/-- A call of `audit_log`. -/
structure AuditEntry where
  now : ℤ
  operation : AuditOperation
  user : CStr
  details : CStr
  deriving DecidableEq

/-- The log after some calls that all find it. -/
def auditRun (localtime : ℤ → Tm) (log : CStr) (h : List AuditEntry) : CStr :=
  h.foldl (fun log x => (auditLog localtime ⟨true, true, x.now⟩ log x.operation x.user x.details).1)
    log

/-! ## One line -/

section Line

variable {localtime : ℤ → Tm}

/-- The line of the entry in the log. -/
def AuditEntry.line (localtime : ℤ → Tm) (x : AuditEntry) : CStr :=
  auditLine (localtime x.now) x.operation x.user x.details

lemma length_timeText (tm : Tm) : (timeText tm).length = 19 := by
  simp only [timeText, List.length_append, List.length_cons,
    length_zeroPad (by omega) tm.year_lt, length_zeroPad (by omega) tm.mon_lt,
    length_zeroPad (by omega) tm.mday_lt, length_zeroPad (by omega) tm.hour_lt,
    length_zeroPad (by omega) tm.min_lt, length_zeroPad (by omega) tm.sec_lt]

lemma timeText_injective : Function.Injective timeText := by
  intro a b h
  have hdigit : ∀ {w n : ℕ} {c : Char}, c.isDigit = false → c ∉ zeroPad w n := by
    intro w n c hc hmem
    rw [isDigit_of_mem_zeroPad hmem] at hc
    cases hc
  obtain ⟨hyear, h⟩ := append_cons_inj (hdigit rfl) (hdigit rfl) h
  obtain ⟨hmon, h⟩ := append_cons_inj (hdigit rfl) (hdigit rfl) h
  obtain ⟨hmday, h⟩ := append_cons_inj (hdigit rfl) (hdigit rfl) h
  obtain ⟨hhour, h⟩ := append_cons_inj (hdigit rfl) (hdigit rfl) h
  obtain ⟨hmin, hsec⟩ := append_cons_inj (hdigit rfl) (hdigit rfl) h
  cases a
  cases b
  simp only [Tm.mk.injEq]
  exact ⟨zeroPad_injective 4 hyear, zeroPad_injective 2 hmon, zeroPad_injective 2 hmday,
    zeroPad_injective 2 hhour, zeroPad_injective 2 hmin, zeroPad_injective 2 hsec⟩

lemma newline_notMem_timeText (tm : Tm) : '\n' ∉ timeText tm := by
  have hdigit : ∀ {w n : ℕ}, '\n' ∉ zeroPad w n := by
    intro w n hmem
    exact absurd (isDigit_of_mem_zeroPad hmem) (by decide)
  simp [timeText, hdigit]

/-- The operations in the order of the header. -/
def AuditOperation.all : List AuditOperation :=
  [raidCreate, raidModify, lvmCreate, lvmModify, fsMount, fsUnmount, encrypt, decrypt, aclChange,
    securityEvent]

lemma AuditOperation.mem_all (operation : AuditOperation) : operation ∈ all := by
  cases operation <;> decide

lemma AuditOperation.text_injective : Function.Injective AuditOperation.text := by
  have htext : ∀ a ∈ all, ∀ b ∈ all, a.text = b.text → a = b := by decide +kernel
  exact fun a b => htext a a.mem_all b b.mem_all

/-- The name of an operation is one word on one line. -/
lemma AuditOperation.notMem_text (operation : AuditOperation) :
    ' ' ∉ operation.text ∧ '\n' ∉ operation.text := by
  have htext : ∀ a ∈ all, ' ' ∉ a.text ∧ '\n' ∉ a.text := by decide +kernel
  exact htext operation operation.mem_all

lemma line_eq (x : AuditEntry) :
    x.line localtime = '[' :: (timeText (localtime x.now) ++ ']' :: ' ' ::
      (x.operation.text ++ ' ' :: 'b' :: 'y' :: ' ' :: (x.user ++ ':' :: ' ' :: x.details))) := by
  rw [AuditEntry.line, auditLine, fit_of_lt (by rw [length_timeText]; omega)]

/-- The line has the newlines of the user and the details. -/
lemma count_line (x : AuditEntry) :
    (x.line localtime).count '\n' = x.user.count '\n' + x.details.count '\n' := by
  have htime := List.count_eq_zero_of_not_mem (newline_notMem_timeText (localtime x.now))
  have hop := List.count_eq_zero_of_not_mem x.operation.notMem_text.2
  rw [line_eq]
  simp [List.count_append, htime, hop]

/-- A line determines time and operation, and the user up to what is said of separators. -/
lemma line_inj {x y : AuditEntry} (h : x.line localtime = y.line localtime) :
    localtime x.now = localtime y.now ∧ x.operation = y.operation ∧
      ((x.user = y.user ∧ x.details = y.details) ∨ x.user ++ [':', ' '] <+: y.user ∨
        y.user ++ [':', ' '] <+: x.user) := by
  rw [line_eq, line_eq] at h
  obtain ⟨htime, h⟩ := List.append_inj (List.cons.inj h).2
    (by rw [length_timeText, length_timeText])
  obtain ⟨hop, h⟩ := append_cons_inj x.operation.notMem_text.1 y.operation.notMem_text.1
    (List.cons.inj (List.cons.inj h).2).2
  simp only [List.cons.injEq, true_and] at h
  exact ⟨timeText_injective htime, AuditOperation.text_injective hop,
    append_separator (by decide) h⟩

end Line

/-! ## The log -/

section Log

variable {localtime : ℤ → Tm}

lemma auditRun_cons (log : CStr) (x : AuditEntry) (h : List AuditEntry) :
    auditRun localtime log (x :: h)
      = auditRun localtime (log ++ (x.line localtime ++ ['\n'])) h := rfl

/-- Calls only append. -/
lemma auditRun_eq (log : CStr) (h : List AuditEntry) :
    auditRun localtime log h = log ++ h.flatMap fun x => x.line localtime ++ ['\n'] := by
  induction h generalizing log with
  | nil => simp [auditRun]
  | cons x h ih => rw [auditRun_cons, ih, List.flatMap_cons, List.append_assoc]

/-- No entry of the history contains a newline. -/
def OneLiners (h : List AuditEntry) : Prop := ∀ x ∈ h, '\n' ∉ x.user ∧ '\n' ∉ x.details

lemma oneLiners_cons {x : AuditEntry} {h : List AuditEntry} :
    OneLiners (x :: h) ↔ ('\n' ∉ x.user ∧ '\n' ∉ x.details) ∧ OneLiners h :=
  List.forall_mem_cons

/-- There is a line for every call, and no other exactly when there are no other newlines. -/
lemma count_lines (h : List AuditEntry) :
    h.length ≤ (h.flatMap fun x => x.line localtime ++ ['\n']).count '\n' ∧
      ((h.flatMap fun x => x.line localtime ++ ['\n']).count '\n' = h.length ↔ OneLiners h) := by
  induction h with
  | nil => simp [OneLiners]
  | cons x h ih =>
      have hnewline : ['\n'].count '\n' = 1 := rfl
      rw [List.flatMap_cons, List.count_append, List.count_append, count_line, hnewline,
        List.length_cons, oneLiners_cons, ← List.count_eq_zero, ← List.count_eq_zero, ← ih.2]
      omega

/-- The lines appended are as many as the calls exactly when there are no other newlines. -/
lemma count_auditRun_iff (log : CStr) (h : List AuditEntry) :
    (auditRun localtime log h).count '\n' = log.count '\n' + h.length ↔ OneLiners h := by
  rw [auditRun_eq, List.count_append, Nat.add_left_cancel_iff]
  exact (count_lines h).2

lemma newline_notMem_auditLine {x : AuditEntry} (hx : '\n' ∉ x.user ∧ '\n' ∉ x.details) :
    '\n' ∉ x.line localtime := by
  rw [← List.count_eq_zero, count_line, List.count_eq_zero_of_not_mem hx.1,
    List.count_eq_zero_of_not_mem hx.2]

/-- One line after the other is read back line by line. -/
lemma flatMap_line_inj {h h' : List AuditEntry}
    (hline : ∀ x ∈ h, ∀ y ∈ h', x.line localtime = y.line localtime → x = y)
    (hone : OneLiners h) (hone' : OneLiners h')
    (heq : (h.flatMap fun x => x.line localtime ++ ['\n'])
      = h'.flatMap fun x => x.line localtime ++ ['\n']) : h = h' := by
  induction h generalizing h' with
  | nil =>
      cases h' with
      | nil => rfl
      | cons y h' => simp at heq
  | cons x h ih =>
      cases h' with
      | nil => simp at heq
      | cons y h' =>
          obtain ⟨hx, hone⟩ := oneLiners_cons.mp hone
          obtain ⟨hy, hone'⟩ := oneLiners_cons.mp hone'
          simp only [List.flatMap_cons, List.append_assoc, List.cons_append,
            List.nil_append] at heq
          obtain ⟨hfirst, hrest⟩ := append_cons_inj (newline_notMem_auditLine hx)
            (newline_notMem_auditLine hy) heq
          rw [hline x List.mem_cons_self y List.mem_cons_self hfirst,
            ih (fun a ha b hb => hline a (List.mem_cons_of_mem _ ha) b (List.mem_cons_of_mem _ hb))
              hone hone' hrest]

end Log

/-- The histories with times in `T` and users in `U`, without newlines in the details. -/
def auditHistories (T : Set ℤ) (U : Set CStr) : Set (List AuditEntry) :=
  { h | ∀ x ∈ h, x.now ∈ T ∧ x.user ∈ U ∧ '\n' ∉ x.details }

/-- No user is another one followed by the separator and more. -/
def Separable (U : Set CStr) : Prop := ∀ u ∈ U, ∀ v ∈ U, ¬ u ++ [':', ' '] <+: v

section Histories

variable {localtime : ℤ → Tm} {T : Set ℤ} {U : Set CStr}

lemma injOn_auditRun (hU : ∀ u ∈ U, '\n' ∉ u) (htime : Set.InjOn localtime T)
    (hsep : Separable U) (log : CStr) :
    Set.InjOn (auditRun localtime log) (auditHistories T U) := by
  intro h hh h' hh' heq
  rw [auditRun_eq, auditRun_eq] at heq
  have hone : ∀ {h}, h ∈ auditHistories T U → OneLiners h :=
    fun hh x hx => ⟨hU _ (hh x hx).2.1, (hh x hx).2.2⟩
  refine flatMap_line_inj (fun x hx y hy hline => ?_) (hone hh) (hone hh')
    (List.append_cancel_left heq)
  obtain ⟨hnow, hop, hsplit⟩ := line_inj hline
  have hnow : x.now = y.now := htime (hh x hx).1 (hh' y hy).1 hnow
  rcases hsplit with ⟨huser, hdetails⟩ | hpre | hpre
  · cases x
    cases y
    simp_all
  · exact absurd hpre (hsep _ (hh x hx).2.1 _ (hh' y hy).2.1)
  · exact absurd hpre (hsep _ (hh' y hy).2.1 _ (hh x hx).2.1)

lemma singleton_mem_auditHistories {x : AuditEntry} (hnow : x.now ∈ T) (huser : x.user ∈ U)
    (hdetails : '\n' ∉ x.details) : [x] ∈ auditHistories T U := by
  intro y hy
  rw [List.mem_singleton.mp hy]
  exact ⟨hnow, huser, hdetails⟩

/-- A log that determines its entries has different lines for different entries. -/
lemma eq_of_line_eq {log : CStr}
    (hinj : Set.InjOn (auditRun localtime log) (auditHistories T U)) {x y : AuditEntry}
    (hx : [x] ∈ auditHistories T U) (hy : [y] ∈ auditHistories T U)
    (hline : x.line localtime = y.line localtime) : x = y := by
  have heq := hinj hx hy (by rw [auditRun_cons, auditRun_cons, hline])
  exact (List.cons.inj heq).1

/-- The rest of a user that goes on with the separator can be moved to the details. -/
lemma separable_of_injOn (hT : T.Nonempty) (hU : ∀ u ∈ U, '\n' ∉ u) {log : CStr}
    (hinj : Set.InjOn (auditRun localtime log) (auditHistories T U)) : Separable U := by
  rintro u hu v hv ⟨rest, rfl⟩
  obtain ⟨t, ht⟩ := hT
  have hrest : '\n' ∉ rest ++ [':', ' '] := by
    have hv := hU _ hv
    simp only [List.mem_append, not_or] at hv ⊢
    exact ⟨hv.2, by decide⟩
  have hshort : [⟨t, .encrypt, u, rest ++ [':', ' ']⟩] ∈ auditHistories T U :=
    singleton_mem_auditHistories ht hu hrest
  have hlong : [⟨t, .encrypt, u ++ [':', ' '] ++ rest, []⟩] ∈ auditHistories T U :=
    singleton_mem_auditHistories ht hv List.not_mem_nil
  have heq := eq_of_line_eq hinj hshort hlong (by simp [AuditEntry.line, auditLine])
  have hlen := congrArg (fun x => x.user.length) heq
  simp at hlen

lemma injOn_localtime_of_injOn (hne : U.Nonempty) {log : CStr}
    (hinj : Set.InjOn (auditRun localtime log) (auditHistories T U)) : Set.InjOn localtime T := by
  intro a ha b hb hab
  obtain ⟨u, hu⟩ := hne
  have hmem : ∀ t ∈ T, [⟨t, .encrypt, u, []⟩] ∈ auditHistories T U :=
    fun t ht => singleton_mem_auditHistories ht hu List.not_mem_nil
  have heq := eq_of_line_eq hinj (hmem a ha) (hmem b hb) (by simp only [AuditEntry.line, hab])
  exact congrArg AuditEntry.now heq

/-- Among given times and users, and without newlines, the log determines the entries exactly when
the times have different local times and no user goes on from another one with the separator. -/
lemma injOn_auditRun_iff (hT : T.Nonempty) (hne : U.Nonempty) (hU : ∀ u ∈ U, '\n' ∉ u)
    (log : CStr) :
    Set.InjOn (auditRun localtime log) (auditHistories T U) ↔
      Set.InjOn localtime T ∧ Separable U := by
  constructor
  · intro hinj
    exact ⟨injOn_localtime_of_injOn hne hinj, separable_of_injOn hT hU hinj⟩
  · rintro ⟨htime, hsep⟩
    exact injOn_auditRun hU htime hsep log

end Histories

/-- **The audit log is faithful** in this sense and no other: it has one line for each call exactly
when no user and no details contain a newline; and among one-line entries with given times and users
it determines the entries exactly when the times have different local times and no user goes on from
another one with the separator. -/
theorem audit_log_faithful (localtime : ℤ → Tm) (log : CStr) :
    (∀ h, (auditRun localtime log h).count '\n' = log.count '\n' + h.length ↔ OneLiners h) ∧
    ∀ (T : Set ℤ) (U : Set CStr), T.Nonempty → U.Nonempty → (∀ u ∈ U, '\n' ∉ u) →
      (Set.InjOn (auditRun localtime log) (auditHistories T U) ↔
        Set.InjOn localtime T ∧ Separable U) :=
  ⟨count_auditRun_iff log, fun _ _ hT hne hU => injOn_auditRun_iff hT hne hU log⟩

/-- With one user and one time the log determines the operations and the details. -/
theorem audit_log_faithful_root :
    Set.InjOn (auditRun (fun _ => newYear) []) (auditHistories {0} {"root".toList}) := by
  have hsep : Separable {"root".toList} := by
    rintro u rfl v rfl hpre
    exact absurd hpre.length_le (by decide)
  refine ((audit_log_faithful (fun _ => newYear) []).2 {0} {"root".toList}
    (Set.singleton_nonempty _) (Set.singleton_nonempty _) ?_).mpr
    ⟨Set.injOn_singleton _ _, hsep⟩
  rintro u rfl
  decide

/-- One call with a newline in its details leaves the log that two calls leave. -/
theorem audit_log_forged :
    ¬ ∀ (localtime : ℤ → Tm) (log : CStr),
      (∀ h, (auditRun localtime log h).count '\n' = log.count '\n' + h.length) ∧
      ∀ h h', auditRun localtime log h = auditRun localtime log h' →
        h.map (fun x => (localtime x.now, x.operation, x.user, x.details))
          = h'.map fun x => (localtime x.now, x.operation, x.user, x.details) := by
  intro hclaim
  have hsame := (hclaim (fun _ => newYear) []).2
    [⟨0, .encrypt, "eve".toList, "x\n[2026-01-01 00:00:00] DECRYPT by root: y".toList⟩]
    [⟨0, .encrypt, "eve".toList, "x".toList⟩, ⟨0, .decrypt, "root".toList, "y".toList⟩]
    (by decide +kernel)
  exact absurd (congrArg List.length hsame) (by decide)

end Storage

import StorageManager.Memory.Info
import StorageManager.Lib.ShellLine
import Mathlib.Data.Finset.Insert

/-!
# Automatic swap

`memory_auto_swap` makes a swap file when memory is low: `dd`, `mkswap` and `swapon` one after the
other, and the file is removed again when one of the last two fails.  A call should come to one of
three ends: there was enough memory, the swap is active, or nothing has changed and the code is
negative.

It comes to another end on three paths, which `auto_swap_honest_iff` rules out one by one: the
memory could not be read, which is taken for enough memory; the threshold wraps around when it is
put in kilobytes; `dd` fails after it has written something, which is left behind.

The path is put into the command lines as it is.  What a line does depends on the words the shell
makes of it (`SwapEnv.exec`), so the theorem is about paths that are one word and lines that fit
their buffer; any other line may do anything.
-/

namespace Storage

open CString Shell

/-! ## The system -/

/-- The files and the active swaps. -/
structure SwapSystem (κ : Type*) where
  fs : CStr → Option κ
  active : Finset CStr

/-- `path` holds `c` from now on, or nothing. -/
def SwapSystem.put {κ : Type*} (sys : SwapSystem κ) (path : CStr) (c : Option κ) : SwapSystem κ :=
  { sys with fs := Function.update sys.fs path c }

/-- What becomes of a tool that writes to a file: how it ends, and what is at the path then. -/
inductive ToolRun (κ : Type*)
  | notStarted
  | ended (run : CommandRun) (left : Option κ)

namespace ToolRun

variable {κ : Type*}

/-- What `execute_command` sees of it. -/
def popen : ToolRun κ → Option CommandRun
  | notStarted => none
  | ended run _ => some run

/-- What is at the path afterwards, when `c` was there before. -/
def leaves (c : Option κ) : ToolRun κ → Option κ
  | notStarted => c
  | ended _ left => left

end ToolRun

/-- What a call finds: the caller, `/proc/meminfo` (`none` when it cannot be opened), what becomes
of each command line with one of the three tools, and what any other line does. -/
structure SwapEnv (κ : Type*) where
  isRoot : Bool
  meminfo : Option CStr
  dd : CStr → ToolRun κ
  mkswap : CStr → ToolRun κ
  swapon : CStr → Option CommandRun
  other : CStr → SwapSystem κ → SwapSystem κ × Option CommandRun

/-- The three tools, with the file they are to work on. -/
inductive SwapTool
  | dd (file : CStr)
  | mkswap (file : CStr)
  | swapon (file : CStr)
  deriving DecidableEq

/-- The tool that a line of these words runs. -/
def SwapTool.ofWords : List CStr → Option SwapTool
  | [prog, file] =>
      if prog = "mkswap".toList ∧ isOperand file = true then some (mkswap file)
      else if prog = "swapon".toList ∧ isOperand file = true then some (swapon file)
      else none
  | [prog, opt, _, file] =>
      if prog = "swapon".toList ∧ opt = "-p".toList ∧ isOperand file = true then some (swapon file)
      else none
  | [prog, input, output, bs, count] =>
      if prog = "dd".toList ∧ input = "if=/dev/zero".toList ∧ output.take 3 = "of=".toList ∧
          bs = "bs=1M".toList ∧ count.take 6 = "count=".toList then some (dd (output.drop 3))
      else none
  | _ => none

/-- Run a command line. -/
def SwapEnv.exec {κ : Type*} (env : SwapEnv κ) (cmd : CStr) (sys : SwapSystem κ) :
    SwapSystem κ × Option CommandRun :=
  match (Shell.command cmd).bind SwapTool.ofWords with
  | some (.dd file) => (sys.put file ((env.dd cmd).leaves (sys.fs file)), (env.dd cmd).popen)
  | some (.mkswap file) =>
      (sys.put file ((env.mkswap cmd).leaves (sys.fs file)), (env.mkswap cmd).popen)
  | some (.swapon file) =>
      (if (executeCommand (env.swapon cmd) maxOutput).1 = .success
        then { sys with active := insert file sys.active } else sys, env.swapon cmd)
  | none => env.other cmd sys

/-! ## The functions -/

/-- `dd if=/dev/zero of=%s bs=1M count=%llu 2>&1`. -/
def ddText (path : CStr) (sizeMb : UInt64) : CStr :=
  "dd if=/dev/zero of=".toList ++ (path ++ (" bs=1M count=".toList ++ (decimal sizeMb.toNat ++
    errToOut)))

/-- `mkswap %s 2>&1`. -/
def mkswapText (device : CStr) : CStr := "mkswap ".toList ++ (device ++ errToOut)

/-- `swapon -p %d %s 2>&1`, or `swapon %s 2>&1` for a negative priority. -/
def swaponText (path : CStr) (priority : ℤ) : CStr :=
  if 0 ≤ priority then
    "swapon -p ".toList ++ (intText priority ++ (' ' :: (path ++ errToOut)))
  else "swapon ".toList ++ (path ++ errToOut)

section Functions

variable {κ : Type*} (env : SwapEnv κ) (sys : SwapSystem κ) (path : CStr)

/-- Run a command line and look at how it ended. -/
def runSwapTool (cmd : CStr) : SwapSystem κ × Ret :=
  ((env.exec cmd sys).1,
    if (executeCommand (env.exec cmd sys).2 maxOutput).1 = .success then .success
    else .errorSystemCall)

/-- The command line of `swap_create_file`. -/
def ddCommand (path : CStr) (sizeMb : UInt64) : CStr := fit maxCommand (ddText path sizeMb)

/-- `swap_create_file`. -/
def swapCreateFile (sizeMb : UInt64) : SwapSystem κ × Ret :=
  if env.isRoot = false then (sys, .errorPermission)
  else runSwapTool env sys (ddCommand path sizeMb)

/-- `swap_make`. -/
def swapMake : SwapSystem κ × Ret :=
  if env.isRoot = false then (sys, .errorPermission)
  else runSwapTool env sys (fit maxCommand (mkswapText path))

/-- `swap_enable`. -/
def swapEnable (priority : ℤ) : SwapSystem κ × Ret :=
  if env.isRoot = false then (sys, .errorPermission)
  else runSwapTool env sys (fit maxCommand (swaponText path priority))

/-- `swap_remove_file`. -/
def swapRemoveFile : SwapSystem κ × Ret :=
  match sys.fs path with
  | none => (sys, .errorSystemCall)
  | some _ => (sys.put path none, .success)

/-- `memory_auto_swap` once the file is made. -/
def useSwapFile : SwapSystem κ × Ret :=
  match swapMake env sys path with
  | (sys, .success) =>
      match swapEnable env sys path (-1) with
      | (sys, .success) => (sys, .success)
      | (sys, _) => ((swapRemoveFile sys path).1, .errorSystemCall)
  | (sys, _) => ((swapRemoveFile sys path).1, .errorSystemCall)

/-- `memory_auto_swap`. -/
def memoryAutoSwap (thresholdMb swapSizeMb : UInt64) : SwapSystem κ × Ret :=
  if memoryCheckLow env.meminfo thresholdMb ≤ 0 then (sys, .success)
  else
    match swapCreateFile env sys path swapSizeMb with
    | (sys, .success) => useSwapFile env sys path
    | (sys, _) => (sys, .errorSystemCall)

/-! ## All or nothing -/

/-- A success means enough memory and no change, or an active swap; an error means no change. -/
def SwapHonest (thresholdMb swapSizeMb : UInt64) : Prop :=
  let r := memoryAutoSwap env sys path thresholdMb swapSizeMb
  (r.2 = .success →
    (∃ info, memoryGetInfo env.meminfo = (info, .success) ∧
      thresholdMb.toNat * 1024 ≤ info.availableKb.toNat ∧ r.1 = sys) ∨ path ∈ r.1.active) ∧
  (r.2 ≠ .success → r.1 = sys)

/-- `dd` succeeds if it leaves anything. -/
def CleanDd (swapSizeMb : UInt64) : Prop :=
  ∀ run c, env.dd (ddCommand path swapSizeMb) = .ended run (some c) → run.status = .exited 0

/-- The path is one word in the command lines, and no option; the longest line fits its buffer. -/
def PathFits (swapSizeMb : UInt64) : Prop :=
  (Piece.bare path).Ok ∧ isOperand path = true ∧ (ddText path swapSizeMb).length < maxCommand

/-- The memory can be read; if it is low, `dd` cleans up after itself, and if it is not, then not
by a threshold that wraps around.  A swap that was active before is as good. -/
def SwapSafe (thresholdMb swapSizeMb : UInt64) : Prop :=
  (env.meminfo = none → path ∈ sys.active) ∧
  ∀ info, memoryGetInfo env.meminfo = (info, .success) →
    (info.availableKb < thresholdMb * 1024 → env.isRoot = true → CleanDd env path swapSizeMb) ∧
    (thresholdMb * 1024 ≤ info.availableKb →
      thresholdMb.toNat * 1024 ≤ info.availableKb.toNat ∨ path ∈ sys.active)

end Functions

/-! ## What the lines do -/

section Lines

lemma ddText_eq_line (path : CStr) (sizeMb : UInt64) :
    ddText path sizeMb = line [.bare "dd".toList, .bare "if=/dev/zero".toList,
      .bare ("of=".toList ++ path), .bare "bs=1M".toList,
      .bare ("count=".toList ++ decimal sizeMb.toNat)] ++ errToOut := by
  -- the same for any fixed words, so that the literals stay closed
  have hwords : ∀ a b o s n : CStr,
      (a ++ ' ' :: (b ++ ' ' :: o)) ++ (path ++ ((' ' :: (s ++ ' ' :: n)) ++
        (decimal sizeMb.toNat ++ errToOut))) =
      line [.bare a, .bare b, .bare (o ++ path), .bare s,
        .bare (n ++ decimal sizeMb.toNat)] ++ errToOut := by
    intro a b o s n
    simp [line, lineTail, Piece.text]
  exact hwords "dd".toList "if=/dev/zero".toList "of=".toList "bs=1M".toList "count=".toList

lemma mkswapText_eq_line (path : CStr) :
    mkswapText path = line [.bare "mkswap".toList, .bare path] ++ errToOut :=
  line_of_one "mkswap".toList path errToOut

lemma swaponText_eq_line (path : CStr) {priority : ℤ} (h : priority < 0) :
    swaponText path priority = line [.bare "swapon".toList, .bare path] ++ errToOut := by
  rw [swaponText, if_neg (not_le.mpr h)]
  exact line_of_one "swapon".toList path errToOut

variable {path : CStr} {sizeMb : UInt64}

/-- The lines with the path alone are shorter than that of `dd`. -/
lemma PathFits.fits (h : PathFits path sizeMb) :
    fit maxCommand (ddText path sizeMb) = ddText path sizeMb ∧
      fit maxCommand (mkswapText path) = mkswapText path ∧
      fit maxCommand (swaponText path (-1)) = swaponText path (-1) := by
  have hle : ∀ a b s n e : CStr, a.length ≤ b.length →
      (a ++ (path ++ e)).length ≤ (b ++ (path ++ (s ++ (n ++ e)))).length := by
    intro a b s n e hab
    simp only [List.length_append]
    omega
  have hmkswap : (mkswapText path).length ≤ (ddText path sizeMb).length :=
    hle _ _ _ _ _ (by decide)
  have hswapon : (swaponText path (-1)).length ≤ (ddText path sizeMb).length :=
    hle _ _ _ _ _ (by decide)
  exact ⟨fit_of_lt h.2.2, fit_of_lt (hmkswap.trans_lt h.2.2), fit_of_lt (hswapon.trans_lt h.2.2)⟩

variable {κ : Type*} (env : SwapEnv κ) (sys : SwapSystem κ)

lemma exec_dd (h : PathFits path sizeMb) :
    env.exec (ddCommand path sizeMb) sys =
      (sys.put path ((env.dd (ddCommand path sizeMb)).leaves (sys.fs path)),
        (env.dd (ddCommand path sizeMb)).popen) := by
  have hfixed : (Piece.bare "dd".toList).Ok ∧ (Piece.bare "if=/dev/zero".toList).Ok ∧
      (Piece.bare "of=".toList).Ok ∧ (Piece.bare "bs=1M".toList).Ok ∧
      (Piece.bare "count=".toList).Ok := by decide
  have hcommand : Shell.command (ddCommand path sizeMb) = some ["dd".toList,
      "if=/dev/zero".toList, "of=".toList ++ path, "bs=1M".toList,
      "count=".toList ++ decimal sizeMb.toNat] := by
    rw [ddCommand, h.fits.1, ddText_eq_line]
    refine command_line_errToOut ?_
    simp only [List.forall_mem_cons, List.not_mem_nil, false_imp_iff, implies_true, and_true]
    exact ⟨hfixed.1, hfixed.2.1, hfixed.2.2.1.bare_append h.1.2.1, hfixed.2.2.2.1,
      hfixed.2.2.2.2.bare_append fun _ => isBare_of_mem_decimal⟩
  have htool : SwapTool.ofWords ["dd".toList, "if=/dev/zero".toList, "of=".toList ++ path,
      "bs=1M".toList, "count=".toList ++ decimal sizeMb.toNat] = some (.dd path) := by
    have hof : "of=".toList.length = 3 := by decide
    have hcount : "count=".toList.length = 6 := by decide
    simp only [SwapTool.ofWords, List.take_left' hof, List.take_left' hcount,
      List.drop_left' hof, and_self, if_true]
  rw [SwapEnv.exec, hcommand, Option.bind_some, htool]

lemma exec_mkswap (h : PathFits path sizeMb) :
    env.exec (fit maxCommand (mkswapText path)) sys =
      (sys.put path ((env.mkswap (fit maxCommand (mkswapText path))).leaves (sys.fs path)),
        (env.mkswap (fit maxCommand (mkswapText path))).popen) := by
  have hcommand : Shell.command (fit maxCommand (mkswapText path)) =
      some ["mkswap".toList, path] := by
    rw [h.fits.2.1, mkswapText_eq_line]
    refine command_line_errToOut ?_
    simp only [List.forall_mem_cons, List.not_mem_nil, false_imp_iff, implies_true, and_true]
    exact ⟨by decide, h.1⟩
  have htool : SwapTool.ofWords ["mkswap".toList, path] = some (.mkswap path) := by
    simp only [SwapTool.ofWords, h.2.1, and_self, if_true]
  rw [SwapEnv.exec, hcommand, Option.bind_some, htool]

lemma exec_swapon (h : PathFits path sizeMb) :
    env.exec (fit maxCommand (swaponText path (-1))) sys =
      (if (executeCommand (env.swapon (fit maxCommand (swaponText path (-1)))) maxOutput).1
          = .success then { sys with active := insert path sys.active } else sys,
        env.swapon (fit maxCommand (swaponText path (-1)))) := by
  have hcommand : Shell.command (fit maxCommand (swaponText path (-1))) =
      some ["swapon".toList, path] := by
    rw [h.fits.2.2, swaponText_eq_line path (by decide)]
    refine command_line_errToOut ?_
    simp only [List.forall_mem_cons, List.not_mem_nil, false_imp_iff, implies_true, and_true]
    exact ⟨by decide, h.1⟩
  have hprog : "swapon".toList ≠ "mkswap".toList := by decide
  have htool : SwapTool.ofWords ["swapon".toList, path] = some (.swapon path) := by
    simp only [SwapTool.ofWords, hprog, h.2.1, false_and, if_false, and_self, if_true]
  rw [SwapEnv.exec, hcommand, Option.bind_some, htool]

end Lines

section Paths

variable {κ : Type*} {env : SwapEnv κ} {sys : SwapSystem κ} {path : CStr} {sizeMb : UInt64}

lemma put_put (c d : Option κ) : (sys.put path c).put path d = sys.put path d := by
  simp [SwapSystem.put]

lemma put_of_eq {c : Option κ} (h : sys.fs path = c) : sys.put path c = sys := by
  simp [SwapSystem.put, ← h]

lemma fs_put (c : Option κ) : (sys.put path c).fs path = c := Function.update_self ..

/-- Removing the file leaves nothing at the path. -/
lemma swapRemoveFile_eq (sys : SwapSystem κ) (path : CStr) :
    (swapRemoveFile sys path).1 = sys.put path none := by
  unfold swapRemoveFile
  cases hfile : sys.fs path with
  | none => exact (put_of_eq hfile).symm
  | some c => rfl

lemma swapEnable_cases (env : SwapEnv κ) (sys : SwapSystem κ) (h : PathFits path sizeMb) :
    swapEnable env sys path (-1) = ({ sys with active := insert path sys.active }, .success) ∨
      ∃ code, code ≠ .success ∧ swapEnable env sys path (-1) = (sys, code) := by
  unfold swapEnable runSwapTool
  rw [exec_swapon env sys h]
  split_ifs
  · exact Or.inr ⟨_, by decide, rfl⟩
  · exact Or.inl rfl
  · exact Or.inr ⟨_, by decide, rfl⟩

/-- With the file made, the swap becomes active or the file goes. -/
lemma useSwapFile_cases (env : SwapEnv κ) (sys : SwapSystem κ) (h : PathFits path sizeMb) :
    ((useSwapFile env sys path).2 = .success ∧ path ∈ (useSwapFile env sys path).1.active) ∨
      useSwapFile env sys path = (sys.put path none, .errorSystemCall) := by
  obtain ⟨c, hc⟩ : ∃ c, (swapMake env sys path).1 = sys.put path c := by
    unfold swapMake runSwapTool
    rw [exec_mkswap env sys h]
    split_ifs
    · exact ⟨_, (put_of_eq rfl).symm⟩
    · exact ⟨_, rfl⟩
    · exact ⟨_, rfl⟩
  have hremoved : (swapRemoveFile (swapMake env sys path).1 path).1 = sys.put path none := by
    rw [swapRemoveFile_eq, hc, put_put]
  unfold useSwapFile
  cases hmake : swapMake env sys path with
  | mk made code =>
      rw [hmake] at hremoved
      by_cases hcode : code = .success
      · subst hcode
        rcases swapEnable_cases env made h with henable | ⟨code, hcode, henable⟩
        · exact Or.inl (by simp [henable])
        · refine Or.inr ?_
          simp only [henable]
          cases code <;> first | exact absurd rfl hcode | exact congrArg (·, _) hremoved
      · refine Or.inr ?_
        cases code <;> first | exact absurd rfl hcode | exact congrArg (·, _) hremoved

/-- `dd` leaves what it leaves at the path. -/
lemma runSwapTool_dd (h : PathFits path sizeMb) {run : CommandRun} {left : Option κ}
    (hdd : env.dd (ddCommand path sizeMb) = .ended run left) :
    runSwapTool env sys (ddCommand path sizeMb)
      = (sys.put path left, if run.status = .exited 0 then .success else .errorSystemCall) := by
  rw [runSwapTool, exec_dd env sys h, hdd]
  simp only [ToolRun.popen, ToolRun.leaves, executeCommand_eq_success_iff]

lemma runSwapTool_dd_notStarted (h : PathFits path sizeMb)
    (hdd : env.dd (ddCommand path sizeMb) = .notStarted) :
    runSwapTool env sys (ddCommand path sizeMb) = (sys, .errorSystemCall) := by
  rw [runSwapTool, exec_dd env sys h, hdd]
  exact congrArg (·, _) (put_of_eq rfl)

lemma put_eq_self_iff {c : Option κ} : sys.put path c = sys ↔ sys.fs path = c := by
  constructor
  · intro h
    rw [← h, fs_put]
  · exact put_of_eq

end Paths

section Low

variable {κ : Type*} {env : SwapEnv κ} {sys : SwapSystem κ} {path : CStr}
  {thresholdMb swapSizeMb : UInt64}

lemma cleanDd_of_notStarted (hdd : env.dd (ddCommand path swapSizeMb) = .notStarted) :
    CleanDd env path swapSizeMb := by
  intro run c h
  rw [hdd] at h
  nomatch h

lemma cleanDd_ended_iff {run : CommandRun} {left : Option κ}
    (hdd : env.dd (ddCommand path swapSizeMb) = .ended run left) :
    CleanDd env path swapSizeMb ↔ run.status = .exited 0 ∨ left = none := by
  constructor
  · intro h
    cases hleft : left with
    | none => exact Or.inr rfl
    | some c => exact Or.inl (h run c (by rw [hdd, hleft]))
  · rintro hor run' c h
    rw [hdd, ToolRun.ended.injEq] at h
    obtain ⟨rfl, rfl⟩ := h
    exact hor.resolve_right (Option.some_ne_none c)

/-- With low memory, everything depends on what `dd` leaves when it fails. -/
lemma swapHonest_low_iff (hfresh : sys.fs path = none)
    (hfits : env.isRoot = true → PathFits path swapSizeMb)
    (hlow : 0 < memoryCheckLow env.meminfo thresholdMb) :
    SwapHonest env sys path thresholdMb swapSizeMb ↔
      (env.isRoot = true → CleanDd env path swapSizeMb) := by
  unfold SwapHonest memoryAutoSwap
  rw [if_neg (not_le.mpr hlow)]
  have hfailed : Ret.errorSystemCall ≠ .success := by decide
  -- an error that leaves the system as it was
  have hnothing : ∀ r : SwapSystem κ × Ret, r = (sys, .errorSystemCall) →
      (r.2 = .success → (∃ info, memoryGetInfo env.meminfo = (info, .success) ∧
        thresholdMb.toNat * 1024 ≤ info.availableKb.toNat ∧ r.1 = sys) ∨ path ∈ r.1.active) ∧
      (r.2 ≠ .success → r.1 = sys) := by
    rintro r rfl
    exact ⟨fun h => absurd h hfailed, fun _ => rfl⟩
  unfold swapCreateFile
  cases hroot : env.isRoot with
  | false => exact iff_of_true (hnothing _ rfl) fun h => absurd h (by decide)
  | true =>
      simp only [Bool.true_eq_false, if_false, true_imp_iff]
      have hline := hfits hroot
      cases hdd : env.dd (ddCommand path swapSizeMb) with
      | notStarted =>
          refine iff_of_true (hnothing _ ?_) (cleanDd_of_notStarted hdd)
          rw [runSwapTool_dd_notStarted hline hdd]
      | ended run left =>
          rw [runSwapTool_dd hline hdd, cleanDd_ended_iff hdd]
          by_cases hstatus : run.status = .exited 0
          · rw [if_pos hstatus]
            refine iff_of_true ?_ (Or.inl hstatus)
            rcases useSwapFile_cases env (sys.put path left) hline with ⟨hcode, hactive⟩ | hgone
            · exact ⟨fun _ => Or.inr hactive, fun h => absurd hcode h⟩
            · exact hnothing _ (hgone.trans (by rw [put_put, put_of_eq hfresh]))
          · rw [if_neg hstatus, or_iff_right hstatus]
            constructor
            · rintro ⟨-, hsame⟩
              rw [← put_eq_self_iff.mp (hsame hfailed), hfresh]
            · rintro rfl
              exact hnothing _ (by rw [put_of_eq hfresh])

end Low

/-- **All or nothing, and honest**: for a path that does not exist and, where it gets into a command
line, is one word of it, exactly when the memory can be read, `dd` leaves nothing when it fails, and
the threshold does not wrap around to a smaller one. -/
theorem auto_swap_honest_iff {κ : Type*} (env : SwapEnv κ) (sys : SwapSystem κ) {path : CStr}
    (hfresh : sys.fs path = none) (thresholdMb swapSizeMb : UInt64)
    (hfits : 0 < memoryCheckLow env.meminfo thresholdMb → env.isRoot = true →
      PathFits path swapSizeMb) :
    SwapHonest env sys path thresholdMb swapSizeMb ↔
      SwapSafe env sys path thresholdMb swapSizeMb := by
  cases hfile : env.meminfo with
  | none =>
      have hcall : memoryAutoSwap env sys path thresholdMb swapSizeMb = (sys, .success) := by
        rw [memoryAutoSwap, hfile]
        rfl
      have hunread : ∀ info, memoryGetInfo none ≠ (info, .success) := by
        intro info h
        have hcode : Ret.errorSystemCall = .success := congrArg Prod.snd h
        exact absurd hcode (by decide)
      simp [SwapHonest, SwapSafe, hcall, hfile, hunread]
  | some content =>
      obtain ⟨info, hinfo⟩ : ∃ info, memoryGetInfo (some content) = (info, .success) := ⟨_, rfl⟩
      have hcheck : memoryCheckLow (some content) thresholdMb
          = if info.availableKb < thresholdMb * 1024 then 1 else 0 := by
        rw [memoryCheckLow, hinfo]
      by_cases hlow : info.availableKb < thresholdMb * 1024
      · have hpos : 0 < memoryCheckLow env.meminfo thresholdMb := by
          rw [hfile, hcheck, if_pos hlow]
          decide
        rw [swapHonest_low_iff hfresh (hfits hpos) hpos]
        simp [SwapSafe, hfile, hinfo, hlow, UInt64.not_le.mpr hlow]
      · have hcall : memoryAutoSwap env sys path thresholdMb swapSizeMb = (sys, .success) := by
          rw [memoryAutoSwap, hfile, hcheck, if_neg hlow]
          rfl
        simp [SwapHonest, SwapSafe, hcall, hfile, hinfo, hlow, UInt64.not_lt.mp hlow]

/-- Root and low memory, with a `dd` that ends like this; the other tools succeed. -/
def lowMemory (status : ExitStatus) : SwapEnv ℕ where
  isRoot := true
  meminfo := some []
  dd := fun _ => .ended ⟨[], status⟩ (some 0)
  mkswap := fun _ => .ended ⟨[], .exited 0⟩ (some 1)
  swapon := fun _ => some ⟨[], .exited 0⟩
  other := fun _ sys => (sys, none)

/-- No files and no swaps. -/
def bareSystem : SwapSystem ℕ := ⟨fun _ => none, ∅⟩

/-- The swap is made, and it is active. -/
theorem auto_swap_honest_made :
    SwapHonest (lowMemory (.exited 0)) bareSystem ['/', 's'] 1 8 ∧
      (memoryAutoSwap (lowMemory (.exited 0)) bareSystem ['/', 's'] 1 8).2 = .success ∧
      ['/', 's'] ∈ (memoryAutoSwap (lowMemory (.exited 0)) bareSystem ['/', 's'] 1 8).1.active := by
  have hfits : PathFits ['/', 's'] 8 := ⟨by decide, by decide, by decide +kernel⟩
  have hsafe : SwapSafe (lowMemory (.exited 0)) bareSystem ['/', 's'] 1 8 := by
    refine ⟨fun h => absurd h (by decide), fun info hinfo => ⟨fun _ _ run c hdd => ?_, ?_⟩⟩
    · exact (congrArg CommandRun.status (ToolRun.ended.inj hdd).1).symm
    · obtain rfl : (memoryGetInfo (some [])).1 = info := congrArg Prod.fst hinfo
      exact fun hle => absurd hle (by decide +kernel)
  exact ⟨(auto_swap_honest_iff (lowMemory (.exited 0)) bareSystem rfl 1 8
    fun _ _ => hfits).mpr hsafe, by decide +kernel, by decide +kernel⟩

/-- The disk fills up: an error is returned, and half a swap file is left. -/
theorem auto_swap_leaves_file :
    ¬ ∀ (env : SwapEnv ℕ) (sys : SwapSystem ℕ) (path : CStr), sys.fs path = none →
      ∀ thresholdMb swapSizeMb, SwapHonest env sys path thresholdMb swapSizeMb := by
  intro hclaim
  have hsame := (hclaim (lowMemory (.exited 1)) bareSystem ['/', 's'] rfl 1 8).2
    (by decide +kernel)
  exact absurd (congrArg (fun sys => sys.fs ['/', 's']) hsame) (by decide +kernel)

end Storage

import StorageManager.Lib.Scan

/-!
# Return codes and commands

The codes of `common.h`, and `execute_command`: every manager runs its tools through it and reads
their output from a buffer of `MAX_OUTPUT` bytes.  The output is taken in the pieces `fgets`
returns; the first piece that does not fit ends the reading, so what is kept is a prefix of the
output (`captured_isPrefix`).  Whether something was left out does not show in the code it returns:
`execute_command_whole_iff` says when a success means that the output is complete.
-/

namespace Storage

open CString

/-- `SUCCESS` and the `ERROR_` codes. -/
inductive Ret
  | success
  | errorGeneric
  | errorNotFound
  | errorPermission
  | errorInvalidParam
  | errorSystemCall
  deriving DecidableEq, Repr

/-- `MAX_COMMAND`. -/
def maxCommand : ℕ := 1024

/-- `MAX_OUTPUT`. -/
def maxOutput : ℕ := 4096

/-- What `pclose` reports. -/
inductive ExitStatus
  | exited (code : ℕ)
  | killed
  deriving DecidableEq, Repr

/-- A command that was started: what it printed and how it ended. -/
structure CommandRun where
  output : CStr
  status : ExitStatus

/-- The `strcat` loop of `execute_command` over the lines `fgets` returns, when `out` is in the
buffer. -/
def appendLines (outputSize : ℕ) (out : CStr) : List CStr → CStr
  | [] => out
  | line :: lines =>
      if out.length + line.length < outputSize - 1 then appendLines outputSize (out ++ line) lines
      else out

/-- What is kept of the output `s` in a buffer of this size. -/
def captured (outputSize : ℕ) (s : CStr) : CStr := appendLines outputSize [] (fgetsAll 256 s)

/-- `execute_command`; `popen` is `none` when the command cannot be started.  The buffer is then
left as it was. -/
def executeCommand (popen : Option CommandRun) (outputSize : ℕ) : Ret × Option CStr :=
  match popen with
  | none => (.errorSystemCall, none)
  | some r =>
      (if r.status = .exited 0 then .success else .errorSystemCall,
        if 0 < outputSize then some (captured outputSize r.output) else none)

/-- The code is that of the exit status alone. -/
lemma executeCommand_eq_success_iff (r : CommandRun) (outputSize : ℕ) :
    (executeCommand (some r) outputSize).1 = .success ↔ r.status = .exited 0 := by
  by_cases hstatus : r.status = .exited 0
  · simp [executeCommand, hstatus]
  · simp [executeCommand, hstatus]

lemma appendLines_prefix (outputSize : ℕ) (out : CStr) (lines : List CStr) :
    appendLines outputSize out lines <+: out ++ lines.flatten := by
  induction lines generalizing out with
  | nil => simp [appendLines]
  | cons line lines ih =>
      unfold appendLines
      split_ifs
      · rw [List.flatten_cons, ← List.append_assoc]
        exact ih (out ++ line)
      · exact List.prefix_append _ _

/-- What is kept is the beginning of what was printed. -/
theorem captured_isPrefix (outputSize : ℕ) (s : CStr) : captured outputSize s <+: s := by
  have h := appendLines_prefix outputSize [] (fgetsAll 256 s)
  rwa [flatten_fgetsAll, List.nil_append] at h

/-- What is kept leaves room for its terminator. -/
lemma length_appendLines {outputSize : ℕ} {out : CStr} (h : out.length < outputSize)
    (lines : List CStr) : (appendLines outputSize out lines).length < outputSize := by
  induction lines generalizing out with
  | nil => exact h
  | cons line lines ih =>
      unfold appendLines
      split_ifs with hfits
      · refine ih ?_
        rw [List.length_append]
        omega
      · exact h

/-- Everything is kept when there is room for it at the end. -/
lemma appendLines_eq_iff {outputSize : ℕ} {out : CStr} {lines : List CStr}
    (hne : ∀ l ∈ lines, l ≠ []) :
    appendLines outputSize out lines = out ++ lines.flatten ↔
      lines = [] ∨ (out ++ lines.flatten).length < outputSize - 1 := by
  induction lines generalizing out with
  | nil => simp [appendLines]
  | cons line lines ih =>
      have hline := List.length_pos_iff_ne_nil.mpr (hne line List.mem_cons_self)
      have hrest := fun l hl => hne l (List.mem_cons_of_mem _ hl)
      have hflat : out ++ (line :: lines).flatten = out ++ line ++ lines.flatten := by
        rw [List.flatten_cons, List.append_assoc]
      rw [hflat, or_iff_right (List.cons_ne_nil _ _)]
      unfold appendLines
      split_ifs with hfits
      · rw [ih hrest, or_iff_right_iff_imp]
        rintro rfl
        simpa using hfits
      · -- the first piece is left out, and there is something in it
        have hlen : (out ++ line ++ lines.flatten).length
            = out.length + line.length + lines.flatten.length := by
          rw [List.length_append, List.length_append]
        refine iff_of_false (fun heq => ?_) (by omega)
        have := congrArg List.length heq
        omega

lemma length_captured {outputSize : ℕ} (h : 0 < outputSize) (s : CStr) :
    (captured outputSize s).length < outputSize := length_appendLines h _

/-- The output is complete when it is empty or leaves a byte to spare. -/
lemma captured_eq_iff {outputSize : ℕ} {s : CStr} :
    captured outputSize s = s ↔ s = [] ∨ s.length < outputSize - 1 := by
  have hlines : fgetsAll 256 s = [] ↔ s = [] := by
    constructor
    · intro hnil
      rw [← flatten_fgetsAll 256 s, hnil]
      rfl
    · rintro rfl
      rfl
  have h : appendLines outputSize [] (fgetsAll 256 s) = [] ++ (fgetsAll 256 s).flatten ↔
      fgetsAll 256 s = [] ∨ ([] ++ (fgetsAll 256 s).flatten).length < outputSize - 1 :=
    appendLines_eq_iff fun _ hl => ne_nil_of_mem_fgetsAll hl
  rwa [List.nil_append, flatten_fgetsAll, hlines] at h

lemma captured_of_lt {outputSize : ℕ} {s : CStr} (h : s.length < outputSize - 1) :
    captured outputSize s = s := captured_eq_iff.mpr (Or.inr h)

lemma appendLines_append {outputSize : ℕ} {out : CStr} {xs : List CStr}
    (h : (out ++ xs.flatten).length < outputSize - 1) (ys : List CStr) :
    appendLines outputSize out (xs ++ ys) = appendLines outputSize (out ++ xs.flatten) ys := by
  induction xs generalizing out with
  | nil => simp
  | cons x xs ih =>
      rw [List.flatten_cons, ← List.append_assoc] at h ⊢
      have hfits : out.length + x.length < outputSize - 1 := by
        rw [List.length_append, List.length_append] at h
        omega
      rw [List.cons_append, appendLines, if_pos hfits, ih h]

/-- Lines that leave a byte to spare are kept, whatever comes after them. -/
lemma captured_keeps_lines {outputSize : ℕ} {lines : List CStr}
    (h : (lines.flatMap fun l => l ++ ['\n']).length < outputSize - 1) (b : CStr) :
    (lines.flatMap fun l => l ++ ['\n']).length ≤
      (captured outputSize ((lines.flatMap fun l => l ++ ['\n']) ++ b)).length := by
  have hflat : (lines.flatMap fun l => fgetsAll 256 (l ++ ['\n'])).flatten =
      lines.flatMap fun l => l ++ ['\n'] := by
    simp only [List.flatMap, List.flatten_flatten, List.map_map, Function.comp_def,
      flatten_fgetsAll]
  have hgrows : ∀ (out : CStr) (ls : List CStr),
      out.length ≤ (appendLines outputSize out ls).length := by
    intro out ls
    induction ls generalizing out with
    | nil => exact le_rfl
    | cons l ls ih =>
        unfold appendLines
        split_ifs
        · exact le_trans (by rw [List.length_append]; omega) (ih (out ++ l))
        · exact le_rfl
  rw [captured, fgetsAll_append_lines, appendLines_append (by rwa [List.nil_append, hflat]),
    List.nil_append, hflat]
  exact hgrows _ _

lemma captured_eq_take (outputSize : ℕ) (s : CStr) :
    captured outputSize s = s.take (captured outputSize s).length :=
  List.prefix_iff_eq_take.mp (captured_isPrefix outputSize s)

/-- The lines that are found in the buffer: all that were printed, up to where it ends. -/
lemma tokens_captured (outputSize : ℕ) {lines : List CStr} (h : ∀ l ∈ lines, '\n' ∉ l) :
    tokens '\n' (captured outputSize (lines.flatMap fun l => l ++ ['\n'])) =
      (cutLines (captured outputSize (lines.flatMap fun l => l ++ ['\n'])).length lines).filter
        (· ≠ []) := by
  conv_lhs => rw [captured_eq_take]
  exact tokens_take_lines h _

/-- A reader that goes line by line finds what the lines hold, also when there was no room for an
ending of which it makes nothing. -/
lemma filterMap_tokens_captured {α : Type*} {outputSize : ℕ} {f : CStr → Option α}
    {lines ending : List CStr} (hlines : ∀ l ∈ lines ++ ending, '\n' ∉ l) (hnil : f [] = none)
    (hending : ∀ l ∈ ending, ∀ m, m <+: l → f m = none)
    (hroom : (lines.flatMap fun l => l ++ ['\n']).length < outputSize - 1) :
    (tokens '\n' (captured outputSize
      ((lines ++ ending).flatMap fun l => l ++ ['\n']))).filterMap f = lines.filterMap f := by
  have hempty : ∀ ls : List CStr, (ls.filter (· ≠ [])).filterMap f = ls.filterMap f := by
    intro ls
    rw [List.filterMap_filter]
    refine List.filterMap_congr fun l _ => ?_
    by_cases hl : l = []
    · rw [hl, hnil, ite_self]
    · simp [hl]
  have hkept := captured_keeps_lines hroom (ending.flatMap fun l => l ++ ['\n'])
  rw [← List.flatMap_append] at hkept
  have hrest : ∀ k, (cutLines k ending).filterMap f = [] := fun k =>
    List.filterMap_eq_nil_iff.mpr fun m hm => by
      obtain ⟨l, hl, hpre⟩ := prefix_of_mem_cutLines hm
      exact hending l hl m hpre
  rw [tokens_captured outputSize hlines, hempty]
  generalize (captured outputSize ((lines ++ ending).flatMap fun l => l ++ ['\n'])).length = k at *
  have hcut : cutLines k (lines ++ ending) = cutLines k lines ++ cutLines
      (k - (lines.flatMap fun l => l ++ ['\n']).length) ending := cutLines_append k lines ending
  rw [hcut, cutLines_of_le hkept, List.filterMap_append, hrest, List.append_nil]

/-- **A success means a complete output** exactly when the command fails, prints nothing, or prints
less than the buffer holds by two bytes.  A prefix that fits is stored in any case. -/
theorem execute_command_whole_iff (r : CommandRun) {outputSize : ℕ} (hsize : 1 ≤ outputSize) :
    (∃ stored, (executeCommand (some r) outputSize).2 = some stored ∧ stored <+: r.output ∧
      stored.length < outputSize ∧
      ((executeCommand (some r) outputSize).1 = .success → stored = r.output)) ↔
      r.status ≠ .exited 0 ∨ r.output = [] ∨ r.output.length < outputSize - 1 := by
  have hstored : (executeCommand (some r) outputSize).2 = some (captured outputSize r.output) :=
    if_pos hsize
  have hcode := executeCommand_eq_success_iff r outputSize
  rw [hcode, hstored, ← captured_eq_iff]
  constructor
  · rintro ⟨stored, heq, -, -, hwhole⟩
    obtain rfl := Option.some.inj heq
    exact not_or_of_imp hwhole
  · intro h
    exact ⟨_, rfl, captured_isPrefix _ _, length_captured hsize _,
      fun hstatus => h.resolve_left fun hne => hne hstatus⟩

/-- Two bytes in a buffer of four. -/
theorem execute_command_whole_ok :
    ∃ stored, (executeCommand (some ⟨['o', 'k'], .exited 0⟩) 4).2 = some stored ∧
      stored <+: ['o', 'k'] ∧ stored.length < 4 ∧
      ((executeCommand (some ⟨['o', 'k'], .exited 0⟩) 4).1 = .success → stored = ['o', 'k']) :=
  (execute_command_whole_iff ⟨['o', 'k'], .exited 0⟩ (by decide)).mpr (by decide)

/-- Two bytes in a buffer of three, where there is room for them: nothing is stored, and the code is
`SUCCESS`. -/
theorem execute_command_truncates :
    ¬ ∀ (r : CommandRun) (outputSize : ℕ), 1 ≤ outputSize →
      ∃ stored, (executeCommand (some r) outputSize).2 = some stored ∧ stored <+: r.output ∧
        stored.length < outputSize ∧
        ((executeCommand (some r) outputSize).1 = .success → stored = r.output) := by
  intro hclaim
  obtain ⟨stored, heq, -, -, hwhole⟩ := hclaim ⟨['o', 'k'], .exited 0⟩ 3 (by decide)
  have hstored : stored = [] := Option.some.inj (heq.symm.trans rfl)
  exact absurd (hwhole rfl) (by rw [hstored]; decide)

end Storage

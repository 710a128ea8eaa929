import StorageManager.Kernel.Stats

/-!
# Commands for the kernel module

`storage_stats_write` takes what is written to `/proc/storage_stats` as a command: up to 63 bytes
are copied into `cmd`, a final newline is dropped, and the text in front of the first NUL is
compared.

* `StatsCommand` — the commands there are, with their texts and what they do.
* `cmdIndices` — the places of `cmd` that are used.  An empty write looks at `cmd[count - 1]`.
* `storageStatsWrite_of_other` — what is not a command is refused, unless it begins with `debug `.
* `stats_write_exact_iff` — for which writes this is the language of the commands.
-/

namespace Storage

open CString

/-- The variables of the module. -/
structure StatsModule where
  table : StatsTable
  debug : ℤ

/-- `sizeof (cmd)`. -/
def cmdSize : ℕ := 64

/-- `-EINVAL`. -/
def einval : ℤ := -22

lemma einval_neg : einval < 0 := by decide

/-- `-EFAULT`. -/
def efault : ℤ := -14

/-- The bytes without a newline at the end. -/
def dropNewline (bytes : List Char) : List Char :=
  if bytes.getLast? = some '\n' then bytes.dropLast else bytes

/-- The string in `cmd`; it ends at the first NUL. -/
def statsCommand (bytes : List Char) : CStr := (dropNewline bytes).takeWhile (· ≠ '\x00')

/-- `storage_stats_write` of these bytes; `copied` says that `copy_from_user` succeeds. -/
def storageStatsWrite (m : StatsModule) (copied : Bool) (bytes : List Char) : StatsModule × ℤ :=
  if cmdSize ≤ bytes.length then (m, einval)
  else if copied = false then (m, efault)
  else
    let cmd := statsCommand bytes
    if cmd = "reset".toList then ({ m with table := resetStats m.table }, bytes.length)
    else if "debug ".toList <+: cmd then
      if cmd.drop 6 = "on".toList then ({ m with debug := 1 }, bytes.length)
      else if cmd.drop 6 = "off".toList then ({ m with debug := 0 }, bytes.length)
      else (m, bytes.length)
    else (m, einval)

/-- The places of `cmd` that are read or written: the copy, the terminator, the test for a newline,
and the string with its end. -/
def cmdIndices (bytes : List Char) : List ℤ :=
  if cmdSize ≤ bytes.length then []
  else (List.range bytes.length).map Int.ofNat ++ [(bytes.length : ℤ), (bytes.length : ℤ) - 1] ++
    (List.range ((statsCommand bytes).length + 1)).map Int.ofNat

/-! ## The language -/

/-- The three commands. -/
inductive StatsCommand
  | reset
  | debugOn
  | debugOff
  deriving DecidableEq, Repr

namespace StatsCommand

/-- What has to be written for the command. -/
def text : StatsCommand → CStr
  | reset => "reset".toList
  | debugOn => "debug on".toList
  | debugOff => "debug off".toList

/-- What the command is for. -/
def act (m : StatsModule) : StatsCommand → StatsModule
  | reset => { m with table := resetStats m.table }
  | debugOn => { m with debug := 1 }
  | debugOff => { m with debug := 0 }

end StatsCommand

/-- The write stays inside `cmd`, does what the command says if the bytes are one, and is refused
if they are not. -/
def ExactWrite (m : StatsModule) (bytes : List Char) : Prop :=
  (∀ i ∈ cmdIndices bytes, 0 ≤ i ∧ i ≤ 63) ∧
    (∀ c : StatsCommand, dropNewline bytes = c.text →
      storageStatsWrite m true bytes = (c.act m, (bytes.length : ℤ))) ∧
    ((∀ c : StatsCommand, dropNewline bytes ≠ c.text) →
      (storageStatsWrite m true bytes).1 = m ∧ (storageStatsWrite m true bytes).2 < 0)

/-! ## The string in `cmd` -/

section Command

variable {bytes : List Char}

lemma length_dropNewline_le (bytes : List Char) : (dropNewline bytes).length ≤ bytes.length := by
  unfold dropNewline
  split_ifs
  · rw [List.length_dropLast]
    omega
  · exact le_rfl

lemma le_length_dropNewline (bytes : List Char) :
    bytes.length ≤ (dropNewline bytes).length + 1 := by
  unfold dropNewline
  split_ifs
  · rw [List.length_dropLast]
    omega
  · omega

lemma length_statsCommand_le (bytes : List Char) : (statsCommand bytes).length ≤ bytes.length :=
  le_trans (List.takeWhile_prefix _).length_le (length_dropNewline_le bytes)

/-- A command has no NUL in it, so all of it is compared. -/
lemma statsCommand_of_text {c : StatsCommand} (h : dropNewline bytes = c.text) :
    statsCommand bytes = c.text := by
  rw [statsCommand, h]
  cases c <;> rfl

lemma length_lt_of_text {c : StatsCommand} (h : dropNewline bytes = c.text) :
    bytes.length < cmdSize := by
  have hlen : c.text.length ≤ 9 := by cases c <;> decide
  have hbytes := le_length_dropNewline bytes
  rw [h] at hbytes
  rw [cmdSize]
  omega

/-- Only an empty write leaves the array. -/
lemma cmdIndices_iff : (∀ i ∈ cmdIndices bytes, 0 ≤ i ∧ i ≤ 63) ↔ bytes ≠ [] := by
  have hcmd := length_statsCommand_le bytes
  constructor
  · rintro h rfl
    have hbefore : (-1 : ℤ) ∈ cmdIndices [] := by decide
    exact absurd (h _ hbefore).1 (by decide)
  · intro hne i hi
    have hpos := List.length_pos_iff_ne_nil.mpr hne
    unfold cmdIndices at hi
    split_ifs at hi with hlong
    · exact absurd hi List.not_mem_nil
    · rw [cmdSize] at hlong
      simp only [List.mem_append, List.mem_map, List.mem_range, List.mem_cons, List.not_mem_nil,
        or_false] at hi
      rcases hi with (⟨n, hn, rfl⟩ | rfl | rfl) | ⟨n, hn, rfl⟩
      · exact ⟨Int.natCast_nonneg n, by simp only [Int.ofNat_eq_natCast]; omega⟩
      · omega
      · omega
      · exact ⟨Int.natCast_nonneg n, by simp only [Int.ofNat_eq_natCast]; omega⟩

end Command

/-! ## What a write does -/

section Write

variable {m : StatsModule} {bytes : List Char}

lemma storageStatsWrite_of_long (h : cmdSize ≤ bytes.length) :
    storageStatsWrite m true bytes = (m, einval) := if_pos h

lemma storageStatsWrite_of_command (hlen : bytes.length < cmdSize) {c : StatsCommand}
    (h : statsCommand bytes = c.text) :
    storageStatsWrite m true bytes = (c.act m, (bytes.length : ℤ)) := by
  rw [storageStatsWrite, if_neg (not_le.mpr hlen), if_neg Bool.noConfusion]
  dsimp only
  rw [h]
  cases c <;> rfl

/-- A text that begins with `debug ` and goes on with neither `on` nor `off` has no effect, and is
not refused. -/
lemma storageStatsWrite_of_other (hlen : bytes.length < cmdSize)
    (h : ∀ c : StatsCommand, statsCommand bytes ≠ c.text) :
    storageStatsWrite m true bytes =
      (m, if "debug ".toList <+: statsCommand bytes then (bytes.length : ℤ) else einval) := by
  have hsplit : ∀ {w : CStr}, "debug ".toList <+: statsCommand bytes →
      (statsCommand bytes).drop 6 = w → statsCommand bytes = "debug ".toList ++ w := by
    rintro w ⟨rest, hrest⟩ rfl
    rw [← hrest]
    rfl
  rw [storageStatsWrite, if_neg (not_le.mpr hlen), if_neg Bool.noConfusion]
  dsimp only
  have hreset : statsCommand bytes ≠ "reset".toList := h .reset
  rw [if_neg hreset]
  by_cases hdebug : "debug ".toList <+: statsCommand bytes
  · have hon : (statsCommand bytes).drop 6 ≠ "on".toList :=
      fun hw => h .debugOn (hsplit hdebug hw)
    have hoff : (statsCommand bytes).drop 6 ≠ "off".toList :=
      fun hw => h .debugOff (hsplit hdebug hw)
    rw [if_pos hdebug, if_pos hdebug, if_neg hon, if_neg hoff]
  · rw [if_neg hdebug, if_neg hdebug]

end Write

/-- **A write is taken for what it is** exactly if it is not empty and is too long, or a command, or
up to its first NUL neither `reset` nor something after `debug `. -/
theorem stats_write_exact_iff (m : StatsModule) (bytes : List Char) :
    ExactWrite m bytes ↔
      bytes ≠ [] ∧ (64 ≤ bytes.length ∨ (∃ c : StatsCommand, dropNewline bytes = c.text) ∨
        ((dropNewline bytes).takeWhile (· ≠ '\x00') ≠ "reset".toList ∧
          ¬ "debug ".toList <+: (dropNewline bytes).takeWhile (· ≠ '\x00'))) := by
  rw [ExactWrite, cmdIndices_iff, ← statsCommand]
  refine and_congr_right fun hne => ?_
  have hcount : ¬ (bytes.length : ℤ) < 0 := not_lt.mpr (Int.natCast_nonneg _)
  constructor
  · rintro ⟨-, hother⟩
    by_cases hlong : 64 ≤ bytes.length
    · exact Or.inl hlong
    by_cases hlang : ∃ c : StatsCommand, dropNewline bytes = c.text
    · exact Or.inr (Or.inl hlang)
    have hlen : bytes.length < cmdSize := not_le.mp hlong
    have hneg := (hother (not_exists.mp hlang)).2
    -- what is refused is no command, also not up to its first NUL
    have hnone : ∀ c : StatsCommand, statsCommand bytes ≠ c.text := by
      intro c hc
      rw [storageStatsWrite_of_command hlen hc] at hneg
      exact hcount hneg
    rw [storageStatsWrite_of_other hlen hnone] at hneg
    refine Or.inr (Or.inr ⟨hnone .reset, fun hdebug => ?_⟩)
    rw [if_pos hdebug] at hneg
    exact hcount hneg
  · intro h
    constructor
    · intro c hc
      exact storageStatsWrite_of_command (length_lt_of_text hc) (statsCommand_of_text hc)
    · intro hnone
      rcases h with hlong | hlang | ⟨hreset, hdebug⟩
      · rw [storageStatsWrite_of_long hlong]
        exact ⟨rfl, einval_neg⟩
      · obtain ⟨c, hc⟩ := hlang
        exact absurd hc (hnone c)
      · rcases Nat.lt_or_ge bytes.length cmdSize with hlen | hlong
        · have hother : ∀ c : StatsCommand, statsCommand bytes ≠ c.text := by
            intro c hc
            cases c with
            | reset => exact hreset hc
            | debugOn => exact hdebug ⟨"on".toList, hc.symm⟩
            | debugOff => exact hdebug ⟨"off".toList, hc.symm⟩
          rw [storageStatsWrite_of_other hlen hother, if_neg hdebug]
          exact ⟨rfl, einval_neg⟩
        · rw [storageStatsWrite_of_long hlong]
          exact ⟨rfl, einval_neg⟩

/-- A text that is no command, and is not refused. -/
lemma not_exactWrite {s : StatsModule} {bytes : CStr}
    (hcommand : ∀ c : StatsCommand, dropNewline bytes ≠ c.text)
    (hnonneg : ¬ (storageStatsWrite s true bytes).2 < 0) : ¬ ExactWrite s bytes :=
  fun hexact => hnonneg (hexact.2.2 hcommand).2

/-- An empty write looks in front of the array, an argument that does not exist is accepted, and
what stands behind a NUL does not count. -/
theorem stats_write_accepts_more :
    ¬ ExactWrite ⟨.init, 0⟩ [] ∧ ¬ ExactWrite ⟨.init, 0⟩ "debug x".toList ∧
      ¬ ExactWrite ⟨.init, 0⟩ "reset\x00y".toList := by
  refine ⟨fun hexact => ?_, not_exactWrite ?_ (by decide), not_exactWrite ?_ (by decide)⟩
  · exact absurd (hexact.1 (-1) (by decide)).1 (by decide)
  · intro c
    cases c <;> decide
  · intro c
    cases c <;> decide

end Storage

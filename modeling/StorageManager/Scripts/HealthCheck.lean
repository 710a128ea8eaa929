import StorageManager.Volumes.Physical
import StorageManager.Volumes.RaidStatus

/-!
# The state of an array in two readings

The line `State : w1, w2, ...` of `mdadm --detail` is read twice in this program: by
`raid_get_status`, which looks for `active` and `degraded` anywhere in the line, and by `check_raid`
of `health_check.sh`, which compares the third field of the line.

* `infix_stateText_take` — what `raid_get_status` finds are words with `active` or `degraded` in
  them, as far as they are kept.
* `telling_iff_of_lt` — for an output that is kept whole, the condition in terms of the words.
* `accepted_iff` — `check_raid` accepts a line with the one word `clean` or `active`.
* `raid_status_iff` — for which words the status is that of the first word and of the words
  `degraded` and `FAILED`.  An array that is `clean` and nothing else is `failed`.
-/

namespace Storage

open CString Shell

/-! ## `check_raid` -/

/-- `grep "State :" | awk '{print $3}'` of an output, as `$(..)` returns it. -/
def raidState (output : CStr) : CStr :=
  (((tokens '\n' output).filter fun l => stateLabel <:+: l).flatMap fun l =>
    ((fields l)[2]?).getD [] ++ ['\n']).rdropWhile (· == '\n')

/-- The test of `check_raid` on an array. -/
def Accepted (output : CStr) : Prop :=
  raidState output = "clean".toList ∨ raidState output = "active".toList

instance (output : CStr) : Decidable (Accepted output) := inferInstanceAs (Decidable (_ ∨ _))

/-- The arrays of `/proc/mdstat`. -/
def raidArrays (mdstat : CStr) : List CStr :=
  ((tokens '\n' mdstat).filter fun l => "md".toList <+: l).map fun l => ((fields l)[0]?).getD []

/-- `check_raid`, given `/proc/mdstat` if it is there and what `mdadm --detail` prints for each
device. -/
def checkRaid (mdstat : Option CStr) (detail : CStr → CStr) : ℕ :=
  match mdstat with
  | none => 0
  | some content =>
      if ∀ array ∈ raidArrays content, Accepted (detail ("/dev/".toList ++ array)) then 0 else 1

/-! ## The output -/

/-- A word of the state, such as `clean` or `recovering`. -/
structure StateWord extends Word where
  no_comma : ',' ∉ text
  no_colon : ':' ∉ text

/-- The words of a line, with commas between them. -/
def joinWords : List CStr → CStr
  | [] => []
  | [w] => w
  | w :: v :: ws => w ++ ',' :: ' ' :: joinWords (v :: ws)

/-- An output with one line about the state. -/
structure StateOutput where
  before : List CStr
  indent : ℕ
  stateWords : List StateWord
  trail : ℕ
  after : List CStr
  before_ok : ∀ l ∈ before, '\n' ∉ l ∧ ¬ stateLabel <:+: l
  after_ok : ∀ l ∈ after, '\n' ∉ l ∧ ¬ stateLabel <:+: l

namespace StateOutput

variable (o : StateOutput)

/-- The words of the state. -/
def words : List CStr := o.stateWords.map (·.text)

/-- The line after its colon. -/
def stateRest : CStr := ' ' :: (joinWords o.words ++ blanks o.trail)

/-- The line about the state. -/
def stateText : CStr := blanks o.indent ++ (stateCaption ++ ':' :: o.stateRest)

/-- All lines. -/
def lines : List CStr := o.before ++ o.stateText :: o.after

/-- The output of `mdadm --detail`. -/
def text : CStr := o.lines.flatMap fun l => l ++ ['\n']

/-- Where the words begin in the output. -/
def column : ℕ := (o.before.flatMap fun l => l ++ ['\n']).length + o.indent + 8

end StateOutput

/-- The words of which only `k` characters are left, with a comma and a blank after each. -/
def cutWords : ℕ → List CStr → List CStr
  | _, [] => []
  | k, w :: ws => w.take k :: cutWords (k - (w.length + 2)) ws

/-- The words as far as `execute_command` keeps them. -/
def StateOutput.seenWords (o : StateOutput) : List CStr :=
  cutWords ((captured maxOutput o.text).length - o.column) o.words

/-! ## What is right -/

/-- The array works: it is clean or active, and has not failed. -/
def Working (ws : List CStr) : Prop :=
  (ws.head? = some "clean".toList ∨ ws.head? = some "active".toList) ∧ "FAILED".toList ∉ ws

instance (ws : List CStr) : Decidable (Working ws) := inferInstanceAs (Decidable (_ ∧ _))

/-- The status that the words stand for. -/
def wordsStatus (ws : List CStr) : RaidStatus :=
  if Working ws then if "degraded".toList ∈ ws then .degraded else .active else .failed

/-- Some of these words has `w` in it. -/
def Mentions (w : String) (ws : List CStr) : Prop := ∃ v ∈ ws, w.toList <:+: v

instance (w : String) (ws : List CStr) : Decidable (Mentions w ws) :=
  inferInstanceAs (Decidable (∃ v ∈ ws, _))

/-- The label is kept.  If the array works, some word says `active`, and one says `degraded` only if
that is a word; if it does not, no word says `active`. -/
def StateOutput.Telling (o : StateOutput) : Prop :=
  o.column ≤ (captured maxOutput o.text).length + 1 ∧
    if Working o.words then
      Mentions "active" o.seenWords ∧
        if "degraded".toList ∈ o.words then Mentions "degraded" o.seenWords
        else ¬ Mentions "degraded" o.seenWords
    else ¬ Mentions "active" o.seenWords

instance (o : StateOutput) : Decidable o.Telling := by
  unfold StateOutput.Telling
  infer_instance

/-! ## Looking for a word in the line -/

section Search

variable {w : CStr}

lemma infix_blanks (hw : w ≠ []) (hblank : ' ' ∉ w) (n : ℕ) : ¬ w <:+: blanks n := by
  have h := infix_blanks_append hw hblank n []
  rw [List.append_nil, List.infix_nil] at h
  exact fun hsub => hw (h.mp hsub)

/-- Blanks at the end make no difference. -/
lemma infix_append_blanks_take (hw : w ≠ []) (hblank : ' ' ∉ w) (v : CStr) (n k : ℕ) :
    w <:+: (v ++ blanks n).take k ↔ w <:+: v.take k := by
  have hcut : (v ++ blanks n).take k = v.take k ++ blanks (min (k - v.length) n) := by
    rw [List.take_append, blanks, List.take_replicate, blanks]
  rw [hcut]
  cases min (k - v.length) n with
  | zero => rw [show blanks 0 = [] from rfl, List.append_nil]
  | succ m =>
      rw [show blanks (m + 1) = ' ' :: blanks m from rfl, infix_append_cons_iff hblank,
        or_iff_left (infix_blanks hw hblank m)]

/-- A word without commas and blanks is on one side of a comma and a blank. -/
lemma infix_append_comma_take (hw : w ≠ []) (hblank : ' ' ∉ w) (hcomma : ',' ∉ w) (v s : CStr)
    (k : ℕ) :
    w <:+: (v ++ ',' :: ' ' :: s).take k ↔
      w <:+: v.take k ∨ w <:+: s.take (k - (v.length + 2)) := by
  rcases Nat.lt_or_ge v.length k with hlong | hshort
  · obtain ⟨j, hj⟩ : ∃ j, k - v.length = j + 1 := ⟨k - v.length - 1, by omega⟩
    rw [List.take_append, List.take_of_length_le hlong.le, hj, List.take_succ_cons,
      infix_append_cons_iff hcomma]
    refine or_congr_right ?_
    cases j with
    | zero => rw [show k - (v.length + 2) = 0 by omega, List.take_zero, List.take_zero]
    | succ j =>
        have hsplit : (' ' :: s).take (j + 1) = [] ++ ' ' :: s.take j := rfl
        rw [hsplit, infix_append_cons_iff hblank, List.infix_nil, or_iff_right hw,
          show k - (v.length + 2) = j by omega]
  · rw [List.take_append_of_le_length hshort, show k - (v.length + 2) = 0 by omega,
      List.take_zero, List.infix_nil, or_iff_left hw]

/-- A word without commas and blanks is found in the words. -/
lemma infix_joinWords_take (hw : w ≠ []) (hblank : ' ' ∉ w) (hcomma : ',' ∉ w) (trail : ℕ)
    (ws : List CStr) (k : ℕ) :
    w <:+: (joinWords ws ++ blanks trail).take k ↔ ∃ v ∈ cutWords k ws, w <:+: v := by
  rw [infix_append_blanks_take hw hblank]
  fun_induction joinWords ws generalizing k with
  | case1 => simp [cutWords, hw]
  | case2 v => simp [cutWords]
  | case3 v u ws ih =>
      rw [cutWords, List.exists_mem_cons_iff, infix_append_comma_take hw hblank hcomma, ih]

end Search

/-! ## What `raid_get_status` sees -/

section Seen

variable (o : StateOutput)

lemma notMem_joinWords {c : Char} (hcomma : c ≠ ',') (hblank : c ≠ ' ') {ws : List CStr}
    (h : ∀ w ∈ ws, c ∉ w) : c ∉ joinWords ws := by
  fun_induction joinWords ws with
  | case1 => exact List.not_mem_nil
  | case2 w => exact h w List.mem_cons_self
  | case3 w v ws ih =>
      obtain ⟨hw, hrest⟩ := List.forall_mem_cons.mp h
      simp only [List.mem_append, List.mem_cons, not_or]
      exact ⟨hw, hcomma, hblank, ih hrest⟩

lemma colon_notMem_stateRest : ':' ∉ o.stateRest := by
  have hwords : ':' ∉ joinWords o.words := by
    refine notMem_joinWords (by decide) (by decide) fun w hw => ?_
    obtain ⟨v, -, rfl⟩ := List.mem_map.mp hw
    exact v.no_colon
  simp only [StateOutput.stateRest, List.mem_cons, List.mem_append, not_or]
  exact ⟨by decide, hwords, notMem_blanks (by decide) _⟩

/-- The line as far as `j` characters of it are kept, when these have the label. -/
lemma stateText_take {j : ℕ} (h : o.indent + 7 ≤ j) :
    o.stateText.take j =
      blanks o.indent ++ (stateCaption ++ ':' :: o.stateRest.take (j - (o.indent + 7))) := by
  have hlead : o.stateText = (blanks o.indent ++ (stateCaption ++ [':'])) ++ o.stateRest := by
    simp [StateOutput.stateText]
  have hlen : (blanks o.indent ++ (stateCaption ++ [':'])).length = o.indent + 7 := by
    rw [List.length_append, length_blanks]
    rfl
  rw [hlead, List.take_append, hlen, List.take_of_length_le (by omega)]
  simp

lemma stateLabel_infix_iff (j : ℕ) : stateLabel <:+: o.stateText.take j ↔ o.indent + 7 ≤ j := by
  constructor
  · intro h
    by_contra hshort
    -- what is kept ends before the colon
    have hcolon : ':' ∈ o.stateText.take j := h.subset (by simp [stateLabel])
    have hlead : o.stateText = (blanks o.indent ++ stateCaption) ++ ':' :: o.stateRest := by
      simp [StateOutput.stateText]
    have hlen : (blanks o.indent ++ stateCaption).length = o.indent + 6 := by
      rw [List.length_append, length_blanks]
      rfl
    rw [hlead, List.take_append_of_le_length (by omega)] at hcolon
    rcases List.mem_append.mp (List.mem_of_mem_take hcolon) with hmem | hmem
    · exact notMem_blanks (by decide) _ hmem
    · exact colon_notMem_caption _ stateCaption_mem hmem
  · intro h
    rw [stateText_take o h]
    exact ⟨blanks o.indent, o.stateRest.take (j - (o.indent + 7)), by simp [stateLabel]⟩

/-- A word that is not in the label is found in the words. -/
lemma infix_stateText_take {w : CStr} (hblank : ' ' ∉ w) (hcomma : ',' ∉ w) (hcolon : ':' ∉ w)
    (hstate : ¬ w <:+: "State".toList) {j : ℕ} (hj : o.indent + 7 ≤ j) :
    w <:+: o.stateText.take j ↔ ∃ v ∈ cutWords (j - (o.indent + 8)) o.words, w <:+: v := by
  have hw : w ≠ [] := by
    rintro rfl
    exact hstate (List.nil_infix)
  have hcaption : stateCaption ++ ':' :: o.stateRest.take (j - (o.indent + 7)) =
      "State".toList ++ ' ' :: ([] ++ ':' :: o.stateRest.take (j - (o.indent + 7))) := rfl
  rw [stateText_take o hj, infix_blanks_append hw hblank, hcaption, infix_append_cons_iff hblank,
    or_iff_right hstate, infix_append_cons_iff hcolon, List.infix_nil, or_iff_right hw]
  rw [← infix_joinWords_take hw hblank hcomma o.trail]
  rcases Nat.eq_or_lt_of_le hj with rfl | hlt
  · rw [Nat.sub_self, List.take_zero, show o.indent + 7 - (o.indent + 8) = 0 by omega,
      List.take_zero]
  · obtain ⟨i, rfl⟩ : ∃ i, j = o.indent + 8 + i := ⟨j - (o.indent + 8), by omega⟩
    have hrest : o.stateRest.take (o.indent + 8 + i - (o.indent + 7)) =
        [] ++ ' ' :: (joinWords o.words ++ blanks o.trail).take i := by
      rw [show o.indent + 8 + i - (o.indent + 7) = i + 1 by omega]
      rfl
    rw [hrest, infix_append_cons_iff hblank, List.infix_nil, or_iff_right hw,
      Nat.add_sub_cancel_left]

/-- Where the line begins in the output. -/
def StateOutput.offset (o : StateOutput) : ℕ := (o.before.flatMap fun l => l ++ ['\n']).length

lemma foldl_detailLine_status (a : RaidArray) {lines : List CStr}
    (h : ∀ l ∈ lines, ¬ stateLabel <:+: l) : (lines.foldl detailLine a).status = a.status := by
  induction lines generalizing a with
  | nil => rfl
  | cons l lines ih =>
      obtain ⟨hl, hlines⟩ := List.forall_mem_cons.mp h
      rw [List.foldl_cons, ih _ hlines, detailLine_status a hl]

/-- Cut lines have no label that the lines do not have. -/
lemma not_stateLabel_cutLines {lines : List CStr} (h : ∀ l ∈ lines, '\n' ∉ l ∧ ¬ stateLabel <:+: l)
    (k : ℕ) : ∀ l ∈ cutLines k lines, ¬ stateLabel <:+: l := by
  intro l hl hsub
  obtain ⟨m, hm, hpre⟩ := prefix_of_mem_cutLines hl
  exact (h m hm).2 (hsub.trans hpre.isInfix)

/-- The status after the lines of the output, cut after `k` characters. -/
lemma status_cutLines (a : RaidArray) (k : ℕ) :
    ((cutLines k o.lines).foldl detailLine a).status =
      if o.indent + 7 ≤ k - o.offset then some (lineStatus (o.stateText.take (k - o.offset)))
      else a.status := by
  have hcut : cutLines k o.lines = cutLines k o.before ++ o.stateText.take (k - o.offset) ::
      cutLines (k - o.offset - (o.stateText.length + 1)) o.after := cutLines_append k _ _
  rw [hcut, List.foldl_append, List.foldl_cons,
    foldl_detailLine_status _ (not_stateLabel_cutLines o.after_ok _)]
  have hbefore := foldl_detailLine_status a (not_stateLabel_cutLines o.before_ok k)
  split_ifs with hlabel
  · have hrest : ':' ∉ o.stateRest.take (k - o.offset - (o.indent + 7)) := fun h =>
      colon_notMem_stateRest o (List.mem_of_mem_take h)
    rw [stateText_take o hlabel, detailLine_state hrest]
  · rw [detailLine_status _ fun h => hlabel ((stateLabel_infix_iff o _).mp h), hbefore]

lemma newline_notMem_stateText : '\n' ∉ o.stateText := by
  have hwords : '\n' ∉ joinWords o.words := by
    refine notMem_joinWords (by decide) (by decide) fun w hw => ?_
    obtain ⟨v, -, rfl⟩ := List.mem_map.mp hw
    exact v.newline_notMem
  have hblanks : ∀ n, '\n' ∉ blanks n := notMem_blanks (by decide)
  simp only [StateOutput.stateText, StateOutput.stateRest, List.mem_append, List.mem_cons, not_or]
  exact ⟨hblanks _, by decide, by decide, by decide, hwords, hblanks _⟩

lemma newline_notMem_stateLines : ∀ l ∈ o.lines, '\n' ∉ l := by
  intro l hl
  rcases List.mem_append.mp hl with hl | hl
  · exact (o.before_ok l hl).1
  · rcases List.mem_cons.mp hl with rfl | hl
    · exact newline_notMem_stateText o
    · exact (o.after_ok l hl).1

/-- Two tests for the first status and two for the second agree. -/
lemma ite_status_iff {p q r s : Prop} [Decidable p] [Decidable q] [Decidable r] [Decidable s] :
    (if p then if q then RaidStatus.degraded else .active else .failed) =
      (if r then if s then RaidStatus.degraded else .active else .failed) ↔
      if r then p ∧ if s then q else ¬ q else ¬ p := by
  by_cases hp : p <;> by_cases hr : r <;> by_cases hq : q <;> by_cases hs : s <;>
    simp [hp, hr, hq, hs]

/-- **What `raid_get_status` makes of the line**: the part of it that is kept is searched. -/
lemma status_parseDetail (a : RaidArray) (ha : a.status = none) :
    (parseDetail a (captured maxOutput o.text)).status = some (wordsStatus o.words) ↔
      o.Telling := by
  obtain ⟨kept, hkept⟩ : ∃ kept, (captured maxOutput o.text).length = kept := ⟨_, rfl⟩
  have hstatus : (parseDetail a (captured maxOutput o.text)).status =
      if o.indent + 7 ≤ kept - o.offset then some (lineStatus (o.stateText.take (kept - o.offset)))
      else none := by
    rw [captured_eq_take, hkept, parseDetail, StateOutput.text,
      tokens_take_lines (newline_notMem_stateLines o), foldl_detailLine_filter, status_cutLines, ha]
  have hcolumn : o.column = o.offset + o.indent + 8 := rfl
  rw [hstatus, StateOutput.Telling, StateOutput.seenWords, hkept, hcolumn]
  by_cases hlabel : o.indent + 7 ≤ kept - o.offset
  · have hseen : kept - (o.offset + o.indent + 8) = kept - o.offset - (o.indent + 8) := by omega
    have hactive := infix_stateText_take o (w := "active".toList) (by decide) (by decide)
      (by decide) (by decide) hlabel
    have hdegraded := infix_stateText_take o (w := "degraded".toList) (by decide) (by decide)
      (by decide) (by decide) hlabel
    have hcol : o.offset + o.indent + 8 ≤ kept + 1 := by omega
    rw [if_pos hlabel, hseen, Mentions, Mentions, ← hactive, ← hdegraded, and_iff_right hcol]
    exact Option.some_inj.trans ite_status_iff
  · rw [if_neg hlabel]
    exact iff_of_false (by simp) fun h => hlabel (by omega)

end Seen

/-! ## Outputs that are kept whole -/

lemma cutWords_of_le {ws : List CStr} {k : ℕ} (h : (joinWords ws).length ≤ k) :
    cutWords k ws = ws := by
  fun_induction joinWords ws generalizing k with
  | case1 => rfl
  | case2 w => rw [cutWords, cutWords, List.take_of_length_le h]
  | case3 w v ws ih =>
      rw [List.length_append, List.length_cons, List.length_cons] at h
      rw [cutWords, List.take_of_length_le (by omega), ih (by omega)]

/-- When all of the output is kept, what counts are the words. -/
theorem telling_iff_of_lt {o : StateOutput} (h : o.text.length < maxOutput - 1) :
    o.Telling ↔
      if Working o.words then
        Mentions "active" o.words ∧ ("degraded".toList ∈ o.words ∨ ¬ Mentions "degraded" o.words)
      else ¬ Mentions "active" o.words := by
  have hlen : o.column + (joinWords o.words).length ≤ o.text.length := by
    have htext : o.text.length = (o.before.flatMap fun l => l ++ ['\n']).length +
        (o.stateText.length + 1 + (o.after.flatMap fun l => l ++ ['\n']).length) := by
      rw [StateOutput.text, StateOutput.lines, List.flatMap_append, List.length_append,
        List.flatMap_cons, List.length_append, List.length_append, List.length_singleton]
    have hline : o.stateText.length = o.indent + (6 + (1 + (1 + ((joinWords o.words).length +
        o.trail)))) := by
      have hcaption : stateCaption.length = 6 := rfl
      simp only [StateOutput.stateText, StateOutput.stateRest, List.length_append,
        List.length_cons, length_blanks, hcaption]
      omega
    rw [htext, hline, StateOutput.column]
    omega
  have hseen : o.seenWords = o.words := by
    rw [StateOutput.seenWords, captured_of_lt h]
    exact cutWords_of_le (by omega)
  have hmentions : "degraded".toList ∈ o.words → Mentions "degraded" o.words := fun hmem =>
    ⟨_, hmem, List.infix_refl _⟩
  rw [StateOutput.Telling, hseen, captured_of_lt h, and_iff_right (by omega)]
  by_cases hdegraded : "degraded".toList ∈ o.words
  · simp only [hdegraded, hmentions hdegraded, if_true, true_or]
  · simp only [hdegraded, if_false, false_or]

/-! ## What `check_raid` sees -/

section Check

variable (o : StateOutput)

/-- The third field of the line. -/
def thirdField : List CStr → CStr
  | [] => []
  | [w] => w
  | w :: _ :: _ => w ++ [',']

lemma fields_joinWords {ws : List CStr} (hne : ∀ w ∈ ws, w ≠ [])
    (hws : ∀ w ∈ ws, ∀ c ∈ w, isSpace c = false) :
    ((fields (joinWords ws))[0]?).getD [] = thirdField ws := by
  cases ws with
  | nil => rfl
  | cons w ws =>
      obtain ⟨hw, -⟩ := List.forall_mem_cons.mp hws
      cases ws with
      | nil => rw [joinWords, fields_of_noSpace (hne w List.mem_cons_self) hw]; rfl
      | cons v ws =>
          have hcomma : ∀ c ∈ w ++ [','], isSpace c = false := by
            rw [List.forall_mem_append, List.forall_mem_singleton]
            exact ⟨hw, by decide⟩
          have hsplit : joinWords (w :: v :: ws) = (w ++ [',']) ++ ' ' :: joinWords (v :: ws) := by
            simp [joinWords]
          rw [hsplit, fields_append_blank, fields_of_noSpace (by simp) hcomma]
          rfl

lemma mem_words {w : CStr} (h : w ∈ o.words) : w ≠ [] ∧ ∀ c ∈ w, isSpace c = false := by
  obtain ⟨v, -, rfl⟩ := List.mem_map.mp h
  exact ⟨v.ne_nil, v.noSpace⟩

lemma stateText_third : ((fields o.stateText)[2]?).getD [] = thirdField o.words := by
  have hlead : stateCaption ++ ':' :: o.stateRest =
      "State".toList ++ ' ' :: ([':'] ++ ' ' :: (joinWords o.words ++ blanks o.trail)) := rfl
  rw [StateOutput.stateText, fields_blanks_append, hlead, fields_append_blank, fields_append_blank,
    fields_append_blanks, fields_of_noSpace (by decide) (noSpace_of_all rfl),
    fields_of_noSpace (by decide) (noSpace_of_all rfl)]
  exact fields_joinWords (fun w hw => (mem_words o hw).1) fun w hw => (mem_words o hw).2

lemma newline_notMem_thirdField {ws : List CStr} (h : ∀ w ∈ ws, '\n' ∉ w) :
    '\n' ∉ thirdField ws := by
  fun_cases thirdField ws with
  | case1 => exact List.not_mem_nil
  | case2 w => exact h w List.mem_cons_self
  | case3 w v ws =>
      rw [List.mem_append, not_or]
      exact ⟨h w List.mem_cons_self, by decide⟩

lemma thirdField_eq_iff {w : CStr} (hne : w ≠ []) (hcomma : ',' ∉ w) (ws : List CStr) :
    thirdField ws = w ↔ ws = [w] := by
  fun_cases thirdField ws with
  | case1 => simpa using hne.symm
  | case2 v => simp
  | case3 v u ws =>
      refine iff_of_false ?_ (by simp)
      rintro rfl
      exact hcomma (by simp)

lemma raidState_text : raidState o.text = thirdField o.words := by
  have hother : ∀ {lines : List CStr}, (∀ l ∈ lines, '\n' ∉ l ∧ ¬ stateLabel <:+: l) →
      lines.filter (fun l => stateLabel <:+: l) = [] := fun h =>
    List.filter_eq_nil_iff.mpr fun l hl => by simpa using (h l hl).2
  have hlabel : stateLabel <:+: o.stateText :=
    (label_infix_iff stateCaption_mem stateCaption_mem (colon_notMem_stateRest o) o.indent).mpr rfl
  have hempty : ∀ l : CStr, (decide (stateLabel <:+: l) && decide (l ≠ [])) =
      decide (stateLabel <:+: l) := fun l => by
    by_cases hl : l = []
    · rw [hl]
      decide
    · simp [hl]
  have hline : (tokens '\n' o.text).filter (fun l => stateLabel <:+: l) = [o.stateText] := by
    rw [StateOutput.text, tokens_lines (newline_notMem_stateLines o), List.filter_filter]
    simp only [hempty]
    rw [StateOutput.lines, List.filter_append, hother o.before_ok,
      List.filter_cons_of_pos (by simpa using hlabel), hother o.after_ok, List.nil_append]
  rw [raidState, hline, List.flatMap_singleton, stateText_third,
    List.rdropWhile_concat_pos _ _ _ (by rfl)]
  refine List.rdropWhile_eq_self_iff.mpr fun hne hlast => ?_
  have hmem := List.getLast_mem hne
  rw [beq_iff_eq.mp hlast] at hmem
  exact newline_notMem_thirdField (fun w hw h => absurd ((mem_words o hw).2 _ h) (by decide)) hmem

/-- An array is accepted if it is clean or active and nothing else. -/
lemma accepted_iff :
    Accepted o.text ↔ o.words = ["clean".toList] ∨ o.words = ["active".toList] := by
  rw [Accepted, raidState_text, thirdField_eq_iff (by decide) (by decide),
    thirdField_eq_iff (by decide) (by decide)]

end Check

/-- `check_raid` accepts when it accepts each array. -/
theorem checkRaid_eq_zero_iff (content : CStr) (detail : CStr → CStr) :
    checkRaid (some content) detail = 0 ↔
      ∀ array ∈ raidArrays content, Accepted (detail ("/dev/".toList ++ array)) := by
  unfold checkRaid
  dsimp only
  split_ifs with h
  · exact iff_of_true rfl h
  · exact iff_of_false (by decide) h

/-! ## The two readings -/

lemma wordsStatus_of_accepted {o : StateOutput} (h : Accepted o.text) :
    wordsStatus o.words = .active := by
  rcases (accepted_iff o).mp h with h | h
  · rw [h]
    decide
  · rw [h]
    decide

/-- **The status is that of the words**, and an array that `check_raid` accepts is active, exactly
if the label is kept and the words say `active` if it works and not otherwise, and of a working
array `degraded` only if that is a word. -/
theorem raid_status_iff {β : Type*} (env : FsEnv β) (p : NamePtr) (a : RaidArray) (o : StateOutput)
    (hfile : env.fileExists (p.read a) = true)
    (hrun : env.popen (fit maxCommand (detailText (p.read a))) = some ⟨o.text, .exited 0⟩) :
    ((raidGetStatus env p a).2.status = some (wordsStatus o.words) ∧
      (Accepted o.text → (raidGetStatus env p a).2.status = some .active)) ↔ o.Telling := by
  have hstart : (RaidArray.zero.setName (p.read .zero)).status = none := rfl
  rw [raidGetStatus_of_detailed hfile hrun rfl, ← status_parseDetail o _ hstart,
    and_iff_left_iff_imp]
  intro hstatus haccepted
  rw [hstatus, wordsStatus_of_accepted haccepted]

/-- The word for an array that is in sync and idle. -/
def cleanWord : StateWord :=
  ⟨⟨"clean".toList, by decide, noSpace_of_all rfl⟩, by decide, by decide⟩

/-- The word for an array that is being written to. -/
def activeWord : StateWord :=
  ⟨⟨"active".toList, by decide, noSpace_of_all rfl⟩, by decide, by decide⟩

/-- The word for an array with a member missing. -/
def degradedWord : StateWord :=
  ⟨⟨"degraded".toList, by decide, noSpace_of_all rfl⟩, by decide, by decide⟩

/-- An output with nothing but a line about the state. -/
def stateLine (ws : List StateWord) : StateOutput := ⟨[], 13, ws, 1, [], by simp, by simp⟩

/-- Two words that are both told. -/
theorem raid_status_degraded :
    (stateLine [activeWord, degradedWord]).Telling ∧
      (raidGetStatus (printingEnv (stateLine [activeWord, degradedWord]).text)
        (.copy "/dev/md0".toList) .zero).2.status = some .degraded :=
  have htelling : (stateLine [activeWord, degradedWord]).Telling := by decide +kernel
  ⟨htelling, ((raid_status_iff (printingEnv (stateLine [activeWord, degradedWord]).text)
    (.copy "/dev/md0".toList) .zero (stateLine [activeWord, degradedWord]) rfl rfl).mpr
      htelling).1⟩

/-- An array that is clean is accepted by `check_raid` and has failed for `raid_get_status`. -/
theorem raid_status_clean_failed :
    ¬ ∀ (env : FsEnv Unit) (p : NamePtr) (a : RaidArray) (o : StateOutput),
      env.fileExists (p.read a) = true →
      env.popen (fit maxCommand (detailText (p.read a))) = some ⟨o.text, .exited 0⟩ →
      (raidGetStatus env p a).2.status = some (wordsStatus o.words) ∧
        (Accepted o.text → (raidGetStatus env p a).2.status = some .active) := by
  intro hclaim
  have haccepted : Accepted (stateLine [cleanWord]).text := by decide +kernel
  have hactive := (hclaim (printingEnv (stateLine [cleanWord]).text) (.copy "/dev/md0".toList) .zero
    (stateLine [cleanWord]) rfl rfl).2 haccepted
  have hfailed : (raidGetStatus (printingEnv (stateLine [cleanWord]).text)
      (.copy "/dev/md0".toList) .zero).2.status = some .failed := by decide +kernel
  rw [hfailed] at hactive
  exact absurd hactive (by decide)

end Storage

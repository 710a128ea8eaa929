import StorageManager.Security.Audit

/-!
# Reading the audit log

`audit_get_log` is asked for a number of entries and appends to the caller's buffer what `fgets`
returns, that many times, from the start of the log.

**Pieces.**  `line` has 512 bytes, so that an entry of 511 characters or more comes in several
pieces, each of which is counted.  What is stored are the first pieces, as far as the buffer goes
(`readEntries_eq`).

**The buffer.**  `strncat` always terminates it.  Where there is no log, `strncpy` writes a message
of 19 characters, and no terminator to a buffer of that size or less.

`audit_get_log_iff` puts the two together: the last entries are stored exactly if they are the first
ones as well, and each of these came in one piece or nothing was left to read.
-/

namespace Storage

open CString

/-- The message where there is no log. -/
def noAuditLog : CStr := "No audit log found\n".toList

/-- The loop over the pieces, with `count` of them in the buffer already. -/
def readEntries (size : ℕ) (numEntries : ℤ) : ℤ → CStr → List CStr → CStr
  | _, out, [] => out
  | count, out, line :: lines =>
      if numEntries = 0 ∨ count < numEntries then
        readEntries size numEntries (count + 1) (out ++ line.take (size - out.length - 1)) lines
      else out

/-- `audit_get_log` on a buffer of at least one byte: the string in it, or `none` if it is not
terminated. -/
def auditGetLog (log : Option CStr) (size : ℕ) (numEntries : ℤ) : Option CStr :=
  match log with
  | none => if noAuditLog.length < size then some noAuditLog else none
  | some text => some (readEntries size numEntries 0 [] (fgetsAll 512 text))

/-- The log after these calls, when it was there before or not. -/
def auditFile (localtime : ℤ → Tm) (existed : Bool) (h : List AuditEntry) : Option CStr :=
  if existed = true ∨ h ≠ [] then some (auditRun localtime [] h) else none

/-- Entries as they stand in the log. -/
def entriesText (localtime : ℤ → Tm) (h : List AuditEntry) : CStr :=
  h.flatMap fun x => x.line localtime ++ ['\n']

/-- The last `n` entries, or all there are. -/
def lastEntries (n : ℕ) (h : List AuditEntry) : List AuditEntry := h.drop (h.length - n)

/-- A buffer that is large enough gets the last `n` entries, and any buffer a terminated string. -/
def ReadsLastEntries (localtime : ℤ → Tm) (existed : Bool) (h : List AuditEntry) (n size : ℕ) :
    Prop :=
  let stored := auditGetLog (auditFile localtime existed h) size n
  ((entriesText localtime (lastEntries n h)).length < size →
      stored = some (entriesText localtime (lastEntries n h))) ∧
    stored ≠ none

/-- How many pieces the entry comes in. -/
def AuditEntry.pieces (localtime : ℤ → Tm) (x : AuditEntry) : ℕ :=
  (x.line localtime).length / 511 + 1

/-! ## The loop -/

lemma take_take_append (a b : CStr) (k : ℕ) : (a.take k ++ b).take k = (a ++ b).take k := by
  rcases Nat.le_total a.length k with h | h
  · rw [List.take_of_length_le h]
  · rw [List.take_append_of_le_length (by rw [List.length_take]; omega), List.take_take,
      Nat.min_self, List.take_append_of_le_length h]

/-- What is stored are the first pieces, cut where the buffer ends. -/
lemma readEntries_eq {size n : ℕ} (hn : n ≠ 0) {lines : List CStr} {k : ℕ} {out : CStr}
    (hout : out.length ≤ size - 1) :
    readEntries size n k out lines = (out ++ (lines.take (n - k)).flatten).take (size - 1) := by
  have hn0 : (n : ℤ) ≠ 0 := Int.natCast_ne_zero.mpr hn
  induction lines generalizing k out with
  | nil => simp [readEntries, List.take_of_length_le hout]
  | cons line lines ih =>
      unfold readEntries
      split_ifs with hgo
      · have hlt : k < n := Int.ofNat_lt.mp (hgo.resolve_left hn0)
        have hnext : n - k = n - (k + 1) + 1 := by omega
        have hcat : out ++ line.take (size - out.length - 1) = (out ++ line).take (size - 1) := by
          rw [List.take_append, List.take_of_length_le hout]
          congr 2
          omega
        have hroom : ((out ++ line).take (size - 1)).length ≤ size - 1 := by
          rw [List.length_take]
          omega
        rw [hcat, hnext, List.take_succ_cons, List.flatten_cons, ← List.append_assoc,
          ← take_take_append (out ++ line)]
        exact ih hroom
      · have hge : n - k = 0 := by
          have := Int.not_lt.mp fun hlt => hgo (Or.inr hlt)
          omega
        rw [hge, List.take_zero, List.flatten_nil, List.append_nil, List.take_of_length_le hout]

/-! ## The pieces of the entries -/

/-- The pieces in which `fgets` returns these entries. -/
def entryPieces (localtime : ℤ → Tm) (h : List AuditEntry) : List CStr :=
  h.flatMap fun x => fgetsAll 512 (x.line localtime ++ ['\n'])

section Pieces

variable (localtime : ℤ → Tm) {h : List AuditEntry} {n : ℕ}

lemma entriesText_eq (h : List AuditEntry) :
    entriesText localtime h = (h.map (AuditEntry.line localtime)).flatMap fun l => l ++ ['\n'] := by
  rw [List.flatMap_map, entriesText]

lemma OneLiners.lines (hone : OneLiners h) :
    ∀ l ∈ h.map (AuditEntry.line localtime), '\n' ∉ l := by
  rw [List.forall_mem_map]
  exact fun x hx => newline_notMem_auditLine (hone x hx)

lemma count_entriesText (hone : OneLiners h) : (entriesText localtime h).count '\n' = h.length := by
  rw [entriesText_eq, count_newline_lines (hone.lines localtime), List.length_map]

/-- A beginning of the entries that has the ends of all of them is all of them. -/
lemma eq_entriesText_of_count (hone : OneLiners h) {p : CStr} (hp : p <+: entriesText localtime h)
    (hcount : h.length ≤ p.count '\n') : p = entriesText localtime h := by
  rw [entriesText_eq] at hp ⊢
  exact eq_lines_of_count (hone.lines localtime) hp (by rwa [List.length_map])

lemma fgetsAll_auditRun (h : List AuditEntry) :
    fgetsAll 512 (auditRun localtime [] h) = entryPieces localtime h := by
  have hlines := fgetsAll_append_lines 512 (h.map (AuditEntry.line localtime)) []
  rw [List.append_nil, ← entriesText_eq] at hlines
  rw [auditRun_eq, List.nil_append, ← entriesText, hlines, List.flatMap_map]
  exact List.append_nil _

lemma flatten_entryPieces (h : List AuditEntry) :
    (entryPieces localtime h).flatten = entriesText localtime h := by
  rw [← fgetsAll_auditRun, flatten_fgetsAll, auditRun_eq]
  rfl

lemma length_entryPieces (hone : OneLiners h) :
    (entryPieces localtime h).length = (h.map (AuditEntry.pieces localtime)).sum := by
  rw [entryPieces, List.length_flatMap]
  refine congrArg List.sum (List.map_congr_left fun x hx => ?_)
  rw [length_fgetsAll_line (by decide) (newline_notMem_auditLine (hone x hx)), AuditEntry.pieces]
  omega

lemma entryPieces_split (h : List AuditEntry) (n : ℕ) :
    entryPieces localtime h =
      entryPieces localtime (h.take n) ++ entryPieces localtime (h.drop n) := by
  rw [entryPieces, entryPieces, entryPieces, ← List.flatMap_append, List.take_append_drop]

lemma length_le_sum_pieces (h : List AuditEntry) :
    h.length ≤ (h.map (AuditEntry.pieces localtime)).sum := by
  induction h with
  | nil => exact le_rfl
  | cons x h ih =>
      rw [List.map_cons, List.sum_cons, List.length_cons, AuditEntry.pieces]
      omega

/-- If the first entries come in no more than `n` pieces, these are what is read. -/
lemma take_entryPieces_of_le (hone : OneLiners h)
    (hle : ((h.take n).map (AuditEntry.pieces localtime)).sum ≤ n) :
    ((entryPieces localtime h).take n).flatten = entriesText localtime (h.take n) := by
  have hfirst : OneLiners (h.take n) := fun x hx => hone x (List.mem_of_mem_take hx)
  rw [← flatten_entryPieces]
  congr 1
  rw [entryPieces_split localtime h n, List.take_append,
    List.take_of_length_le (by rwa [length_entryPieces localtime hfirst]),
    length_entryPieces localtime hfirst]
  rcases Nat.le_total h.length n with hall | hmore
  · rw [List.drop_of_length_le hall]
    simp [entryPieces]
  · have hmin := length_le_sum_pieces localtime (h.take n)
    rw [List.length_take, Nat.min_eq_left hmore] at hmin
    rw [Nat.sub_eq_zero_of_le hmin, List.take_zero, List.append_nil]

/-- If they come in more, what is read breaks off before the last of them ends. -/
lemma count_take_entryPieces_lt (hone : OneLiners h)
    (hlt : n < ((h.take n).map (AuditEntry.pieces localtime)).sum) :
    (((entryPieces localtime h).take n).flatten).count '\n' < (h.take n).length := by
  have hfirst : OneLiners (h.take n) := fun x hx => hone x (List.mem_of_mem_take hx)
  have hlen := length_entryPieces localtime hfirst
  have hsplit : (entryPieces localtime (h.take n)).take n ++
      (entryPieces localtime (h.take n)).drop n = entryPieces localtime (h.take n) :=
    List.take_append_drop _ _
  rw [entryPieces_split localtime h n, List.take_append_of_le_length (by omega)]
  by_contra hcount
  have htext : ((entryPieces localtime (h.take n)).take n).flatten ++
      ((entryPieces localtime (h.take n)).drop n).flatten = entriesText localtime (h.take n) := by
    rw [← List.flatten_append, hsplit, flatten_entryPieces]
  -- with all the ends read, nothing would be left of the pieces
  have hall := eq_entriesText_of_count localtime hfirst ⟨_, htext⟩ (Nat.le_of_not_lt hcount)
  rw [hall, List.append_right_eq_self, List.flatten_eq_nil_iff] at htext
  have hleft : 0 < ((entryPieces localtime (h.take n)).drop n).length := by
    rw [List.length_drop]
    omega
  obtain ⟨piece, hpiece⟩ := List.exists_mem_of_length_pos hleft
  have hmem := List.mem_of_mem_drop hpiece
  rw [← fgetsAll_auditRun] at hmem
  exact ne_nil_of_mem_fgetsAll hmem (htext piece hpiece)

/-- Entries with the same text have the same lines. -/
lemma entriesText_inj {h' : List AuditEntry} (hone : OneLiners h) (hone' : OneLiners h') :
    entriesText localtime h = entriesText localtime h' ↔
      h.map (AuditEntry.line localtime) = h'.map (AuditEntry.line localtime) := by
  have htokens : ∀ {h : List AuditEntry}, OneLiners h →
      tokens '\n' (entriesText localtime h) = h.map (AuditEntry.line localtime) := by
    intro h hone
    rw [entriesText_eq, tokens_lines (hone.lines localtime), List.filter_eq_self]
    simp only [List.forall_mem_map, decide_eq_true_eq]
    exact fun x _ => List.cons_ne_nil _ _
  constructor
  · intro heq
    rw [← htokens hone, heq, htokens hone']
  · intro heq
    rw [entriesText_eq, heq, ← entriesText_eq]

/-- What is stored is the text of the last entries exactly if it is that of the first ones, none of
which was cut. -/
lemma take_pieces_eq_last_iff (hone : OneLiners h) {size : ℕ}
    (hroom : (entriesText localtime (lastEntries n h)).length < size) :
    (((entryPieces localtime h).take n).flatten).take (size - 1) =
        entriesText localtime (lastEntries n h) ↔
      ((h.take n).map (AuditEntry.pieces localtime)).sum ≤ n ∧
        (h.take n).map (AuditEntry.line localtime) =
          (lastEntries n h).map (AuditEntry.line localtime) := by
  have hfirst : OneLiners (h.take n) := fun x hx => hone x (List.mem_of_mem_take hx)
  have hlast : OneLiners (lastEntries n h) := fun x hx => hone x (List.mem_of_mem_drop hx)
  have hlen : (lastEntries n h).length = (h.take n).length := by
    rw [lastEntries, List.length_drop, List.length_take]
    omega
  constructor
  · intro heq
    have hcount := congrArg (List.count '\n') heq
    rw [count_entriesText localtime hlast, hlen] at hcount
    have hle : ((h.take n).map (AuditEntry.pieces localtime)).sum ≤ n := by
      by_contra hmore
      have hfew := count_take_entryPieces_lt localtime hone (Nat.lt_of_not_le hmore)
      have hcut := (List.take_sublist (size - 1)
        ((entryPieces localtime h).take n).flatten).count_le '\n'
      omega
    rw [take_entryPieces_of_le localtime hone hle] at heq hcount
    rw [eq_entriesText_of_count localtime hfirst (List.take_prefix _ _) hcount.ge] at heq
    exact ⟨hle, (entriesText_inj localtime hfirst hlast).mp heq⟩
  · rintro ⟨hle, hlines⟩
    rw [take_entryPieces_of_le localtime hone hle,
      (entriesText_inj localtime hfirst hlast).mpr hlines, List.take_of_length_le (by omega)]

lemma auditGetLog_of_log {existed : Bool} (hlog : existed = true ∨ h ≠ []) (hn : 1 ≤ n)
    (size : ℕ) :
    auditGetLog (auditFile localtime existed h) size n =
      some ((((entryPieces localtime h).take n).flatten).take (size - 1)) := by
  rw [auditFile, if_pos hlog, auditGetLog, fgetsAll_auditRun]
  exact congrArg some (readEntries_eq (k := 0) (Nat.one_le_iff_ne_zero.mp hn) (Nat.zero_le _))

end Pieces

/-- **The last entries are read whole** exactly if there is a log and, where the buffer has room for
them, they have the same lines as the first ones, and these come in `n` pieces at most. -/
theorem audit_get_log_iff (localtime : ℤ → Tm) (existed : Bool) {h : List AuditEntry}
    (hone : OneLiners h) {n size : ℕ} (hn : 1 ≤ n) (hsize : 1 ≤ size) :
    ReadsLastEntries localtime existed h n size ↔
      (existed = true ∨ h ≠ []) ∧
        ((entriesText localtime (lastEntries n h)).length < size →
          ((h.take n).map (AuditEntry.pieces localtime)).sum ≤ n ∧
            (h.take n).map (AuditEntry.line localtime) =
              (lastEntries n h).map (AuditEntry.line localtime)) := by
  unfold ReadsLastEntries
  by_cases hlog : existed = true ∨ h ≠ []
  · rw [auditGetLog_of_log localtime hlog hn, and_iff_left (Option.some_ne_none _),
      and_iff_right hlog]
    refine forall_congr' fun hroom => ?_
    rw [Option.some.injEq]
    exact take_pieces_eq_last_iff localtime hone hroom
  · -- without a log there is the message, or no end
    refine iff_of_false ?_ fun hcond => hlog hcond.1
    rw [not_or, not_not] at hlog
    obtain ⟨hexisted, rfl⟩ := hlog
    have hnone : auditFile localtime existed [] = none := if_neg (by simpa using hexisted)
    have hlast : entriesText localtime (lastEntries n []) = [] := by
      simp [entriesText, lastEntries]
    rw [hnone, hlast]
    rintro ⟨hread, -⟩
    have hempty := hread hsize
    unfold auditGetLog at hempty
    split_ifs at hempty
    exact absurd (Option.some.inj hempty) (List.cons_ne_nil _ _)

/-- A call at the new year. -/
def sampleEntry (user : CStr) : AuditEntry := ⟨0, .encrypt, user, "x".toList⟩

/-- Two entries, and both are asked for. -/
theorem audit_get_log_both :
    ReadsLastEntries (fun _ => newYear) false
      [sampleEntry "root".toList, sampleEntry "eve".toList] 2 200 :=
  (audit_get_log_iff (fun _ => newYear) false
    (h := [sampleEntry "root".toList, sampleEntry "eve".toList])
    (List.forall_mem_cons.mpr ⟨by decide, List.forall_mem_singleton.mpr (by decide)⟩) (n := 2)
    (by decide) (by decide)).mpr ⟨Or.inr (List.cons_ne_nil _ _), fun _ => by decide +kernel⟩

/-- Asked for one entry of two, it stores the older one. -/
theorem audit_get_log_oldest :
    ¬ ∀ (localtime : ℤ → Tm) (existed : Bool) (h : List AuditEntry) (n size : ℕ),
      OneLiners h → 1 ≤ n → 1 ≤ size → ReadsLastEntries localtime existed h n size := by
  intro hclaim
  have hread := hclaim (fun _ => newYear) false
    [sampleEntry "root".toList, sampleEntry "eve".toList] 1 200
    (List.forall_mem_cons.mpr ⟨by decide, List.forall_mem_singleton.mpr (by decide)⟩) (by decide)
    (by decide)
  exact absurd (hread.1 (by decide +kernel)) (by decide +kernel)

/-- Without a log, 19 bytes are not enough for the end of the message. -/
example : auditGetLog none 19 1 = none := by decide +kernel

end Storage

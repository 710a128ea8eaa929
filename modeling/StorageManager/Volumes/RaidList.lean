import StorageManager.Scripts.HealthCheck

/-!
# Listing the arrays

`raid_list_all` goes through `/proc/mdstat` and asks `raid_get_status` about every array that has a
line there.  `health_check.sh` goes through the same file with `grep` and `awk`
(`Scripts/HealthCheck.lean`).  Both go by the letters `md` at the beginning of a line.

* `raidListLoop_eq` — the loop: the statuses that could be read, as far as there is room.
* `raid_list_agrees` — on a file whose lines fit the buffer both look at the arrays that are in it,
  and the list has the statuses of those that `mdadm` can describe, in their order.
-/

namespace Storage

open CString

/-! ## The function -/

/-- What the line of an array begins with. -/
def mdLead : CStr := ['m', 'd']

/-- `sscanf (line, "%s", md_name)`. -/
def mdName (line : CStr) : CStr := (line.dropWhile isSpace).takeWhile fun c => !isSpace c

/-- `full_path`. -/
def mdPath (line : CStr) : CStr := fit 256 ("/dev/".toList ++ mdName line)

section Function

variable {β : Type*} (env : FsEnv β)

/-- The loop, when `arrays` is filled so far and `prior` is in the rest of it. -/
def raidListLoop (maxArrays : ℤ) (prior : ℕ → RaidArray) (arrays : List RaidArray) :
    List CStr → List RaidArray
  | [] => arrays
  | line :: lines =>
      if (arrays.length : ℤ) < maxArrays then
        if mdLead <+: line then
          match raidGetStatus env (.copy (mdPath line)) (prior arrays.length) with
          | (.success, array) => raidListLoop maxArrays prior (arrays ++ [array]) lines
          | _ => raidListLoop maxArrays prior arrays lines
        else raidListLoop maxArrays prior arrays lines
      else arrays

/-- `raid_list_all`, for pointers that are not null: the code and the entries that are counted. -/
def raidListAll (mdstat : Option CStr) (maxArrays : ℤ) (prior : ℕ → RaidArray) :
    Ret × List RaidArray :=
  match mdstat with
  | none => (.errorSystemCall, [])
  | some content => (.success, raidListLoop env maxArrays prior [] (fgetsAll 256 content))

/-- What `raid_get_status` stores for a path, if it can. -/
def raidStatusOf (path : CStr) : Option RaidArray :=
  match raidGetStatus env (.copy path) .zero with
  | (.success, array) => some array
  | _ => none

end Function

/-! ## The file -/

/-- The name of an array, as the kernel gives it. -/
structure MdName where
  text : CStr
  lead : mdLead <+: text
  noSpace : ∀ c ∈ text, isSpace c = false
  length_lt : text.length < 32

/-- A line: that of an array, or one that begins otherwise. -/
inductive MdLine
  | array (name : MdName) (rest : CStr) (line : '\n' ∉ rest)
  | other (text : CStr) (line : '\n' ∉ text) (lead : ¬ mdLead <+: text)

namespace MdLine

/-- The line as it is printed. -/
def text : MdLine → CStr
  | array name rest _ => name.text ++ ' ' :: rest
  | other text _ _ => text

/-- The array of the line, if it has one. -/
def array? : MdLine → Option CStr
  | array name _ _ => some name.text
  | other _ _ _ => none

end MdLine

/-- The file `/proc/mdstat`. -/
def mdstatText (lines : List MdLine) : CStr := lines.flatMap fun l => l.text ++ ['\n']

/-! ## The lines -/

lemma MdName.text_ne_nil (n : MdName) : n.text ≠ [] := by
  intro hnil
  have hlead := n.lead
  rw [hnil] at hlead
  exact absurd (List.prefix_nil.mp hlead) (List.cons_ne_nil _ _)

lemma MdLine.newline_notMem_text (l : MdLine) : '\n' ∉ l.text := by
  cases l with
  | array name rest hline =>
      have hname : '\n' ∉ name.text := fun h => absurd (name.noSpace _ h) (by decide)
      simp [text, hname, hline]
  | other text hline hlead => exact hline

/-- `md` at the beginning of a line is read with or without its end. -/
lemma MdLine.lead_iff (l : MdLine) (e : CStr) (he : e = [] ∨ e = ['\n']) :
    mdLead <+: l.text ++ e ↔ l.array?.isSome := by
  cases l with
  | array name rest hline =>
      refine iff_of_true ?_ rfl
      rw [text, List.append_assoc]
      exact name.lead.trans (List.prefix_append _ _)
  | other t hline hlead =>
      refine iff_of_false ?_ Bool.false_ne_true
      intro h
      rcases he with rfl | rfl
      · exact hlead (by simpa [text] using h)
      · rw [text] at h
        match t with
        | [] => exact absurd h (by decide)
        | [c] => simp [mdLead] at h
        | c :: d :: t => exact hlead (by simpa [mdLead] using h)

/-- The first word of an array's line is its name. -/
lemma mdName_text (name : MdName) (rest : CStr) :
    mdName (name.text ++ ' ' :: rest) = name.text := by
  obtain ⟨c, w, hw⟩ := List.exists_cons_of_ne_nil name.text_ne_nil
  have hc : isSpace c = false := name.noSpace c (by simp [hw])
  have hdrop : (name.text ++ ' ' :: rest).dropWhile isSpace = name.text ++ ' ' :: rest := by
    rw [hw, List.cons_append, List.dropWhile_cons, if_neg (by simp [hc])]
  have hall : ∀ d ∈ name.text, (!isSpace d) = true := fun d hd => by simp [name.noSpace d hd]
  rw [mdName, hdrop, List.takeWhile_append_of_pos hall]
  simp [isSpace]

lemma mdPath_text (name : MdName) (rest : CStr) :
    mdPath (name.text ++ ' ' :: rest) = "/dev/".toList ++ name.text := by
  rw [mdPath, mdName_text]
  refine fit_of_lt ?_
  have hlen := name.length_lt
  have hdev : ("/dev/".toList : CStr).length = 5 := rfl
  rw [List.length_append]
  omega

/-- What `grep` and `awk` make of one line. -/
lemma fields_text (name : MdName) (rest : CStr) :
    ((fields (name.text ++ ' ' :: rest))[0]?).getD [] = name.text := by
  rw [fields_append_blank, fields_of_noSpace name.text_ne_nil name.noSpace]
  rfl

/-- What they make of the file. -/
lemma raidArrays_mdstatText (lines : List MdLine) :
    raidArrays (mdstatText lines) = lines.filterMap MdLine.array? := by
  have htokens : tokens '\n' (mdstatText lines)
      = (lines.map MdLine.text).filter (· ≠ []) := by
    rw [mdstatText, ← tokens_lines (List.forall_mem_map.mpr fun l _ => l.newline_notMem_text),
      List.flatMap_map]
  rw [raidArrays, htokens]
  clear htokens
  induction lines with
  | nil => rfl
  | cons l lines ih =>
      have hlead := l.lead_iff [] (.inl rfl)
      rw [List.append_nil] at hlead
      cases l with
      | array name rest hline =>
          have hmd : "md".toList <+: (MdLine.array name rest hline).text := hlead.mpr rfl
          have hne : (MdLine.array name rest hline).text ≠ [] := by simp [MdLine.text]
          rw [List.map_cons, List.filter_cons_of_pos (by simpa using hne),
            List.filter_cons_of_pos (by simpa using hmd), List.map_cons, ih, MdLine.text,
            fields_text]
          rfl
      | other t hline hother =>
          have hmd : ¬ "md".toList <+: (MdLine.other t hline hother).text := fun h =>
            absurd (hlead.mp h) Bool.false_ne_true
          have hskip : ((MdLine.other t hline hother :: lines).map MdLine.text).filter
              (fun l => decide ("md".toList <+: l))
              = (lines.map MdLine.text).filter fun l => decide ("md".toList <+: l) :=
            List.filter_cons_of_neg (by simpa using hmd)
          rw [List.filter_comm, hskip, List.filter_comm, ih]
          rfl

/-! ## The loop -/

section Loop

variable {β : Type*} {env : FsEnv β}

/-- What is in the structure before makes no difference to a call that succeeds. -/
lemma raidGetStatus_copy (env : FsEnv β) (path : CStr) (array : RaidArray) :
    (∃ a, raidStatusOf env path = some a ∧
      raidGetStatus env (.copy path) array = (.success, a)) ∨
    raidStatusOf env path = none ∧ ∃ code, code ≠ Ret.success ∧
      raidGetStatus env (.copy path) array = (code, array) := by
  by_cases h : Detailed env path
  · obtain ⟨hfile, r, hrun, hstatus⟩ := h
    have hall := fun a : RaidArray =>
      raidGetStatus_of_detailed (p := .copy path) (a := a) hfile hrun hstatus
    left
    rw [raidStatusOf, hall .zero, hall array]
    exact ⟨_, rfl, rfl⟩
  · obtain ⟨code, hne, hcode⟩ := raidGetStatus_of_not_detailed (p := .copy path) (a := array) h
    right
    refine ⟨?_, code, hne, hcode _ _ rfl⟩
    rw [raidStatusOf, hcode (.copy path) .zero rfl]
    cases code <;> first | rfl | exact absurd rfl hne

/-- What the loop makes of one line. -/
def lineStatus? (env : FsEnv β) (line : CStr) : Option RaidArray :=
  if mdLead <+: line then raidStatusOf env (mdPath line) else none

lemma raidListLoop_eq (maxArrays : ℤ) (prior : ℕ → RaidArray) (arrays : List RaidArray)
    (lines : List CStr) (h : arrays.length ≤ maxArrays.toNat) :
    raidListLoop env maxArrays prior arrays lines =
      arrays ++ (lines.filterMap (lineStatus? env)).take (maxArrays.toNat - arrays.length) := by
  induction lines generalizing arrays with
  | nil => simp [raidListLoop]
  | cons line lines ih =>
      rw [raidListLoop]
      by_cases hroom : (arrays.length : ℤ) < maxArrays
      · rw [if_pos hroom]
        by_cases hmd : mdLead <+: line
        · rw [if_pos hmd]
          rcases raidGetStatus_copy env (mdPath line) (prior arrays.length) with
            ⟨a, hstatus, hget⟩ | ⟨hstatus, code, hne, hget⟩
          · have hone : lineStatus? env line = some a := (if_pos hmd).trans hstatus
            have hlength : (arrays ++ [a]).length = arrays.length + 1 := List.length_append
            have hrest := ih (arrays ++ [a]) (by omega)
            have hleft : maxArrays.toNat - arrays.length
                = maxArrays.toNat - (arrays ++ [a]).length + 1 := by omega
            rw [List.append_assoc, List.singleton_append] at hrest
            rw [hget, List.filterMap_cons_some hone, hleft, List.take_succ_cons, ← hrest]
          · have hnone : lineStatus? env line = none := (if_pos hmd).trans hstatus
            rw [hget, List.filterMap_cons_none hnone, ← ih arrays h]
            cases code <;> first | rfl | exact absurd rfl hne
        · have hnone : lineStatus? env line = none := if_neg hmd
          rw [if_neg hmd, List.filterMap_cons_none hnone, ih arrays h]
      · have hfull : maxArrays.toNat - arrays.length = 0 := by omega
        rw [if_neg hroom, hfull, List.take_zero, List.append_nil]

lemma lineStatus?_text (l : MdLine) :
    lineStatus? env (l.text ++ ['\n'])
      = l.array?.bind fun name => raidStatusOf env ("/dev/".toList ++ name) := by
  have hlead := l.lead_iff ['\n'] (.inr rfl)
  cases l with
  | array name rest hline =>
      rw [lineStatus?, if_pos (hlead.mpr rfl), MdLine.text, List.append_assoc, List.cons_append,
        mdPath_text]
      rfl
  | other t hline hother =>
      rw [lineStatus?, if_neg fun h => absurd (hlead.mp h) Bool.false_ne_true]
      rfl

end Loop

/-- **Two readers of `/proc/mdstat`.**  If the lines fit the buffer, `raid_list_all` and
`health_check.sh` both look at the arrays that are in the file, and the list has the statuses of
those whose details `mdadm` prints, in their order and as far as there is room.  What was in the
caller's array makes no difference. -/
theorem raid_list_agrees {β : Type*} (env : FsEnv β) (lines : List MdLine)
    (hshort : ∀ l ∈ lines, l.text.length < 255) (maxArrays : ℤ) (prior : ℕ → RaidArray) :
    raidArrays (mdstatText lines) = lines.filterMap MdLine.array? ∧
      raidListAll env (some (mdstatText lines)) maxArrays prior =
        (.success, ((raidArrays (mdstatText lines)).filterMap fun name =>
          raidStatusOf env ("/dev/".toList ++ name)).take maxArrays.toNat) := by
  have hpieces : fgetsAll 256 (mdstatText lines) = lines.map fun l => l.text ++ ['\n'] := by
    have hlines : ∀ l ∈ lines.map MdLine.text, '\n' ∉ l ∧ l.length + 1 < 256 := by
      simp only [List.forall_mem_map]
      intro l hl
      have hlen := hshort l hl
      exact ⟨l.newline_notMem_text, by omega⟩
    have hread := fgetsAll_lines hlines
    rwa [List.flatMap_map, List.map_map] at hread
  refine ⟨raidArrays_mdstatText lines, ?_⟩
  rw [raidListAll, hpieces, raidListLoop_eq _ _ _ _ (Nat.zero_le _), raidArrays_mdstatText,
    List.filterMap_map, List.filterMap_filterMap, List.length_nil, Nat.sub_zero, List.nil_append]
  have hstatus : (lineStatus? env ∘ fun l : MdLine => l.text ++ ['\n'])
      = fun l => l.array?.bind fun name => raidStatusOf env ("/dev/".toList ++ name) :=
    funext lineStatus?_text
  rw [hstatus]

/-- An array that was assembled without a name. -/
def md126Name : MdName := ⟨"md126".toList, by decide, noSpace_of_all rfl, by decide⟩

/-- Another one. -/
def md127Name : MdName := ⟨"md127".toList, by decide, noSpace_of_all rfl, by decide⟩

/-- Two arrays, and a line before them. -/
def twoArrays : List MdLine :=
  [.other "Personalities : [raid1]".toList (by decide) (by decide),
    .array md126Name ": active raid1 sda[0] sdb[1]".toList (by decide),
    .array md127Name ": active raid1 sdc[0] sdd[1]".toList (by decide)]

/-- There is room for one. -/
theorem raid_list_agrees_two :
    raidListAll (printingEnv []) (some (mdstatText twoArrays)) 1 (fun _ => .zero) =
      (.success, (["/dev/md126".toList, "/dev/md127".toList].filterMap
        (raidStatusOf (printingEnv []))).take 1) := by
  have hshort : ∀ l ∈ twoArrays, l.text.length < 255 := by
    simp only [twoArrays, List.forall_mem_cons]
    exact ⟨by decide, by decide, by decide, by simp⟩
  obtain ⟨harrays, hlist⟩ := raid_list_agrees (printingEnv []) twoArrays hshort 1 fun _ => .zero
  rw [hlist, harrays]
  rfl

end Storage

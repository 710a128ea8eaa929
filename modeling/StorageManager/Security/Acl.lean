import StorageManager.Volumes.Filesystems

/-!
# Reading an access control list

`acl_get` runs `getfacl` and decodes what it prints.  The printer is modelled from the list it
prints: comments, the entries of the file in their fixed order, each with `#effective:` behind it
when the mask takes rights away, and the same for the default entries of a directory, prefixed by
`default:`.

* `aclLine` — one line.  It looks for `user:` at the start, so a default entry is no entry, and it
  takes everything behind the second colon for the permissions.
* `firstEntries_foldl_aclStep` — the loop over the lines.
* `acl_decoded_iff` — the entries are those of the list exactly if no user has a default entry and
  none is masked.
-/

namespace Storage

open CString

/-- `acl_entry_t`. -/
structure AclEntry where
  user : CStr
  permissions : CStr
  isDefault : ℤ
  deriving DecidableEq, Repr

/-- An entry after `memset`. -/
def AclEntry.zero : AclEntry := ⟨[], [], 0⟩

/-- The caller's array and `*count`. -/
structure AclList where
  entries : ℕ → AclEntry
  count : ℕ

/-- What is stored for a line, if it counts. -/
def aclLine (line : CStr) : Option AclEntry :=
  if "user:".toList <+: line then
    let userStart := line.drop 5
    let user := userStart.takeWhile (· ≠ ':')
    if ':' ∈ userStart ∧ 0 < user.length ∧ user.length < 64 then
      some ⟨user, fit 16 (userStart.drop (user.length + 1)), 0⟩
    else none
  else none

/-- The body of the loop; the entry is cleared before the line is looked at. -/
def aclStep (maxEntries : ℤ) (s : AclList) (line : CStr) : AclList :=
  if (s.count : ℤ) < maxEntries ∧ "user:".toList <+: line then
    match aclLine line with
    | some entry => ⟨Function.update s.entries s.count entry, s.count + 1⟩
    | none => { s with entries := Function.update s.entries s.count .zero }
  else s

/-- The command, as it fits `cmd`. -/
def getfaclCommand (path : CStr) : CStr :=
  fit maxCommand ("getfacl ".toList ++ path ++ " 2>&1".toList)

/-- `acl_get`. -/
def aclGet {β : Type*} (env : FsEnv β) (path : CStr) (maxEntries : ℤ) (s : AclList) :
    Ret × AclList :=
  if env.fileExists path = false then (.errorNotFound, s)
  else
    let r := executeCommand (env.popen (getfaclCommand path)) maxOutput
    if r.1 ≠ .success then (.errorSystemCall, { s with count := 0 })
    else (.success, (tokens '\n' (r.2.getD [])).foldl (aclStep maxEntries) { s with count := 0 })

/-- The entries the caller is told of. -/
def AclList.first (s : AclList) : List AclEntry := (List.range s.count).map s.entries

/-! ## What `getfacl` prints -/

/-- The rights of an entry. -/
structure AclPerms where
  read : Bool
  write : Bool
  exec : Bool
  deriving DecidableEq, Repr

/-- The three characters of the rights. -/
def AclPerms.text (p : AclPerms) : CStr :=
  [if p.read then 'r' else '-', if p.write then 'w' else '-', if p.exec then 'x' else '-']

/-- The rights a mask leaves. -/
def AclPerms.under (p : AclPerms) : Option AclPerms → AclPerms
  | none => p
  | some m => ⟨p.read && m.read, p.write && m.write, p.exec && m.exec⟩

/-- A name that `acl_entry_t` has room for. -/
structure AclName where
  text : CStr
  ne_nil : text ≠ []
  short : text.length < 64
  noColon : ':' ∉ text
  noNewline : '\n' ∉ text

/-- The entries of a file, or the default entries of a directory. -/
structure AclSet where
  owner : AclPerms
  users : List (AclName × AclPerms)
  group : AclPerms
  groups : List (AclName × AclPerms)
  mask : Option AclPerms
  other : AclPerms

/-- How it is laid out: the comments, the blanks in front of `#effective:`, the notice about a
leading `/` on the error channel, and the empty line at the end. -/
structure AclLayout where
  notice : Bool
  comments : List CStr
  comments_line : ∀ l ∈ comments, '\n' ∉ l
  pad : CStr → CStr
  pad_blank : ∀ l, ∀ c ∈ pad l, c = ' ' ∨ c = '\t'
  trailer : Bool

section Lines

variable (y : AclLayout) (mask : Option AclPerms)

/-- An entry that the mask does not apply to. -/
def plainLine (tag name : CStr) (p : AclPerms) : CStr := tag ++ (name ++ (':' :: p.text))

/-- What stands behind an entry that it does apply to. -/
def maskComment (line : CStr) (p : AclPerms) : CStr :=
  if p.under mask = p then []
  else y.pad line ++ ("#effective:".toList ++ (p.under mask).text)

/-- An entry with the comment about its mask, if it needs one. -/
def maskedLine (tag name : CStr) (p : AclPerms) : CStr :=
  plainLine tag name p ++ maskComment y mask (plainLine tag name p) p

/-- The lines of a set; the last one is that of the others. -/
def AclSet.lines (a : AclSet) : List CStr :=
  plainLine "user:".toList [] a.owner ::
    (a.users.map (fun u => maskedLine y a.mask "user:".toList u.1.text u.2) ++
      maskedLine y a.mask "group:".toList [] a.group ::
        (a.groups.map (fun g => maskedLine y a.mask "group:".toList g.1.text g.2) ++
          (a.mask.map (plainLine "mask:".toList [])).toList))

/-- The entry of the others. -/
def AclSet.lastLine (a : AclSet) : CStr := plainLine "other:".toList [] a.other

/-- The lines in front of the entries. -/
def AclLayout.headLines : List CStr :=
  (if y.notice then ["getfacl: Removing leading '/' from absolute path names".toList] else []) ++
    y.comments.map fun l => "# ".toList ++ l

end Lines

/-- The access control list of a file; a directory may have default entries. -/
structure Acl where
  access : AclSet
  inherited : Option AclSet

section Printed

variable (y : AclLayout) (a : Acl)

/-- An entry of the default list. -/
def inDefault (line : CStr) : CStr := "default:".toList ++ line

/-- All lines but the last entry. -/
def Acl.lines : List CStr :=
  y.headLines ++ (a.access.lines y ++
    match a.inherited with
    | none => []
    | some d => a.access.lastLine :: (d.lines y).map inDefault)

/-- The last entry of the whole list. -/
def Acl.lastLine : CStr :=
  match a.inherited with
  | none => a.access.lastLine
  | some d => inDefault d.lastLine

/-- What `getfacl` prints. -/
def Acl.text : CStr :=
  ((a.lines y ++ [a.lastLine]).flatMap fun l => l ++ ['\n']) ++ if y.trailer then ['\n'] else []

/-- The users that have an entry, and those that have a default entry. -/
def Acl.users : List (AclName × AclPerms × ℤ) :=
  a.access.users.map (fun u => (u.1, u.2, 0)) ++
    (a.inherited.elim [] AclSet.users).map fun u => (u.1, u.2, 1)

/-- The entries the caller should be told of. -/
def Acl.entries : List AclEntry := a.users.map fun u => ⟨u.1.text, u.2.1.text, u.2.2⟩

end Printed

/-! ## The loop -/

section Loop

variable (maxEntries : ℤ)

lemma AclList.first_update (s : AclList) (e : AclEntry) :
    AclList.first { s with entries := Function.update s.entries s.count e } = s.first := by
  refine List.map_congr_left fun i hi => ?_
  exact Function.update_of_ne (Nat.ne_of_lt (List.mem_range.mp hi)) _ _

/-- A line adds what is stored for it, as long as there is room. -/
lemma first_aclStep (s : AclList) {line : CStr}
    (hroom : (s.count : ℤ) < maxEntries ∨ aclLine line = none) :
    (aclStep maxEntries s line).first = s.first ++ (aclLine line).toList := by
  unfold aclStep
  split_ifs with hline
  · cases aclLine line with
    | none =>
        rw [Option.toList_none, List.append_nil]
        exact s.first_update _
    | some e =>
        have hfirst := s.first_update e
        unfold AclList.first at hfirst ⊢
        rw [List.range_succ, List.map_append, hfirst, List.map_singleton]
        exact congrArg (_ ++ [·]) (Function.update_self ..)
  · have hnone : aclLine line = none := by
      refine hroom.elim (fun hlt => ?_) id
      exact if_neg fun htag => hline ⟨hlt, htag⟩
    rw [hnone, Option.toList_none, List.append_nil]

lemma AclList.length_first (s : AclList) : s.first.length = s.count := by
  rw [AclList.first, List.length_map, List.length_range]

/-- The loop stores the entries in order, if the array has room for all of them. -/
lemma first_foldl_aclStep {lines : List CStr} {s : AclList}
    (hroom : (s.count : ℤ) + (lines.filterMap aclLine).length ≤ maxEntries) :
    (lines.foldl (aclStep maxEntries) s).first = s.first ++ lines.filterMap aclLine := by
  induction lines generalizing s with
  | nil => simp
  | cons line lines ih =>
      have hcount := fun s : AclList => s.length_first
      cases hline : aclLine line with
      | none =>
          rw [List.filterMap_cons_none hline] at hroom ⊢
          have hstep := first_aclStep maxEntries s (Or.inr hline)
          rw [hline, Option.toList_none, List.append_nil] at hstep
          have hsame := congrArg List.length hstep
          rw [hcount, hcount] at hsame
          rw [List.foldl_cons, ih (by rwa [hsame]), hstep]
      | some e =>
          rw [List.filterMap_cons_some hline] at hroom ⊢
          rw [List.length_cons] at hroom
          have hstep := first_aclStep maxEntries s (.inl (by omega) :
            (s.count : ℤ) < maxEntries ∨ aclLine line = none)
          rw [hline, Option.toList_some] at hstep
          have hone := congrArg List.length hstep
          rw [hcount, List.length_append, hcount, List.length_singleton] at hone
          rw [List.foldl_cons, ih (by rw [hone]; omega), hstep, List.append_assoc,
            List.singleton_append]

end Loop

/-! ## The lines -/

section Decoding

variable {y : AclLayout} {mask : Option AclPerms}

lemma aclLine_of_head {line : CStr} (h : line.head? ≠ some 'u') : aclLine line = none := by
  refine if_neg ?_
  rintro ⟨rest, rfl⟩
  exact h rfl

/-- The name ends at its colon, and everything behind that is copied. -/
lemma aclLine_user (n : AclName) (rest : CStr) :
    aclLine ("user:".toList ++ (n.text ++ ':' :: rest)) = some ⟨n.text, fit 16 rest, 0⟩ := by
  have hdrop : ("user:".toList ++ (n.text ++ ':' :: rest)).drop 5 = n.text ++ ':' :: rest := rfl
  have htake : (n.text ++ ':' :: rest).takeWhile (· ≠ ':') = n.text := by
    have hname : ∀ c ∈ n.text, decide (c ≠ ':') = true := fun c hc =>
      decide_eq_true fun he => n.noColon (he ▸ hc)
    rw [List.takeWhile_append_of_pos hname]
    simp
  have hrest : (n.text ++ ':' :: rest).drop (n.text.length + 1) = rest := by
    rw [← List.drop_drop, List.drop_left]
    rfl
  rw [aclLine, if_pos (List.prefix_append _ _)]
  simp only [hdrop, htake, hrest]
  exact if_pos ⟨by simp, List.length_pos_iff_ne_nil.mpr n.ne_nil, n.short⟩

lemma aclLine_owner (p : AclPerms) : aclLine (plainLine "user:".toList [] p) = none := by
  have htag : "user:".toList <+: plainLine "user:".toList [] p := List.prefix_append _ _
  rw [aclLine, if_pos htag]
  exact if_neg fun h => absurd h.2.1 (lt_irrefl _)

/-- What is stored for a user, the comment included as far as there is room. -/
def AclSet.stored (y : AclLayout) (a : AclSet) (u : AclName × AclPerms) : AclEntry :=
  ⟨u.1.text,
    fit 16 (u.2.text ++ maskComment y a.mask (plainLine "user:".toList u.1.text u.2) u.2), 0⟩

lemma aclLine_maskedLine (a : AclSet) (u : AclName × AclPerms) :
    aclLine (maskedLine y a.mask "user:".toList u.1.text u.2) = some (a.stored y u) := by
  have hline : maskedLine y a.mask "user:".toList u.1.text u.2 =
      "user:".toList ++ (u.1.text ++ ':' :: (u.2.text ++
        maskComment y a.mask (plainLine "user:".toList u.1.text u.2) u.2)) := by
    simp only [maskedLine, plainLine, List.append_assoc, List.cons_append]
  rw [hline, aclLine_user]
  rfl

/-- Of the lines of a set only those of the users count. -/
lemma filterMap_setLines (a : AclSet) :
    (a.lines y).filterMap aclLine = a.users.map (a.stored y) := by
  have hgroup : ∀ name p, aclLine (maskedLine y a.mask "group:".toList name p) = none := fun _ _ =>
    aclLine_of_head fun h => by cases h
  have hmask : ((a.mask.map (plainLine "mask:".toList [])).toList).filterMap aclLine = [] := by
    cases a.mask with
    | none => rfl
    | some m => exact List.filterMap_cons_none (aclLine_of_head fun h => by cases h)
  rw [AclSet.lines, List.filterMap_cons_none (aclLine_owner _), List.filterMap_append,
    List.filterMap_cons_none (hgroup _ _), List.filterMap_append, hmask, List.append_nil,
    List.filterMap_map, List.filterMap_map]
  have husers : a.users.filterMap (aclLine ∘ fun u =>
      maskedLine y a.mask "user:".toList u.1.text u.2) = a.users.map (a.stored y) := by
    rw [← List.filterMap_eq_map]
    exact List.filterMap_congr fun u _ => aclLine_maskedLine a u
  have hgroups : a.groups.filterMap (aclLine ∘ fun g =>
      maskedLine y a.mask "group:".toList g.1.text g.2) = [] :=
    List.filterMap_eq_nil_iff.mpr fun g _ => hgroup _ _
  rw [husers, hgroups, List.append_nil]

/-- The default entries count for nothing. -/
lemma filterMap_acl_lines (a : Acl) :
    (a.lines y).filterMap aclLine = a.access.users.map (a.access.stored y) := by
  have hdefault : ∀ line, aclLine (inDefault line) = none := fun _ =>
    aclLine_of_head fun h => by cases h
  have hhead : y.headLines.filterMap aclLine = [] := by
    refine List.filterMap_eq_nil_iff.mpr fun l hl => aclLine_of_head ?_
    rcases List.mem_append.mp hl with hl | hl
    · split_ifs at hl
      · rw [List.mem_singleton.mp hl]
        decide
      · exact absurd hl List.not_mem_nil
    · obtain ⟨c, -, rfl⟩ := List.mem_map.mp hl
      exact fun h => by cases h
  rw [Acl.lines, List.filterMap_append, hhead, List.nil_append, List.filterMap_append,
    filterMap_setLines]
  cases a.inherited with
  | none => exact List.append_nil _
  | some d =>
      have hrest : (a.access.lastLine :: (d.lines y).map inDefault).filterMap aclLine = [] := by
        rw [List.filterMap_cons_none (aclLine_of_head fun h => by cases h), List.filterMap_map]
        exact List.filterMap_eq_nil_iff.mpr fun l _ => hdefault l
      simp only [hrest, List.append_nil]

end Decoding

/-! ## The text -/

section Text

variable {y : AclLayout}

lemma AclPerms.newline_notMem (p : AclPerms) : '\n' ∉ p.text := by
  rcases p with ⟨_ | _, _ | _, _ | _⟩ <;> decide

lemma newline_notMem_plainLine {tag name : CStr} (htag : '\n' ∉ tag) (hname : '\n' ∉ name)
    (p : AclPerms) : '\n' ∉ plainLine tag name p := by
  simp only [plainLine, List.mem_append, List.mem_cons, not_or]
  exact ⟨htag, hname, by decide, p.newline_notMem⟩

lemma newline_notMem_maskedLine {tag name : CStr} (htag : '\n' ∉ tag) (hname : '\n' ∉ name)
    (mask : Option AclPerms) (p : AclPerms) : '\n' ∉ maskedLine y mask tag name p := by
  rw [maskedLine, List.mem_append, not_or]
  refine ⟨newline_notMem_plainLine htag hname p, ?_⟩
  unfold maskComment
  split_ifs
  · exact List.not_mem_nil
  · simp only [List.mem_append, not_or]
    refine ⟨fun hpad => ?_, by decide, AclPerms.newline_notMem _⟩
    rcases y.pad_blank _ _ hpad with h | h <;> exact absurd h (by decide)

lemma newline_notMem_setLines (a : AclSet) : ∀ l ∈ a.lines y, '\n' ∉ l := by
  have hnil : '\n' ∉ ([] : CStr) := List.not_mem_nil
  simp only [AclSet.lines, List.forall_mem_cons, List.forall_mem_append, List.forall_mem_map]
  refine ⟨newline_notMem_plainLine (by decide) hnil _,
    fun u _ => newline_notMem_maskedLine (by decide) u.1.noNewline _ _,
    newline_notMem_maskedLine (by decide) hnil _ _,
    fun g _ => newline_notMem_maskedLine (by decide) g.1.noNewline _ _, fun l hl => ?_⟩
  obtain ⟨m, -, rfl⟩ := Option.map_eq_some_iff.mp (Option.mem_toList.mp hl)
  exact newline_notMem_plainLine (by decide) hnil _

lemma newline_notMem_inDefault {l : CStr} (h : '\n' ∉ l) : '\n' ∉ inDefault l := fun hmem =>
  (List.mem_append.mp hmem).elim (by decide) h

lemma newline_notMem_acl_lines (a : Acl) : ∀ l ∈ a.lines y, '\n' ∉ l := by
  have hother : ∀ d : AclSet, '\n' ∉ d.lastLine := fun d =>
    newline_notMem_plainLine (by decide) List.not_mem_nil _
  rw [Acl.lines, List.forall_mem_append, List.forall_mem_append]
  refine ⟨fun l hl => ?_, newline_notMem_setLines _, ?_⟩
  · rcases List.mem_append.mp hl with hl | hl
    · split_ifs at hl
      · rw [List.mem_singleton.mp hl]
        decide
      · exact absurd hl List.not_mem_nil
    · obtain ⟨c, hc, rfl⟩ := List.mem_map.mp hl
      exact fun hmem => (List.mem_append.mp hmem).elim (by decide) (y.comments_line c hc)
  · cases a.inherited with
    | none => exact fun l hl => absurd hl List.not_mem_nil
    | some d =>
        simp only [List.forall_mem_cons, List.forall_mem_map]
        exact ⟨hother _, fun l hl => newline_notMem_inDefault (newline_notMem_setLines _ l hl)⟩

/-- The last entry, and the empty line if there is one. -/
def Acl.ending (y : AclLayout) (a : Acl) : List CStr := a.lastLine :: if y.trailer then [[]] else []

lemma Acl.text_eq (a : Acl) :
    a.text y = (a.lines y ++ a.ending y).flatMap fun l => l ++ ['\n'] := by
  unfold Acl.text Acl.ending
  cases y.trailer <;> simp

lemma newline_notMem_ending (a : Acl) : ∀ l ∈ a.ending y, '\n' ∉ l := by
  have hother : ∀ d : AclSet, '\n' ∉ d.lastLine := fun d =>
    newline_notMem_plainLine (by decide) List.not_mem_nil _
  rw [Acl.ending, List.forall_mem_cons]
  constructor
  · rw [Acl.lastLine]
    cases a.inherited with
    | none => exact hother _
    | some d => exact newline_notMem_inDefault (hother d)
  · cases y.trailer <;> simp

/-- The ending counts for nothing, whole or cut. -/
lemma aclLine_ending (a : Acl) : ∀ l ∈ a.ending y, ∀ m, m <+: l → aclLine m = none := by
  rintro l hl m ⟨t, rfl⟩
  refine aclLine_of_head fun hu => ?_
  have hhead : (m ++ t).head? ≠ some 'u' := by
    rcases List.mem_cons.mp hl with hl | hl
    · rw [hl, Acl.lastLine]
      cases a.inherited with
      | none => exact fun h => by cases h
      | some d => exact fun h => by cases h
    · split_ifs at hl
      · rw [List.mem_singleton.mp hl]
        exact fun h => by cases h
      · exact absurd hl List.not_mem_nil
  rw [List.head?_append, hu] at hhead
  exact hhead rfl

/-- There is something behind the lines that count, so they leave a byte to spare. -/
lemma length_acl_lines_lt (a : Acl) (hfits : (a.text y).length < maxOutput) :
    ((a.lines y).flatMap fun l => l ++ ['\n']).length < maxOutput - 1 := by
  have hlast : 1 ≤ a.lastLine.length := by
    unfold Acl.lastLine
    cases a.inherited with
    | none => exact Nat.succ_le_succ (Nat.zero_le _)
    | some d => exact Nat.succ_le_succ (Nat.zero_le _)
  rw [a.text_eq, List.flatMap_append, List.length_append, Acl.ending, List.flatMap_cons,
    List.length_append, List.length_append, List.length_singleton] at hfits
  omega

/-- The entries that are found in the buffer. -/
lemma filterMap_tokens_acl (a : Acl) (hfits : (a.text y).length < maxOutput) :
    (tokens '\n' (captured maxOutput (a.text y))).filterMap aclLine =
      a.access.users.map (a.access.stored y) := by
  have hlines : ∀ l ∈ a.lines y ++ a.ending y, '\n' ∉ l :=
    List.forall_mem_append.mpr ⟨newline_notMem_acl_lines a, newline_notMem_ending a⟩
  rw [a.text_eq, filterMap_tokens_captured hlines rfl (aclLine_ending a)
    (length_acl_lines_lt a hfits), filterMap_acl_lines]

end Text

/-! ## The result -/

section Result

variable {y : AclLayout}

/-- The permissions are the three characters exactly if no comment is behind them. -/
lemma stored_eq_iff (a : AclSet) (u : AclName × AclPerms) :
    a.stored y u = ⟨u.1.text, u.2.text, 0⟩ ↔ u.2.under a.mask = u.2 := by
  have hthree : u.2.text.length = 3 := rfl
  unfold AclSet.stored maskComment
  split_ifs with hmask
  · simp only [hmask, iff_true]
    rw [List.append_nil, fit_of_lt (by rw [hthree]; decide)]
  · refine iff_of_false (fun heq => ?_) hmask
    have hperms := congrArg (List.length ∘ AclEntry.permissions) heq
    simp only [Function.comp_apply, fit, List.length_take, List.length_append, hthree] at hperms
    have htext : "#effective:".toList.length = 11 := rfl
    omega

/-- The entries are those of the list. -/
def AclDecoded {β : Type*} (env : FsEnv β) (path : CStr) (maxEntries : ℤ) (s : AclList) (a : Acl) :
    Prop :=
  (aclGet env path maxEntries s).1 = .success ∧
    (aclGet env path maxEntries s).2.first = a.entries

/-- **The decoded entries are those of the list** exactly if no user has a default entry and the
mask takes nothing from the rights of a user. -/
theorem acl_decoded_iff {β : Type*} (env : FsEnv β) (path : CStr) (maxEntries : ℤ) (s : AclList)
    (y : AclLayout) (a : Acl) (hexists : env.fileExists path = true)
    (hrun : env.popen (getfaclCommand path) = some ⟨a.text y, .exited 0⟩)
    (hfits : (a.text y).length < maxOutput) (hmax : (a.entries.length : ℤ) ≤ maxEntries) :
    AclDecoded env path maxEntries s a ↔
      a.inherited.elim [] AclSet.users = [] ∧
        ∀ u ∈ a.access.users, u.2.under a.access.mask = u.2 := by
  have hlength : a.entries.length =
      a.access.users.length + (a.inherited.elim [] AclSet.users).length := by
    simp [Acl.entries, Acl.users]
  have hget : aclGet env path maxEntries s = (.success,
      (tokens '\n' (captured maxOutput (a.text y))).foldl (aclStep maxEntries)
        { s with count := 0 }) := by
    simp [aclGet, hexists, hrun, executeCommand, maxOutput]
  have hfirst : (aclGet env path maxEntries s).2.first =
      a.access.users.map (a.access.stored y) := by
    rw [hget, first_foldl_aclStep, filterMap_tokens_acl a hfits]
    · rfl
    · rw [filterMap_tokens_acl a hfits, List.length_map]
      push_cast
      omega
  rw [AclDecoded, hfirst, hget, eq_self, true_and]
  constructor
  · intro heq
    have hlen := congrArg List.length heq
    rw [List.length_map, hlength] at hlen
    have hnone := List.length_eq_zero_iff.mp (Nat.left_eq_add.mp hlen)
    refine ⟨hnone, fun u hu => (stored_eq_iff (y := y) a.access u).mp ?_⟩
    rw [Acl.entries, Acl.users, hnone, List.map_nil, List.append_nil, List.map_map] at heq
    exact List.map_inj_left.mp heq u hu
  · rintro ⟨hnone, hmask⟩
    rw [Acl.entries, Acl.users, hnone, List.map_nil, List.append_nil, List.map_map]
    exact List.map_congr_left fun u hu => (stored_eq_iff a.access u).mpr (hmask u hu)

end Result

/-- One comment, two tabs, and the empty line at the end. -/
def usualLayout : AclLayout where
  notice := false
  comments := ["file: srv".toList]
  comments_line := List.forall_mem_singleton.mpr fun h => absurd h (by decide)
  pad _ := ['\t', '\t']
  pad_blank _ _ hc := Or.inr (List.eq_of_mem_replicate (n := 2) hc)
  trailer := true

/-- A user's name. -/
def bobName : AclName where
  text := "bob".toList
  ne_nil := List.cons_ne_nil _ _
  short := by decide
  noColon := by decide
  noNewline := by decide

/-- One user with all rights, under this mask. -/
def oneUser (mask : AclPerms) : AclSet where
  owner := ⟨true, true, false⟩
  users := [(bobName, ⟨true, true, true⟩)]
  group := ⟨true, false, false⟩
  groups := []
  mask := some mask
  other := ⟨false, false, false⟩

/-- One user with all rights, and a mask that takes none of them. -/
theorem acl_decoded_unmasked :
    AclDecoded (printingEnv (Acl.text usualLayout ⟨oneUser ⟨true, true, true⟩, none⟩))
      "srv".toList 1 ⟨fun _ => .zero, 0⟩ ⟨oneUser ⟨true, true, true⟩, none⟩ :=
  (acl_decoded_iff (printingEnv (Acl.text usualLayout ⟨oneUser ⟨true, true, true⟩, none⟩))
    "srv".toList 1 ⟨fun _ => .zero, 0⟩ usualLayout ⟨oneUser ⟨true, true, true⟩, none⟩ rfl rfl
    (by decide +kernel) (by decide +kernel)).mpr
    ⟨rfl, List.forall_mem_singleton.mpr rfl⟩

/-- A default entry is not found. -/
theorem acl_decoded_wrong :
    ¬ ∀ (env : FsEnv Unit) (path : CStr) (maxEntries : ℤ) (s : AclList) (y : AclLayout) (a : Acl),
      env.fileExists path = true → env.popen (getfaclCommand path) = some ⟨a.text y, .exited 0⟩ →
      (a.text y).length < maxOutput → (a.entries.length : ℤ) ≤ maxEntries →
      AclDecoded env path maxEntries s a := by
  intro hclaim
  have hdecoded := hclaim (printingEnv (Acl.text usualLayout
      ⟨oneUser ⟨true, true, true⟩, some (oneUser ⟨true, true, true⟩)⟩)) "srv".toList 2
    ⟨fun _ => .zero, 0⟩ usualLayout
    ⟨oneUser ⟨true, true, true⟩, some (oneUser ⟨true, true, true⟩)⟩ rfl rfl (by decide +kernel)
    (by decide +kernel)
  exact absurd (congrArg List.length hdecoded.2) (by decide +kernel)

/-- The comment of a masked entry is taken for its permissions. -/
example : (aclGet (printingEnv (Acl.text usualLayout ⟨oneUser ⟨true, false, false⟩, none⟩))
    "srv".toList 2 ⟨fun _ => .zero, 0⟩).2.first =
      [⟨"bob".toList, "rwx\t\t#effective".toList, 0⟩] := by
  decide +kernel

end Storage

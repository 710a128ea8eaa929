import StorageManager.Lib.ShellWeight
import StorageManager.Volumes.Arrays

/-!
# Lists of devices in command lines

`raid_create` and `lvm_vg_create` join the names they are given in a buffer of 1024 bytes with
`strcat`, which does not look at the size of it, and print the result into a command of 1024 bytes
with `snprintf`, which does.  Neither checks a length.

* `joinLoop_fits_iff` — the writes of the loop are in bounds exactly if what is in the buffer when
  the loop is left fits.  `raid_create` may leave it at a missing device, with the names before that
  device written.
* `device_lists_iff` — the writes are in bounds and the names reach the tool exactly if the whole
  command fits and each name is a word of the shell that stands for itself, or if the call is
  refused and the names joined by then fit.
-/

namespace Storage

open CString Shell

/-! ## The loop -/

/-- What is in the buffer when the loop is left: all names, or those before the first device that is
missing, each with a blank behind it. -/
def joinedText (found : CStr → Bool) (ds : List CStr) : CStr :=
  if ∀ d ∈ ds, found d = true then devicesText ds
  else (ds.takeWhile found).flatMap (· ++ [' '])

lemma joinedText_nil (found : CStr → Bool) : joinedText found [] = [] := by
  simp [joinedText, devicesText]

lemma joinedText_cons (found : CStr → Bool) (d : CStr) (ds : List CStr) :
    joinedText found (d :: ds) =
      if found d = false then [] else if ds = [] then d else d ++ ' ' :: joinedText found ds := by
  by_cases hd : found d = true
  · cases ds with
    | nil => simp [joinedText, devicesText, hd]
    | cons e ds =>
        by_cases hds : ∀ f ∈ e :: ds, found f = true
        · have hall : ∀ f ∈ d :: e :: ds, found f = true := List.forall_mem_cons.mpr ⟨hd, hds⟩
          rw [joinedText, if_pos hall, joinedText, if_pos hds, devicesText_cons_cons]
          simp [hd]
        · rw [joinedText, if_neg fun h => hds (List.forall_mem_cons.mp h).2, joinedText,
            if_neg hds, List.takeWhile_cons_of_pos hd]
          simp [hd]
  · simp [joinedText, hd]

/-- Each `strcat` gets a part of the joined names further. -/
lemma prefix_of_mem_joinLoop {found : CStr → Bool} {str s : CStr} {ds : List CStr}
    (h : s ∈ (joinLoop found str ds).1) : s <+: str ++ joinedText found ds := by
  induction ds generalizing str with
  | nil => exact absurd h List.not_mem_nil
  | cons d ds ih =>
      rw [joinedText_cons]
      unfold joinLoop at h
      split_ifs at h ⊢ with hd hnil
      · exact absurd h List.not_mem_nil
      · rw [List.mem_singleton.mp h]
      · rcases List.mem_cons.mp h with rfl | h
        · exact ⟨' ' :: joinedText found ds, by simp⟩
        rcases List.mem_cons.mp h with rfl | h
        · exact ⟨joinedText found ds, by simp⟩
        · have hrest := ih h
          rwa [List.append_assoc, List.append_assoc] at hrest

/-- The last one has all of them. -/
lemma joinedText_mem_joinLoop (found : CStr → Bool) (str : CStr) (ds : List CStr) :
    joinedText found ds = [] ∨ str ++ joinedText found ds ∈ (joinLoop found str ds).1 := by
  induction ds generalizing str with
  | nil => exact .inl (joinedText_nil found)
  | cons d ds ih =>
      rw [joinedText_cons]
      unfold joinLoop
      split_ifs with hd hnil
      · exact .inl rfl
      · exact .inr (List.mem_singleton.mpr rfl)
      · right
        have hsplit : str ++ (d ++ ' ' :: joinedText found ds) =
            str ++ d ++ [' '] ++ joinedText found ds := by simp
        rw [hsplit]
        rcases ih (str ++ d ++ [' ']) with hempty | hmem
        · rw [hempty, List.append_nil]
          exact List.mem_cons_of_mem _ List.mem_cons_self
        · exact List.mem_cons_of_mem _ (List.mem_cons_of_mem _ hmem)

/-- The writes are in bounds exactly if what is there at the end fits. -/
lemma joinLoop_fits_iff (found : CStr → Bool) (ds : List CStr) {size : ℕ} (hsize : 0 < size) :
    (∀ s ∈ (joinLoop found [] ds).1, s.length < size) ↔ (joinedText found ds).length < size := by
  constructor
  · intro hall
    rcases joinedText_mem_joinLoop found [] ds with hempty | hmem
    · rw [hempty]
      exact hsize
    · exact hall _ hmem
  · intro hlen s hs
    exact (prefix_of_mem_joinLoop hs).length_le.trans_lt hlen

/-! ## The calls -/

/-- A call with a list of devices. -/
inductive ListCall
  | raid (arrayName : CStr) (level : ℤ) (devices : List CStr)
  | vg (vgName : CStr) (pvs : List CStr)

namespace ListCall

/-- The array or group. -/
def target : ListCall → CStr
  | raid arrayName _ _ => arrayName
  | vg vgName _ => vgName

/-- The devices. -/
def items : ListCall → List CStr
  | raid _ _ devices => devices
  | vg _ pvs => pvs

/-- The command before it is cut. -/
def text : ListCall → CStr
  | raid arrayName level devices =>
      raidText arrayName level devices.length (devicesText devices)
  | vg vgName pvs => vgText vgName (devicesText pvs)

/-- The words `raid_create` has in mind. -/
def raidPieces (arrayName : CStr) (level : ℤ) (devices : List CStr) : List Piece :=
  .bare "mdadm".toList :: .bare "--create".toList :: .bare arrayName ::
    .bare ("--level=".toList ++ intText level) ::
    .bare ("--raid-devices=".toList ++ decimal devices.length) ::
    (devices.map .bare ++ [.bare "--force".toList, .bare "--run".toList])

/-- The words `lvm_vg_create` has in mind. -/
def vgPieces (vgName : CStr) (pvs : List CStr) : List Piece :=
  .bare "vgcreate".toList :: .bare vgName :: pvs.map .bare

/-- The words the format string has in mind. -/
def pieces : ListCall → List Piece
  | raid arrayName level devices => raidPieces arrayName level devices
  | vg vgName pvs => vgPieces vgName pvs

section Env

variable {β : Type*} (env : FsEnv β)

/-- What the call returns and the commands it runs. -/
def run : ListCall → Ret × List CStr
  | raid arrayName level devices => raidCreate env arrayName level devices
  | vg vgName pvs => lvmVgCreate env vgName pvs

/-- The checks let the call through. -/
def Accepted : ListCall → Prop
  | raid _ level devices => raidRefusal env level devices.length = none ∧
      ∀ d ∈ devices, env.fileExists d = true
  | vg _ pvs => env.isRoot = true ∧ 1 ≤ pvs.length

/-- What `devices_str` or `pvs_str` holds after each `strcat`, if the call gets to the loop. -/
def writes : ListCall → List CStr
  | raid _ level devices =>
      if raidRefusal env level devices.length = none then (joinLoop env.fileExists [] devices).1
      else []
  | vg _ pvs =>
      if env.isRoot = true ∧ 1 ≤ pvs.length then (joinLoop (fun _ => true) [] pvs).1 else []

/-- What is written into the buffers for the list and for the commands leaves room for the
terminator. -/
def InBounds (c : ListCall) : Prop :=
  (∀ s ∈ c.writes env, s.length < maxCommand) ∧ ∀ cmd ∈ (c.run env).2, cmd.length < maxCommand

/-- The names a refused call has joined by then: `raid_create` looks for a device when those before
it are in the buffer, and `lvm_vg_create` checks everything first. -/
def joinedBefore : ListCall → List CStr
  | raid _ level devices =>
      if raidRefusal env level devices.length = none then devices.takeWhile env.fileExists else []
  | vg _ _ => []

/-- The shell reads the words in the last command, or the call fails and runs none. -/
def Delivered (c : ListCall) : Prop :=
  (∃ cmd, (c.run env).2.getLast? = some cmd ∧
    parse cmd = some (c.pieces.map (·.word), true)) ∨
    ((c.run env).1 ≠ .success ∧ (c.run env).2 = [])

end Env

end ListCall

/-! ## The texts, word by word -/

lemma lineTail_bare {ds : List CStr} (h : ds ≠ []) :
    lineTail (ds.map .bare) = ' ' :: devicesText ds := by
  induction ds with
  | nil => exact absurd rfl h
  | cons d ds ih =>
      cases ds with
      | nil => simp [lineTail, Piece.text, devicesText]
      | cons e ds =>
          have hrest := ih (List.cons_ne_nil _ _)
          rw [List.map_cons, lineTail, List.flatMap_cons, ← lineTail, hrest,
            devicesText_cons_cons]
          rfl

lemma lineTail_append (ps qs : List Piece) : lineTail (ps ++ qs) = lineTail ps ++ lineTail qs :=
  List.flatMap_append

lemma lineTail_cons (p : Piece) (ps : List Piece) :
    lineTail (p :: ps) = ' ' :: (p.text ++ lineTail ps) := rfl

lemma raidText_eq_line (arrayName : CStr) (level : ℤ) {devices : List CStr} (h : devices ≠ []) :
    raidText arrayName level devices.length (devicesText devices) =
      line (ListCall.raidPieces arrayName level devices) ++ errToOut := by
  -- the same for any fixed words, so that the literals stay closed
  have hwords : ∀ a b l n f g : CStr,
      (a ++ ' ' :: (b ++ [' '])) ++ (arrayName ++ (' ' :: l ++ (intText level ++
        (' ' :: n ++ (decimal devices.length ++ (' ' :: (devicesText devices ++
          (' ' :: (f ++ ' ' :: g) ++ errToOut)))))))) =
      line (.bare a :: .bare b :: .bare arrayName :: .bare (l ++ intText level) ::
        .bare (n ++ decimal devices.length) :: (devices.map .bare ++ [.bare f, .bare g])) ++
        errToOut := by
    intro a b l n f g
    have hnil : lineTail [] = [] := rfl
    have hbare : ∀ w, (Piece.bare w).text = w := fun _ => rfl
    simp only [line, lineTail_cons, lineTail_append, lineTail_bare h, hnil, hbare, List.cons_append,
      List.nil_append, List.append_assoc, List.append_nil]
  exact hwords "mdadm".toList "--create".toList "--level=".toList "--raid-devices=".toList
    "--force".toList "--run".toList

lemma vgText_eq_line (vgName : CStr) {pvs : List CStr} (h : pvs ≠ []) :
    vgText vgName (devicesText pvs) = line (ListCall.vgPieces vgName pvs) ++ errToOut := by
  have hwords : ∀ a : CStr, (a ++ [' ']) ++ (vgName ++ (' ' :: (devicesText pvs ++ errToOut))) =
      line (.bare a :: .bare vgName :: pvs.map .bare) ++ errToOut := by
    intro a
    have hbare : ∀ w, (Piece.bare w).text = w := fun _ => rfl
    simp only [line, lineTail_cons, lineTail_bare h, hbare, List.cons_append, List.nil_append,
      List.append_assoc]
  exact hwords "vgcreate".toList

lemma text_eq_line (c : ListCall) (h : c.items ≠ []) : c.text = line c.pieces ++ errToOut := by
  cases c with
  | raid arrayName level devices => exact raidText_eq_line arrayName level h
  | vg vgName pvs => exact vgText_eq_line vgName h

lemma length_items_le (c : ListCall) : (devicesText c.items).length ≤ c.text.length := by
  cases c with
  | raid arrayName level devices =>
      have hlen : ∀ a b n f : CStr, (devicesText devices).length ≤
          (a ++ (arrayName ++ (b ++ (intText level ++ (n ++ (decimal devices.length ++
            (' ' :: (devicesText devices ++ (f ++ errToOut))))))))).length := by
        intro a b n f
        simp only [List.length_append, List.length_cons]
        omega
      exact hlen _ _ _ _
  | vg vgName pvs =>
      have hlen : ∀ a : CStr, (devicesText pvs).length ≤
          (a ++ (vgName ++ (' ' :: (devicesText pvs ++ errToOut)))).length := by
        intro a
        simp only [List.length_append, List.length_cons]
        omega
      exact hlen _

/-! ## Calls that get through -/

section Accepted

variable {β : Type*} {env : FsEnv β} {c : ListCall}

lemma items_ne_nil (h : c.Accepted env) : c.items ≠ [] := by
  cases c with
  | raid arrayName level devices =>
      rintro (rfl : devices = [])
      have hcount : 2 ≤ ([] : List CStr).length := ((raidRefusal_eq_none_iff env).mp h.1).2.1
      exact absurd hcount (by decide)
  | vg vgName pvs =>
      rintro (rfl : pvs = [])
      exact absurd h.2 (by decide)

/-- The last command is the one with the list, cut to its buffer. -/
lemma run_of_accepted (h : c.Accepted env) :
    ∃ cmds : List CStr,
      (c.run env).2 = cmds.map (fit maxCommand) ++ [fit maxCommand c.text] := by
  cases c with
  | raid arrayName level devices =>
      refine ⟨devices.map zeroText, ?_⟩
      rw [ListCall.run, raidCreate_of_found env h.1 h.2]
      simp [ListCall.text]
  | vg vgName pvs =>
      refine ⟨[], ?_⟩
      rw [ListCall.run, lvmVgCreate_of_root env h.1 h.2]
      rfl

/-- The words that are not given stand for themselves. -/
lemma pieces_ok_iff (h : c.Accepted env) :
    (∀ p ∈ c.pieces, p.Ok) ↔ ∀ w ∈ c.target :: c.items, (Piece.bare w).Ok := by
  have hitems : ∀ ds : List CStr, (∀ p ∈ ds.map Piece.bare, p.Ok) ↔
      ∀ d ∈ ds, (Piece.bare d).Ok := fun ds => List.forall_mem_map
  cases c with
  | raid arrayName level devices =>
      have hlevels : ∀ l ∈ raidLevels, (Piece.bare ("--level=".toList ++ intText l)).Ok := by
        decide
      have hlevel := hlevels level ((raidRefusal_eq_none_iff env).mp h.1).2.2
      have hoption : (Piece.bare "--raid-devices=".toList).Ok := by decide
      have hcount := hoption.bare_append fun _ => isBare_of_mem_decimal (n := devices.length)
      have hfixed : (Piece.bare "mdadm".toList).Ok ∧ (Piece.bare "--create".toList).Ok ∧
          (Piece.bare "--force".toList).Ok ∧ (Piece.bare "--run".toList).Ok := by decide
      simp only [ListCall.pieces, ListCall.raidPieces, ListCall.target, ListCall.items,
        List.forall_mem_cons, List.forall_mem_append, hitems, hlevel, hcount, hfixed, true_and]
      simp
  | vg vgName pvs =>
      have hfixed : (Piece.bare "vgcreate".toList).Ok := by decide
      simp only [ListCall.pieces, ListCall.vgPieces, ListCall.target, ListCall.items,
        List.forall_mem_cons, hitems, hfixed, true_and]

lemma delivered_iff (h : c.Accepted env) :
    c.Delivered env ↔
      c.text.length < maxCommand ∧ ∀ w ∈ c.target :: c.items, (Piece.bare w).Ok := by
  obtain ⟨cmds, hcmds⟩ := run_of_accepted h
  have hne : c.pieces ≠ [] := by cases c <;> exact List.cons_ne_nil _ _
  have hlast : (c.run env).2.getLast? = some (fit maxCommand c.text) := by
    rw [hcmds, List.getLast?_concat]
  have hsome : (c.run env).2 ≠ [] := by
    rw [hcmds]
    simp
  rw [ListCall.Delivered, hlast, or_iff_left fun hnone => hsome hnone.2, ← pieces_ok_iff h,
    text_eq_line c (items_ne_nil h), ← parse_fit_iff hne]
  constructor
  · rintro ⟨cmd, hcmd, hparse⟩
    rwa [← Option.some.inj hcmd] at hparse
  · intro hparse
    exact ⟨_, rfl, hparse⟩

/-- All names are joined. -/
lemma writes_fit_iff_of_accepted (h : c.Accepted env) :
    (∀ s ∈ c.writes env, s.length < maxCommand) ↔ (devicesText c.items).length < maxCommand := by
  cases c with
  | raid arrayName level devices =>
      rw [ListCall.writes, if_pos h.1, joinLoop_fits_iff _ _ (by decide), joinedText, if_pos h.2]
      rfl
  | vg vgName pvs =>
      have hpast : env.isRoot = true ∧ 1 ≤ pvs.length := h
      rw [ListCall.writes, if_pos hpast, joinLoop_fits_iff _ _ (by decide), joinedText,
        if_pos fun _ _ => rfl]
      rfl

/-- Those before the missing device are. -/
lemma writes_fit_iff_of_not_accepted (h : ¬ c.Accepted env) :
    (∀ s ∈ c.writes env, s.length < maxCommand) ↔
      ((c.joinedBefore env).flatMap (· ++ [' '])).length < maxCommand := by
  cases c with
  | raid arrayName level devices =>
      by_cases hrefusal : raidRefusal env level devices.length = none
      · have hmissing : ¬ ∀ d ∈ devices, env.fileExists d = true := fun hall =>
          h ⟨hrefusal, hall⟩
        rw [ListCall.writes, if_pos hrefusal, joinLoop_fits_iff _ _ (by decide), joinedText,
          if_neg hmissing, ListCall.joinedBefore, if_pos hrefusal]
      · rw [ListCall.writes, if_neg hrefusal, ListCall.joinedBefore, if_neg hrefusal]
        exact iff_of_true (fun _ hs => absurd hs List.not_mem_nil) (by decide)
  | vg vgName pvs =>
      have hpast : ¬ (env.isRoot = true ∧ 1 ≤ pvs.length) := h
      rw [ListCall.writes, if_neg hpast, ListCall.joinedBefore]
      exact iff_of_true (fun _ hs => absurd hs List.not_mem_nil) (by decide)

lemma inBounds_of_fits (h : c.Accepted env) (hfits : c.text.length < maxCommand) :
    c.InBounds env := by
  refine ⟨(writes_fit_iff_of_accepted h).mpr ((length_items_le c).trans_lt hfits), ?_⟩
  obtain ⟨cmds, hcmds⟩ := run_of_accepted h
  have hfit : ∀ s : CStr, (fit maxCommand s).length < maxCommand := length_fit_lt (by decide)
  intro cmd hcmd
  rw [hcmds, List.mem_append, List.mem_map, List.mem_singleton] at hcmd
  rcases hcmd with ⟨s, -, rfl⟩ | rfl
  · exact hfit s
  · exact hfit c.text

/-- A call the checks do not let through fails and runs nothing. -/
lemma run_of_not_accepted (h : ¬ c.Accepted env) :
    (c.run env).1 ≠ .success ∧ (c.run env).2 = [] := by
  cases c with
  | raid arrayName level devices =>
      by_cases hlevel : raidRefusal env level devices.length = none
      · have hmissing : ∃ d ∈ devices, env.fileExists d = false := by
          by_contra! hall
          exact h ⟨hlevel, fun d hd => by simpa using hall d hd⟩
        rw [ListCall.run, raidCreate_of_missing env hlevel hmissing]
        exact ⟨by decide, rfl⟩
      · exact raidCreate_of_refused env hlevel arrayName
  | vg vgName pvs =>
      rw [ListCall.run, lvmVgCreate]
      split_ifs with hroot hcount
      · exact ⟨by decide, rfl⟩
      · exact ⟨by decide, rfl⟩
      · exact absurd ⟨by simpa using hroot, by omega⟩ h

lemma inBounds_iff_of_not_accepted (h : ¬ c.Accepted env) :
    c.InBounds env ↔ ((c.joinedBefore env).flatMap (· ++ [' '])).length < maxCommand := by
  rw [ListCall.InBounds, (run_of_not_accepted h).2, writes_fit_iff_of_not_accepted h]
  exact and_iff_left fun _ hcmd => absurd hcmd List.not_mem_nil

end Accepted

/-- **A list of devices gets through whole** — all writes are in bounds, and the shell reads the
words of the command, or there is an error and no command — exactly if an accepted call's command
fits its buffer and its names are words that stand for themselves, and if the names a refused call
has joined before the refusal fit theirs. -/
theorem device_lists_iff {β : Type*} (env : FsEnv β) (c : ListCall) :
    (c.InBounds env ∧ (c.Accepted env → c.Delivered env) ∧
      (¬ c.Accepted env → (c.run env).1 ≠ .success ∧ (c.run env).2 = [])) ↔
      (c.Accepted env → c.text.length < maxCommand ∧
        ∀ w ∈ c.target :: c.items, (Piece.bare w).Ok) ∧
      (¬ c.Accepted env →
        ((c.joinedBefore env).flatMap (· ++ [' '])).length < maxCommand) := by
  rw [and_iff_left run_of_not_accepted]
  by_cases h : c.Accepted env
  · simp only [h, forall_const, not_true_eq_false, false_imp_iff, and_true, delivered_iff h]
    exact and_iff_right_iff_imp.mpr fun hwhole => inBounds_of_fits h hwhole.1
  · simp only [h, false_imp_iff, true_and, and_true, not_false_eq_true, forall_const,
      inBounds_iff_of_not_accepted h]

/-- Two names of 600 characters. -/
def longCall : ListCall :=
  .raid "/dev/md0".toList 1 [List.replicate 600 'a', List.replicate 600 'b']

/-- The second name is written past the end of `devices_str`, and the call succeeds. -/
theorem device_lists_overrun :
    ¬ ∀ (env : FsEnv Unit) (c : ListCall), c.InBounds env ∧ (c.Accepted env → c.Delivered env) ∧
      (¬ c.Accepted env → (c.run env).1 ≠ .success ∧ (c.run env).2 = []) := by
  intro hclaim
  have haccepted : longCall.Accepted (printingEnv []) := ⟨by decide, fun _ _ => rfl⟩
  have hlen := (writes_fit_iff_of_accepted haccepted).mp (hclaim (printingEnv []) longCall).1.1
  exact absurd hlen (by decide +kernel)

end Storage

import StorageManager.Daemon.PidFile

/-!
# The life of a pidfile

A process that got its pidfile made reads its own pid back and is seen running, and when it has
removed the pidfile no trace of it is left: so the four functions are meant to work together.  They
choose between the path and `PID_FILE_LOCAL` one by one, and agree only on some file systems.

One thing that the entries of `PidFile` leave open matters here: `unlink` of a path that leads
through a plain file or an unsearchable directory fails with another error than `ENOENT`.
`PidSystem` says which these are; `removePidfile_of_walkable` leads back to the function of
`PidFile`.

* `pidLifeCycle_of_path_iff`, `pidLifeCycle_of_local_iff` — the two files a pid can be written to.
* `pidfile_life_cycle_iff` — on which file systems the functions agree.
-/

namespace Storage

open CString

/-- The files, and which paths cannot be walked.  Behind such a path no file is seen and none can be
created. -/
structure PidSystem where
  fs : PidFs
  blocked : CStr → Bool
  hidden : ∀ f, blocked f = true → (fs f).canWrite = false ∧ (fs f).content = none

namespace PidSystem

/-- The entry with the pid in it. -/
def written (s : PidSystem) (f : CStr) (p : ℤ) : PidEntry :=
  (s.fs f).openW.write (s.fs f).openW.ino (pidText p)

/-- `daemon_create_pidfile`. -/
def createPidfile (s : PidSystem) (loc : CStr) (alive : ℤ → Bool) (path : Option CStr) (p : ℤ) :
    Option PidFs :=
  daemonCreatePidfile s.fs loc alive path p

/-- `daemon_remove_pidfile`, of the files as they are then. -/
def removePidfile (s : PidSystem) (fs : PidFs) (loc : CStr) (path : Option CStr) : PidFs :=
  let file := pidfilePath path
  match if s.blocked file then .other else (fs file).unlinkResult with
  | UnlinkResult.ok | .enoent => Function.update fs file (fs file).unlink
  | .other => Function.update fs loc (fs loc).unlink

/-- The file can be read once the pid is in it: it is new, or the caller's, or was readable. -/
def readableAfter (s : PidSystem) (f : CStr) : Bool := (s.fs f).readableAfter

/-- `unlink` of this path fails with another error than `ENOENT`. -/
def Stuck (s : PidSystem) (f : CStr) : Prop :=
  s.blocked f = true ∨ ((s.fs f).content.isSome = true ∧ (s.fs f).removable = false)

end PidSystem

/-- The pid stands in the file. -/
def PidEntry.Holds (e : PidEntry) (p : ℤ) : Prop := e.content.bind scanInt = some p

instance (e : PidEntry) (p : ℤ) : Decidable (e.Holds p) :=
  inferInstanceAs (Decidable (_ = _))

/-- If the pidfile is made, the pid is read back and the process is seen running; after the removal
neither file has the pid, and so it is not what `daemon_is_running` goes by. -/
def PidLifeCycle (s : PidSystem) (loc : CStr) (alive : ℤ → Bool) (path : CStr) (p : ℤ) : Prop :=
  ∀ fs', s.createPidfile loc alive (some path) p = some fs' →
    (daemonReadPid fs' loc path = p ∧ daemonIsRunning fs' loc alive path = true) ∧
      ¬ (s.removePidfile fs' loc (some path) path).Holds p ∧
      ¬ (s.removePidfile fs' loc (some path) loc).Holds p ∧
      scanPidfile (s.removePidfile fs' loc (some path)) loc path ≠ some p

/-- A live process stands in the pidfile already. -/
def Occupied (fs : PidFs) (loc : CStr) (alive : ℤ → Bool) (path : CStr) : Prop :=
  ∃ q, alive q = true ∧
    if (fs path).canRead then (fs path).Holds q else (fs loc).canRead = true ∧ (fs loc).Holds q

/-! ## The entry the pid is written to -/

section Written

variable {s : PidSystem} {f : CStr} {p : ℤ}

lemma written_content : (s.written f p).content = some (pidText p) := by
  simp [PidSystem.written, PidEntry.write, openW_content]

lemma written_canRead : (s.written f p).canRead = s.readableAfter f := by
  rw [PidEntry.canRead, written_content, Option.isSome_some, Bool.true_and]
  exact openW_readable (s.fs f)

lemma written_unlinkResult :
    (s.written f p).unlinkResult = if (s.fs f).removable then .ok else .other := by
  have hrem : (s.written f p).removable = (s.fs f).removable := by
    simp only [PidSystem.written, PidEntry.write, PidEntry.openW]
    split_ifs <;> rfl
  rw [PidEntry.unlinkResult, written_content, hrem]
  rfl

/-- The pid is gone from a file that could be removed, and stays in one that could not. -/
lemma written_unlink_holds_iff (hholds : (s.written f p).Holds p) :
    (s.written f p).unlink.Holds p ↔ (s.fs f).removable = false := by
  unfold PidEntry.unlink
  rw [written_unlinkResult]
  cases (s.fs f).removable with
  | true => simp [PidEntry.Holds]
  | false => simpa using hholds

lemma written_holds (hpos : 0 < p) (hlt : p < 2 ^ 31) : (s.written f p).Holds p := by
  obtain ⟨n, rfl⟩ := Int.eq_ofNat_of_zero_le (Int.le_of_lt hpos)
  rw [PidEntry.Holds, written_content]
  exact scanInt_decimal (by omega) (by decide) []

end Written

section Functions

variable {s : PidSystem} {fs : PidFs} {loc path : CStr} {alive : ℤ → Bool} {p : ℤ}

lemma removePidfile_of_walkable (h : ∀ f, s.blocked f = false) (path : Option CStr) :
    s.removePidfile fs loc path = daemonRemovePidfile fs loc path := by
  unfold PidSystem.removePidfile daemonRemovePidfile
  cases hunlink : (fs (pidfilePath path)).unlinkResult <;> simp [h, hunlink]

/-- A pid that is scanned stands in one of the two files. -/
lemma scanPidfile_ne (hpath : ¬ (fs path).Holds p) (hloc : ¬ (fs loc).Holds p) :
    scanPidfile fs loc path ≠ some p := by
  unfold scanPidfile
  split_ifs
  · exact hpath
  · exact hloc
  · exact (Option.some_ne_none p).symm

/-- For a live process, being read back is all. -/
lemma read_and_running_iff (hpos : 0 < p) (halive : alive p = true) :
    (daemonReadPid fs loc path = p ∧ daemonIsRunning fs loc alive path = true) ↔
      scanPidfile fs loc path = some p := by
  unfold daemonReadPid daemonIsRunning
  cases scanPidfile fs loc path with
  | none => simp
  | some q =>
    simp only [Option.getD_some, Option.some.injEq]
    refine ⟨And.left, ?_⟩
    rintro rfl
    exact ⟨rfl, halive⟩

lemma daemonIsRunning_iff :
    daemonIsRunning fs loc alive path = true ↔ Occupied fs loc alive path := by
  unfold daemonIsRunning scanPidfile Occupied PidEntry.Holds
  split_ifs with hpath hloc
  · cases (fs path).content.bind scanInt <;> simp
  · cases (fs loc).content.bind scanInt <;> simp [hloc]
  · simp [hloc]

end Functions

/-! ## The two files -/

section Cycle

variable {s : PidSystem} {loc path : CStr} {alive : ℤ → Bool} {p : ℤ}

lemma pidLifeCycle_of_refused
    (h : Occupied s.fs loc alive path ∨
      ((s.fs path).canWrite = false ∧ (s.fs loc).canWrite = false)) :
    PidLifeCycle s loc alive path p := by
  intro fs' hcreate
  unfold PidSystem.createPidfile daemonCreatePidfile openPidfile pidfilePath at hcreate
  rcases h with hocc | ⟨hpath, hloc⟩
  · simp [daemonIsRunning_iff.mpr hocc] at hcreate
  · simp [hpath, hloc] at hcreate

/-- The files with the pid in `f`. -/
abbrev PidSystem.withPid (s : PidSystem) (f : CStr) (p : ℤ) : PidFs :=
  Function.update s.fs f (s.written f p)

/-- With the pid in the file `f`, the life cycle is about these files only. -/
lemma pidLifeCycle_iff_of_create {f : CStr} (hpos : 0 < p) (halive : alive p = true)
    (hcreate : s.createPidfile loc alive (some path) p = some (s.withPid f p)) :
    PidLifeCycle s loc alive path p ↔
      scanPidfile (s.withPid f p) loc path = some p ∧
        ¬ (s.removePidfile (s.withPid f p) loc (some path) path).Holds p ∧
        ¬ (s.removePidfile (s.withPid f p) loc (some path) loc).Holds p := by
  unfold PidLifeCycle
  constructor
  · intro h
    obtain ⟨hread, hpath, hloc, -⟩ := h _ hcreate
    exact ⟨(read_and_running_iff hpos halive).mp hread, hpath, hloc⟩
  · rintro ⟨hscan, hpath, hloc⟩ fs' hfs
    rw [hcreate, Option.some.injEq] at hfs
    subst hfs
    exact ⟨(read_and_running_iff hpos halive).mpr hscan, hpath, hloc, scanPidfile_ne hpath hloc⟩

/-- Opening the file and writing it leaves the pid in it. -/
lemma writePidfile_opened {f : CStr} :
    writePidfile (Function.update s.fs f (s.fs f).openW) f
      (Function.update s.fs f (s.fs f).openW f).ino p = s.withPid f p := by
  rw [writePidfile, Function.update_self, Function.update_idem]
  rfl

lemma createPidfile_of_path (hfree : ¬ Occupied s.fs loc alive path)
    (hpath : (s.fs path).canWrite = true) :
    s.createPidfile loc alive (some path) p = some (s.withPid path p) := by
  rw [PidSystem.createPidfile, daemonCreatePidfile, pidfilePath, Option.getD_some,
    if_neg fun hrun => hfree (daemonIsRunning_iff.mp hrun), openPidfile, if_pos hpath,
    Option.map_some]
  exact congrArg some writePidfile_opened

lemma createPidfile_of_local (hfree : ¬ Occupied s.fs loc alive path)
    (hpath : (s.fs path).canWrite = false) (hloc : (s.fs loc).canWrite = true) :
    s.createPidfile loc alive (some path) p = some (s.withPid loc p) := by
  rw [PidSystem.createPidfile, daemonCreatePidfile, pidfilePath, Option.getD_some,
    if_neg fun hrun => hfree (daemonIsRunning_iff.mp hrun), openPidfile,
    if_neg (Bool.eq_false_iff.mp hpath), if_pos hloc, Option.map_some]
  exact congrArg some writePidfile_opened

/-- A free pidfile does not name a live process, where it can be read. -/
lemma not_holds_of_free (hfree : ¬ Occupied s.fs loc alive path) (halive : alive p = true) :
    ((s.fs path).canRead = true → ¬ (s.fs path).Holds p) ∧
      ((s.fs path).canRead = false → (s.fs loc).canRead = true → ¬ (s.fs loc).Holds p) := by
  constructor
  · intro hread hholds
    exact hfree ⟨p, halive, by rw [if_pos hread]; exact hholds⟩
  · intro hread hlread hholds
    exact hfree ⟨p, halive, by rw [if_neg (Bool.eq_false_iff.mp hread)]; exact ⟨hlread, hholds⟩⟩

lemma canRead_of_readableAfter {f : CStr} (h : s.readableAfter f = false) :
    (s.fs f).canRead = false := by
  unfold PidSystem.readableAfter PidEntry.readableAfter at h
  rw [Bool.or_eq_false_iff] at h
  rw [PidEntry.canRead, h.2, Bool.and_false]

/-- Where the pid went to the path, an unreadable path sends the reader to the local file, which did
not have the pid before. -/
lemma scan_withPid_path_iff (hholds : (s.written path p).Holds p) (halive : alive p = true)
    (hfree : ¬ Occupied s.fs loc alive path) :
    scanPidfile (s.withPid path p) loc path = some p ↔ s.readableAfter path = true := by
  rw [scanPidfile, PidSystem.withPid, Function.update_self, written_canRead]
  cases hread : s.readableAfter path with
  | true => exact iff_of_true (by rw [if_pos rfl]; exact hholds) rfl
  | false =>
    rw [if_neg Bool.false_ne_true]
    refine iff_of_false ?_ Bool.false_ne_true
    split_ifs with hlread
    · by_cases hne : loc = path
      · rw [hne, Function.update_self, written_canRead, hread] at hlread
        exact absurd hlread Bool.false_ne_true
      · rw [Function.update_of_ne hne] at hlread ⊢
        exact (not_holds_of_free hfree halive).2 (canRead_of_readableAfter hread) hlread
    · exact not_false

/-- The removal goes for the path it was given, and only then for the local file. -/
lemma removed_withPid_path_iff (hholds : (s.written path p).Holds p)
    (hpath : (s.fs path).canWrite = true) :
    (¬ (s.removePidfile (s.withPid path p) loc (some path) path).Holds p ∧
        ¬ (s.removePidfile (s.withPid path p) loc (some path) loc).Holds p) ↔
      (s.fs path).removable = true ∧ (loc = path ∨ ¬ (s.fs loc).Holds p) := by
  have hwalk : s.blocked path = false := by
    cases hb : s.blocked path with
    | false => rfl
    | true => exact absurd hpath (by rw [(s.hidden path hb).1]; exact Bool.false_ne_true)
  unfold PidSystem.removePidfile pidfilePath
  simp only [PidSystem.withPid, Option.getD_some, hwalk, Bool.false_eq_true, if_false,
    Function.update_self, written_unlinkResult]
  cases hrem : (s.fs path).removable with
  | true =>
    have hgone : ¬ (s.written path p).unlink.Holds p := by
      rw [written_unlink_holds_iff hholds, hrem]
      exact Bool.noConfusion
    by_cases hne : loc = path
    · simp [hne, hgone]
    · simp [hne, hgone]
  | false =>
    -- the path cannot be removed, and the pid stays in it
    have hkept : (s.written path p).unlink.Holds p := (written_unlink_holds_iff hholds).mpr hrem
    by_cases hne : loc = path
    · simp [hne, hkept]
    · simp [Function.update_of_ne (Ne.symm hne), hholds]

/-- The pid in the path itself. -/
lemma pidLifeCycle_of_path_iff (hpos : 0 < p) (hlt : p < 2 ^ 31) (halive : alive p = true)
    (hfree : ¬ Occupied s.fs loc alive path) (hpath : (s.fs path).canWrite = true) :
    PidLifeCycle s loc alive path p ↔
      s.readableAfter path = true ∧ (s.fs path).removable = true ∧
        (loc = path ∨ ¬ (s.fs loc).Holds p) := by
  have hholds : (s.written path p).Holds p := written_holds hpos hlt
  rw [pidLifeCycle_iff_of_create hpos halive (createPidfile_of_path hfree hpath),
    scan_withPid_path_iff hholds halive hfree, removed_withPid_path_iff hholds hpath]

lemma scan_withPid_local_iff (hne : path ≠ loc) (hholds : (s.written loc p).Holds p)
    (halive : alive p = true) (hfree : ¬ Occupied s.fs loc alive path) :
    scanPidfile (s.withPid loc p) loc path = some p ↔
      (s.fs path).canRead = false ∧ s.readableAfter loc = true := by
  rw [scanPidfile, PidSystem.withPid, Function.update_self, Function.update_of_ne hne,
    written_canRead]
  cases hread : (s.fs path).canRead with
  | true =>
    rw [if_pos rfl]
    exact iff_of_false ((not_holds_of_free hfree halive).1 hread) fun h => Bool.noConfusion h.1
  | false =>
    rw [if_neg Bool.false_ne_true]
    cases s.readableAfter loc with
    | true => exact iff_of_true (by rw [if_pos rfl]; exact hholds) ⟨rfl, rfl⟩
    | false => simp

lemma stuck_iff {f : CStr} :
    (if s.blocked f then .other else (s.fs f).unlinkResult) = UnlinkResult.other ↔ s.Stuck f := by
  unfold PidEntry.unlinkResult PidSystem.Stuck
  cases s.blocked f <;> cases (s.fs f).content <;> cases (s.fs f).removable <;> simp

/-- The local file is only removed when the path gives another error than `ENOENT`. -/
lemma removed_withPid_local_iff (hne : path ≠ loc) (hholds : (s.written loc p).Holds p) :
    (¬ (s.removePidfile (s.withPid loc p) loc (some path) path).Holds p ∧
        ¬ (s.removePidfile (s.withPid loc p) loc (some path) loc).Holds p) ↔
      s.Stuck path ∧ (s.fs loc).removable = true ∧ ¬ (s.fs path).Holds p := by
  unfold PidSystem.removePidfile pidfilePath
  simp only [PidSystem.withPid, Option.getD_some, Function.update_of_ne hne]
  rw [← stuck_iff]
  cases if s.blocked path then .other else (s.fs path).unlinkResult with
  | other =>
    simp only [Function.update_of_ne hne, Function.update_self, written_unlink_holds_iff hholds,
      Bool.not_eq_false, true_and]
    exact and_comm
  | ok | enoent => simp [Function.update_of_ne (Ne.symm hne), hholds]

/-- The pid in the local file. -/
lemma pidLifeCycle_of_local_iff (hpos : 0 < p) (hlt : p < 2 ^ 31) (halive : alive p = true)
    (hfree : ¬ Occupied s.fs loc alive path) (hpath : (s.fs path).canWrite = false)
    (hloc : (s.fs loc).canWrite = true) :
    PidLifeCycle s loc alive path p ↔
      ((s.fs path).canRead = false ∧ s.readableAfter loc = true) ∧
        s.Stuck path ∧ (s.fs loc).removable = true ∧ ¬ (s.fs path).Holds p := by
  have hne : path ≠ loc := by
    rintro rfl
    exact absurd hloc (by rw [hpath]; exact Bool.false_ne_true)
  have hholds : (s.written loc p).Holds p := written_holds hpos hlt
  rw [pidLifeCycle_iff_of_create hpos halive (createPidfile_of_local hfree hpath hloc),
    scan_withPid_local_iff hne hholds halive hfree, removed_withPid_local_iff hne hholds]

/-- **The pidfile functions agree** exactly if the file is refused, or can be written, read back
and removed at the path while the local file does not have the pid, or if at a path that can be
neither written nor read `unlink` fails with another error than `ENOENT` and the local file serves
all four. -/
theorem pidfile_life_cycle_iff (s : PidSystem) (loc path : CStr) (alive : ℤ → Bool) (p : ℤ)
    (hpos : 0 < p) (hlt : p < 2 ^ 31) (halive : alive p = true) :
    PidLifeCycle s loc alive path p ↔
      (Occupied s.fs loc alive path ∨
          ((s.fs path).canWrite = false ∧ (s.fs loc).canWrite = false)) ∨
        ((s.fs path).canWrite = true ∧ s.readableAfter path = true ∧
          (s.fs path).removable = true ∧ (loc = path ∨ ¬ (s.fs loc).Holds p)) ∨
        ((s.fs path).canWrite = false ∧ (s.fs loc).canWrite = true ∧
          ((s.fs path).canRead = false ∧ s.readableAfter loc = true) ∧
          s.Stuck path ∧ (s.fs loc).removable = true ∧ ¬ (s.fs path).Holds p) := by
  by_cases hfree : Occupied s.fs loc alive path
  · exact iff_of_true (pidLifeCycle_of_refused (Or.inl hfree)) (Or.inl (Or.inl hfree))
  cases hpath : (s.fs path).canWrite with
  | true =>
    rw [pidLifeCycle_of_path_iff hpos hlt halive hfree hpath]
    simp [hfree]
  | false =>
    cases hloc : (s.fs loc).canWrite with
    | true =>
      rw [pidLifeCycle_of_local_iff hpos hlt halive hfree hpath hloc]
      simp [hfree]
    | false =>
      refine iff_of_true (pidLifeCycle_of_refused (Or.inr ⟨hpath, hloc⟩)) ?_
      exact Or.inl (Or.inr ⟨rfl, rfl⟩)

end Cycle

/-- No pidfiles yet; `/var/run` can be written to or not. -/
def PidSystem.empty (privileged : Bool) : PidSystem where
  fs f := ⟨none, 0, false, true, true, privileged || f == pidFileLocal, true⟩
  blocked _ := false
  hidden _ := Bool.noConfusion

/-- With the rights to write `/var/run` the whole life cycle goes through. -/
theorem pidfile_life_cycle_privileged :
    PidLifeCycle (.empty true) pidFileLocal (· == 4242) pidFile 4242 :=
  (pidfile_life_cycle_iff (.empty true) pidFileLocal pidFile (· == 4242) 4242 (by decide)
    (by decide) (by decide)).mpr (Or.inr (Or.inl (by decide)))

/-- The pid of a process that may not write to `/var/run` goes to the local file, and stays there:
the removal finds nothing at the path, and `ENOENT` is taken for success. -/
theorem pidfile_left_behind :
    ¬ PidLifeCycle (.empty false) pidFileLocal (· == 4242) pidFile 4242 := by
  have hfree : ¬ Occupied (PidSystem.empty false).fs pidFileLocal (· == 4242) pidFile :=
    fun hocc => Bool.noConfusion (daemonIsRunning_iff.mpr hocc)
  rw [pidLifeCycle_of_local_iff (by decide) (by decide) (by decide) hfree (by decide) (by decide)]
  rintro ⟨-, hstuck, -⟩
  exact hstuck.elim Bool.noConfusion fun h => Bool.noConfusion h.1

end Storage

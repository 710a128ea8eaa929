import StorageManager.Lib.CString
import Mathlib.Logic.Function.Basic

/-!
# The pidfile functions

`daemon_create_pidfile`, `daemon_is_running`, `daemon_read_pid` and `daemon_remove_pidfile` all
work on two files: the path they are given and `PID_FILE_LOCAL`, which each of them falls back to
under a condition of its own.

* creating falls back when the path cannot be opened for *writing*;
* reading and probing fall back when it cannot be opened for *reading*;
* removing falls back when `unlink` fails with anything but `ENOENT`.

A `PidEntry` is what `fopen`, `chmod` and `unlink` see of one path: the contents, if the file
exists, whether it belongs to the caller, and which operations its permissions and its directory
admit.  `chmod` fails on a file of another user, and the code does not look: such a file may stay
unreadable with the pid in it.  The callers are processes of one user, so that what one of them may
do the others may as well and `kill (.., 0)` finds each of them while it lives.

Unlinking a file that is still open leaves the descriptor with the old file, so an entry carries
the number of the file it currently names and `PidEntry.write` only shows through a descriptor of
that file.
-/

namespace Storage

open CString

/-- `PID_FILE`. -/
def pidFile : CStr := "/var/run/storage_mgr.pid".toList

/-- `PID_FILE_LOCAL`. -/
def pidFileLocal : CStr := "./storage_mgr.pid".toList

/-- One path: its contents (`none` when there is no file), the number of the file it names, whose it
is, and what can be done to it.  `creatable` is about the directory and counts while there is no
file. -/
structure PidEntry where
  content : Option CStr
  ino : ℕ
  owned : Bool
  readable : Bool
  writable : Bool
  creatable : Bool
  removable : Bool

/-- `fopen (.., "r")` succeeds. -/
def PidEntry.canRead (e : PidEntry) : Bool := e.content.isSome && e.readable

/-- `fopen (.., "w")` succeeds. -/
def PidEntry.canWrite (e : PidEntry) : Bool :=
  if e.content.isSome then e.writable else e.creatable

/-- `fopen (.., "w")`: an existing file is truncated, a missing one is created and belongs to the
caller. -/
def PidEntry.openW (e : PidEntry) : PidEntry :=
  if e.content.isSome then { e with content := some [] }
  else { e with
    content := some []
    ino := e.ino + 1
    owned := true
    readable := true
    writable := true }

/-- Writing `text` at the start of file `ino`, and `chmod (.., 0644)` on the path, which has no
effect on a file of another user. -/
def PidEntry.write (e : PidEntry) (ino : ℕ) (text : CStr) : PidEntry :=
  { e with
    content := if e.ino = ino then e.content.map fun old => text ++ old.drop text.length
      else e.content
    readable := e.owned || e.readable
    writable := e.owned || e.writable }

/-- The file can be read once it was opened and written: it is new, or the caller's, or was
readable. -/
def PidEntry.readableAfter (e : PidEntry) : Bool := e.content.isNone || e.owned || e.readable

/-- How `unlink` ends. -/
inductive UnlinkResult
  | ok
  | enoent
  | other
  deriving DecidableEq, Repr

/-- What `unlink` of the file would return. -/
def PidEntry.unlinkResult (e : PidEntry) : UnlinkResult :=
  if e.content.isNone then .enoent else if e.removable then .ok else .other

/-- The file after `unlink`. -/
def PidEntry.unlink (e : PidEntry) : PidEntry :=
  if e.unlinkResult = .ok then { e with content := none } else e

/-- The files the pidfile functions can see, by path. -/
abbrev PidFs := CStr → PidEntry

/-- `const char *pidfile_path = path ? path : PID_FILE`. -/
def pidfilePath (path : Option CStr) : CStr := path.getD pidFile

/-! ## Reading -/

/-- The two `fopen (.., "r")` and the `fscanf` that `daemon_is_running` and `daemon_read_pid`
share; `loc` is the file `PID_FILE_LOCAL` denotes for the caller. -/
def scanPidfile (fs : PidFs) (loc path : CStr) : Option ℤ :=
  if (fs path).canRead then (fs path).content.bind scanInt
  else if (fs loc).canRead then (fs loc).content.bind scanInt
  else none

/-- `daemon_is_running`; `alive p` says that `kill (p, 0)` returns 0. -/
def daemonIsRunning (fs : PidFs) (loc : CStr) (alive : ℤ → Bool) (path : CStr) : Bool :=
  match scanPidfile fs loc path with
  | none => false
  | some pid => alive pid

/-- `daemon_read_pid`. -/
def daemonReadPid (fs : PidFs) (loc path : CStr) : ℤ := (scanPidfile fs loc path).getD (-1)

/-! ## Writing -/

/-- The two `fopen (.., "w")` of `daemon_create_pidfile`: the files afterwards and the path that
was opened, or `none` when both fail. -/
def openPidfile (fs : PidFs) (loc path : CStr) : Option (PidFs × CStr) :=
  if (fs path).canWrite then some (Function.update fs path (fs path).openW, path)
  else if (fs loc).canWrite then some (Function.update fs loc (fs loc).openW, loc)
  else none

/-- `fprintf (fp, "%d\n", getpid ())`. -/
def pidText (pid : ℤ) : CStr := intText pid ++ ['\n']

/-- The write, the close and the `chmod` on `file`, whose descriptor is for file number `ino`. -/
def writePidfile (fs : PidFs) (file : CStr) (ino : ℕ) (pid : ℤ) : PidFs :=
  Function.update fs file ((fs file).write ino (pidText pid))

/-- `daemon_create_pidfile`, uninterrupted; `none` is the return value -1. -/
def daemonCreatePidfile (fs : PidFs) (loc : CStr) (alive : ℤ → Bool) (path : Option CStr)
    (pid : ℤ) : Option PidFs :=
  if daemonIsRunning fs loc alive (pidfilePath path) then none
  else (openPidfile fs loc (pidfilePath path)).map fun r =>
    writePidfile r.1 r.2 (r.1 r.2).ino pid

/-- `daemon_remove_pidfile`. -/
def daemonRemovePidfile (fs : PidFs) (loc : CStr) (path : Option CStr) : PidFs :=
  let file := pidfilePath path
  match (fs file).unlinkResult with
  | .ok | .enoent => Function.update fs file (fs file).unlink
  | .other => Function.update fs loc (fs loc).unlink

/-! ## What each operation leaves behind -/

lemma openW_content (e : PidEntry) : e.openW.content = some [] := by
  unfold PidEntry.openW
  split_ifs <;> rfl

/-- What a file that was opened can be read by. -/
lemma openW_readable (e : PidEntry) :
    (e.openW.owned || e.openW.readable) = e.readableAfter := by
  unfold PidEntry.openW PidEntry.readableAfter
  cases hc : e.content <;> simp

/-- Opening for writing truncates the one file it opens and leaves every other path alone.  The
fallback is only taken when the path itself cannot be written. -/
lemma openPidfile_some {fs fs' : PidFs} {loc path file : CStr}
    (h : openPidfile fs loc path = some (fs', file)) :
    fs' file = (fs file).openW ∧ (∀ f, f ≠ file → fs' f = fs f) ∧
      ((file = path ∧ (fs path).canWrite = true) ∨
        (file = loc ∧ (fs path).canWrite = false ∧ (fs loc).canWrite = true)) := by
  unfold openPidfile at h
  split_ifs at h with hp hl
  · rw [Option.some.injEq, Prod.mk.injEq] at h
    obtain ⟨rfl, rfl⟩ := h
    exact ⟨Function.update_self .., fun f hf => Function.update_of_ne hf _ _, Or.inl ⟨rfl, hp⟩⟩
  · rw [Option.some.injEq, Prod.mk.injEq] at h
    obtain ⟨rfl, rfl⟩ := h
    exact ⟨Function.update_self .., fun f hf => Function.update_of_ne hf _ _,
      Or.inr ⟨rfl, by simpa using hp, hl⟩⟩

/-- A pid written to an empty file is there, to be read if `chmod` or the file's own mode lets
one. -/
lemma scanInt_write {e : PidEntry} {pid : ℤ} (hpos : 0 < pid) (hlt : pid < 2 ^ 31)
    (hempty : e.content = some []) :
    (e.write e.ino (pidText pid)).canRead = (e.owned || e.readable) ∧
      (e.write e.ino (pidText pid)).content.bind scanInt = some pid := by
  obtain ⟨n, rfl⟩ := Int.eq_ofNat_of_zero_le (Int.le_of_lt hpos)
  have htext : scanInt (pidText n) = some (n : ℤ) :=
    scanInt_decimal (by omega) (by decide) []
  simp [PidEntry.write, PidEntry.canRead, hempty, htext]

end Storage

import StorageManager.Lib.Script

/-!
# `setup_loops.sh`

The script makes six disk images and attaches each to a loop device, counting the devices it got and
the images that failed, and wants four of them.  It runs under `set -e` and counts with
`((success++))` and `((failed++))`.  As commands those have the status of the value *before* the
increment, so the first of them, whichever it is, fails and ends the script:
`setup_never_completes`.
-/

namespace Storage.SetupLoops

open Script Script.Cmd

/-- `losetup` on a named device and with `--find`, for the image `i`; `find` is the device. -/
structure World where
  root : Bool
  mkdirOk : Bool
  cdOk : Bool
  dd : ℕ → Bool
  losetup : ℕ → Bool
  find : ℕ → Option ℕ

/-- The counters, `$?` where it is read, the images made and the pairs of image and device. -/
structure State where
  success : ℕ
  failed : ℕ
  last : ℕ
  images : List ℕ
  attached : List (ℕ × ℕ)

/-- `((success++))`. -/
def countSuccess : Cmd State := .run fun s =>
  ({ s with success := s.success + 1 }, status (s.success != 0))

/-- `((failed++))`. -/
def countFailed : Cmd State := .run fun s =>
  ({ s with failed := s.failed + 1 }, status (s.failed != 0))

section Script

variable (w : World)

/-- `dd if=/dev/zero of=disk$i.img`. -/
def makeImage (i : ℕ) : Cmd State := .run fun s =>
  (if w.dd i then { s with images := s.images ++ [i] } else s, status (w.dd i))

/-- `losetup /dev/loop$i disk$i.img`. -/
def attach (i : ℕ) : Cmd State := .run fun s =>
  (if w.losetup i then { s with attached := s.attached ++ [(i, i)] } else s, status (w.losetup i))

/-- `LOOP=$(losetup --find --show disk$i.img)`, whose status is that of `losetup`. -/
def attachFree (i : ℕ) : Cmd State := .run fun s =>
  match w.find i with
  | some device => ({ s with last := 0, attached := s.attached ++ [(i, device)] }, 0)
  | none => ({ s with last := 1 }, 1)

/-- The body of the first `for` loop. -/
def setupOne (i : ℕ) : Cmd State := block [
  .ite (makeImage w i) skip (block [countFailed, .cont]),
  .ite (attach w i) countSuccess
    (block [attachFree w i, .ite (test fun s => s.last == 0) countSuccess countFailed])]

/-- The script.  The calls before the loop that may fail end in `|| true`, and what follows the test
of `success` only prints. -/
def setupLoops : Cmd State := block [
  .ite (test fun _ => !w.root) (.exit 1) skip,
  test fun _ => w.mkdirOk,
  test fun _ => w.cdOk,
  .run fun s => ({ s with success := 0, failed := 0 }, 0),
  each (List.range 6) (setupOne w),
  .ite (test fun s => s.success < 4) (.exit 1) skip]

end Script

/-- The first iteration ends the script, whatever happens in it. -/
lemma setupOne_exits (w : World) (i : ℕ) {s : State} (hsuccess : s.success = 0)
    (hfailed : s.failed = 0) :
    ∃ s', (setupOne w i).eval true s = .exit s' 1 ∧ s'.images ⊆ s.images ++ [i] ∧
      s'.attached.length ≤ s.attached.length + 1 := by
  cases hdd : w.dd i <;> cases hlosetup : w.losetup i <;> cases hfind : w.find i <;>
    simp [setupOne, block, makeImage, attach, attachFree, countSuccess, countFailed, test,
      status, settle, hdd, hlosetup, hfind, hsuccess, hfailed]

/-- **`setup_loops.sh` never completes.**  Whichever of its commands succeed, it ends with a
failure, with at most one image made and at most one loop device attached: the six it is for, or
the four it asks for, are out of its reach. -/
theorem setup_never_completes (w : World) (last : ℕ) :
    ((setupLoops w).script ⟨0, 0, last, [], []⟩).2 ≠ 0 ∧
      ((setupLoops w).script ⟨0, 0, last, [], []⟩).1.images ⊆ [0] ∧
      ((setupLoops w).script ⟨0, 0, last, [], []⟩).1.attached.length ≤ 1 := by
  obtain ⟨s', hexit, himages, hattached⟩ := setupOne_exits w 0 (s := ⟨0, 0, last, [], []⟩) rfl rfl
  have hloop : (each (List.range 6) (setupOne w)).eval true ⟨0, 0, last, [], []⟩ = .exit s' 1 := by
    rw [show List.range 6 = 0 :: [1, 2, 3, 4, 5] from rfl, eval_each_cons]
    exact eval_seq_exit (by simp only [eval_iteration, hexit])
  cases hroot : w.root <;> cases hmkdir : w.mkdirOk <;> cases hcd : w.cdOk <;>
    simp [setupLoops, block, script, test, status, settle, hroot, hmkdir, hcd, hloop,
      Outcome.state, Outcome.status]
  all_goals exact ⟨by simpa using himages, by simpa using hattached⟩

end Storage.SetupLoops

import StorageManager.Daemon.PidFile
import StorageManager.Lib.Machine

/-!
# Who holds the pidfile

Any number of processes call `daemon_create_pidfile` with one path.  A call is three steps: the
probe (`daemon_is_running`), the opening for writing, and the writing of the pid.  Nothing ties
them together, so two processes whose probes both come before either has written both get
through.  There are two more ways, with no race in them.  When the path can be read but not written
(a stale pidfile on a read-only file system) every call probes the stale file and writes
`PID_FILE_LOCAL`, which no later call looks at.  And when the file that is written belongs to
another user and cannot be read, `chmod` fails, the call returns 0 all the same and no later call
sees the pid.

`Exclusive` is the absence of all three, as a condition on the state a step is taken from.
`at_most_one_holder` shows that nothing else can go wrong: the invariant is that at most one
live process is anywhere past its probe, and that the pid of a live holder is what the next
probe reads.  `create_uninterrupted` ties the steps to the function of `Daemon/PidFile.lean`.
-/

namespace Storage

open CString Machine

/-- Where a process stands in a call, and whether it holds the pidfile afterwards. -/
inductive PidPhase
  | idle
  | checked
  | opened (file : CStr) (ino : ℕ)
  | holding (file : CStr)
  deriving DecidableEq, Repr

/-- The files, the pids `kill (.., 0)` finds, and the phase of each process. -/
structure PidWorld where
  fs : PidFs
  alive : ℤ → Bool
  phase : ℤ → PidPhase

/-- The steps of a process: the probe, the `fopen` and the write of `daemon_create_pidfile`, the
`unlink` of `daemon_remove_pidfile`, its death and its birth. -/
inductive PidAct
  | check (p : ℤ)
  | open (p : ℤ)
  | write (p : ℤ)
  | remove (p : ℤ)
  | die (p : ℤ)
  | spawn (p : ℤ)

/-- The process goes to this phase. -/
def PidWorld.setPhase (s : PidWorld) (p : ℤ) (ph : PidPhase) : PidWorld :=
  { s with phase := Function.update s.phase p ph }

/-- One step of process `p`, its death, or the start of a process under a free pid.  A call that
returns -1 leaves its process idle. -/
def pidStep (path : CStr) (s : PidWorld) : PidAct → Option PidWorld
  | .check p =>
      if s.alive p ∧ s.phase p = .idle ∧ 0 < p ∧ p < 2 ^ 31 then
        if daemonIsRunning s.fs pidFileLocal s.alive path then some s
        else some (s.setPhase p .checked)
      else none
  | .open p =>
      if s.alive p ∧ s.phase p = .checked then
        match openPidfile s.fs pidFileLocal path with
        | none => some (s.setPhase p .idle)
        | some (fs, file) => some { s.setPhase p (.opened file (fs file).ino) with fs := fs }
      else none
  | .write p =>
      match s.phase p with
      | .opened file ino =>
          if s.alive p then
            some { s.setPhase p (.holding file) with fs := writePidfile s.fs file ino p }
          else none
      | _ => none
  | .remove p =>
      match s.phase p with
      | .holding _ =>
          if s.alive p then
            some { s.setPhase p .idle with fs := daemonRemovePidfile s.fs pidFileLocal (some path) }
          else none
      | _ => none
  | .die p =>
      if s.alive p ∧ 0 < p then some { s with alive := Function.update s.alive p false } else none
  | .spawn p =>
      if s.alive p = false ∧ 0 < p then
        some { s.setPhase p .idle with alive := Function.update s.alive p true }
      else none

/-- The two levels agree: a call whose three steps follow each other does what
`daemonCreatePidfile` does. -/
theorem create_uninterrupted {path : CStr} {s : PidWorld} {p : ℤ} {fs : PidFs}
    (halive : s.alive p = true) (hidle : s.phase p = .idle) (hp : 0 < p ∧ p < 2 ^ 31)
    (hcreate : daemonCreatePidfile s.fs pidFileLocal s.alive (some path) p = some fs) :
    ∃ file, run (pidStep path) s [.check p, .open p, .write p]
      = some { s.setPhase p (.holding file) with fs := fs } := by
  rw [daemonCreatePidfile] at hcreate
  split_ifs at hcreate with hrun
  obtain ⟨⟨fs', file⟩, hopen, rfl⟩ := Option.map_eq_some_iff.mp hcreate
  simp only [pidfilePath, Option.getD_some] at hrun hopen
  have hlt : p < 2147483648 := by simpa using hp.2
  refine ⟨file, ?_⟩
  simp [pidStep, PidWorld.setPhase, halive, hidle, hp.1, hlt, hrun, hopen]

/-- Any files, any live processes; nobody has made a call yet. -/
def pidInit (s : PidWorld) : Prop := ∀ p, s.phase p = .idle

/-- `p` is alive, its call returned 0, and it has not removed the pidfile since. -/
def Holder (s : PidWorld) (p : ℤ) : Prop := s.alive p = true ∧ ∃ file, s.phase p = .holding file

/-- No two daemons have the pidfile. -/
def AtMostOneHolder (s : PidWorld) : Prop := ∀ p q, Holder s p → Holder s q → p = q

/-- A probe is only made while no other live process is between its own probe and its write, a file
is only opened if it can be read once it is written, and the fallback to `PID_FILE_LOCAL` is not
taken while the path can still be read. -/
def Exclusive (path : CStr) (s : PidWorld) : PidAct → Prop
  | .check p => ∀ q, q ≠ p → s.alive q = true →
      s.phase q ≠ .checked ∧ ∀ file ino, s.phase q ≠ .opened file ino
  | .open _ =>
      if (s.fs path).canWrite then (s.fs path).readableAfter = true
      else (s.fs pidFileLocal).canWrite = true →
        (s.fs path).canRead = false ∧ (s.fs pidFileLocal).readableAfter = true
  | _ => True

/-! ## The invariant -/

/-- `p` is alive and past the probe of a call. -/
def Engaged (s : PidWorld) (p : ℤ) : Prop := s.alive p = true ∧ s.phase p ≠ .idle

/-- What the files look like to a live process in each phase. -/
def PhaseOk (path : CStr) (fs : PidFs) (p : ℤ) : PidPhase → Prop
  | .opened file ino => (fs file).content = some [] ∧ (fs file).ino = ino ∧
      ((fs file).owned || (fs file).readable) = true ∧
      (file = path ∨ (file = pidFileLocal ∧ (fs path).canRead = false))
  | .holding _ => scanPidfile fs pidFileLocal path = some p
  | _ => True

/-- The invariant: one process at most is past its probe, and the files look to it as its phase
says. -/
structure PidInv (path : CStr) (s : PidWorld) : Prop where
  unique : ∀ p q, Engaged s p → Engaged s q → p = q
  phase : ∀ p, Engaged s p → PhaseOk path s.fs p (s.phase p)
  range : ∀ p, Engaged s p → 0 < p ∧ p < 2 ^ 31

lemma pidInv_init (path : CStr) {s : PidWorld} (h : pidInit s) : PidInv path s := by
  have hnone : ∀ p, ¬ Engaged s p := fun p hp => hp.2 (h p)
  exact ⟨fun p _ hp => absurd hp (hnone p), fun p hp => absurd hp (hnone p),
    fun p hp => absurd hp (hnone p)⟩

/-- Only the process that takes the step changes its phase. -/
lemma engaged_setPhase_of_ne {s : PidWorld} {p q : ℤ} {ph : PidPhase} {fs : PidFs} (hne : q ≠ p)
    (h : Engaged { s.setPhase p ph with fs := fs } q) : Engaged s q := by
  refine ⟨h.1, fun hidle => h.2 ?_⟩
  simpa [PidWorld.setPhase, hne] using hidle

/-- **The step that matters.**  If one process is the only engaged one before and after, whatever
it does to the files concerns nobody else. -/
lemma PidInv.solo {path : CStr} {s : PidWorld} {p : ℤ} {ph : PidPhase} (fs : PidFs)
    (hsolo : ∀ q, Engaged s q → q = p) (hph : PhaseOk path fs p ph)
    (hp : 0 < p ∧ p < 2 ^ 31) : PidInv path { s.setPhase p ph with fs := fs } := by
  have hsolo' : ∀ q, Engaged { s.setPhase p ph with fs := fs } q → q = p := by
    intro q hq
    by_contra hne
    exact hne (hsolo q (engaged_setPhase_of_ne hne hq))
  refine ⟨fun q r hq hr => by rw [hsolo' q hq, hsolo' r hr], fun q hq => ?_, fun q hq => ?_⟩
  · obtain rfl := hsolo' q hq
    simpa [PidWorld.setPhase] using hph
  · rw [hsolo' q hq]
    exact hp

/-- A probe that finds nothing running means no live process holds the pidfile. -/
lemma PidInv.not_holding {path : CStr} {s : PidWorld} (h : PidInv path s)
    (hrun : daemonIsRunning s.fs pidFileLocal s.alive path = false) {q : ℤ} {file : CStr}
    (hq : s.alive q = true) : s.phase q ≠ .holding file := by
  intro hhold
  have hscan := h.phase q ⟨hq, by rw [hhold]; simp⟩
  rw [hhold] at hscan
  have hscan : scanPidfile s.fs pidFileLocal path = some q := hscan
  have htrue : daemonIsRunning s.fs pidFileLocal s.alive path = true := by
    simp [daemonIsRunning, hscan, hq]
  rw [htrue] at hrun
  exact absurd hrun (by decide)

lemma pidInv_check {path : CStr} {s s' : PidWorld} {p : ℤ} (h : PidInv path s)
    (hok : Exclusive path s (.check p)) (hs : pidStep path s (.check p) = some s') :
    PidInv path s' := by
  simp only [pidStep] at hs
  split_ifs at hs with hpre hrun
  · rw [Option.some.injEq] at hs
    subst hs
    exact h
  · rw [Option.some.injEq] at hs
    subst hs
    obtain ⟨-, hidle, hpos, hlt⟩ := hpre
    have hrun : daemonIsRunning s.fs pidFileLocal s.alive path = false := by simpa using hrun
    refine PidInv.solo s.fs (fun q hq => ?_) trivial ⟨hpos, hlt⟩
    by_contra hne
    obtain ⟨hchecked, hopened⟩ := hok q hne hq.1
    cases hphase : s.phase q with
    | idle => exact hq.2 hphase
    | checked => exact hchecked hphase
    | opened file ino => exact hopened file ino hphase
    | holding file => exact h.not_holding hrun hq.1 hphase

lemma pidInv_open {path : CStr} {s s' : PidWorld} {p : ℤ} (h : PidInv path s)
    (hok : Exclusive path s (.open p)) (hs : pidStep path s (.open p) = some s') :
    PidInv path s' := by
  simp only [pidStep] at hs
  split_ifs at hs with hpre
  have hp : Engaged s p := ⟨hpre.1, by rw [hpre.2]; simp⟩
  have hsolo : ∀ q, Engaged s q → q = p := fun q hq => h.unique q p hq hp
  split at hs
  · rw [Option.some.injEq] at hs
    subst hs
    exact PidInv.solo s.fs hsolo trivial (h.range p hp)
  · next fs file hopen =>
      rw [Option.some.injEq] at hs
      subst hs
      obtain ⟨hfs, hother, hfile⟩ := openPidfile_some hopen
      have hempty : (fs file).content = some [] := by rw [hfs, openW_content]
      refine PidInv.solo fs hsolo ⟨hempty, rfl, ?_⟩ (h.range p hp)
      rw [hfs, openW_readable]
      rcases hfile with ⟨rfl, hw⟩ | ⟨rfl, hw, hwl⟩
      · have hread : (s.fs file).readableAfter = true := by simpa [Exclusive, hw] using hok
        exact ⟨hread, Or.inl rfl⟩
      · -- the fallback: the condition leaves only the case that the path cannot be read
        have hread : (s.fs path).canRead = false ∧ (s.fs pidFileLocal).readableAfter = true := by
          simpa [Exclusive, hw, hwl] using hok
        have hne : path ≠ pidFileLocal := by
          rintro rfl
          rw [hw] at hwl
          exact absurd hwl (by decide)
        exact ⟨hread.2, Or.inr ⟨rfl, by rw [hother path hne]; exact hread.1⟩⟩

lemma pidInv_write {path : CStr} {s s' : PidWorld} {p : ℤ} (h : PidInv path s)
    (hs : pidStep path s (.write p) = some s') : PidInv path s' := by
  simp only [pidStep] at hs
  split at hs
  · next file ino hphase =>
      split_ifs at hs with halive
      rw [Option.some.injEq] at hs
      subst hs
      have hp : Engaged s p := ⟨halive, by rw [hphase]; simp⟩
      have hopened := h.phase p hp
      rw [hphase] at hopened
      obtain ⟨hempty, hino, hmode, hfile⟩ := hopened
      subst hino
      obtain ⟨hread, hscan⟩ := scanInt_write (h.range p hp).1 (h.range p hp).2 hempty
      rw [hmode] at hread
      refine PidInv.solo _ (fun q hq => h.unique q p hq hp) ?_ (h.range p hp)
      rcases hfile with rfl | ⟨rfl, hpath⟩
      · simp [PhaseOk, scanPidfile, writePidfile, hread, hscan]
      · by_cases hne : path = pidFileLocal
        · simp [PhaseOk, scanPidfile, writePidfile, hne, hread, hscan]
        · simp [PhaseOk, scanPidfile, writePidfile, hne, hpath, hread, hscan]
  · exact absurd hs (by simp)

/-- A step that engages nobody and leaves the files alone. -/
lemma PidInv.of_engaged {path : CStr} {s s' : PidWorld} (h : PidInv path s) (hfs : s'.fs = s.fs)
    (hsub : ∀ q, Engaged s' q → Engaged s q ∧ s'.phase q = s.phase q) : PidInv path s' := by
  refine ⟨fun q r hq hr => h.unique q r (hsub q hq).1 (hsub r hr).1, fun q hq => ?_,
    fun q hq => h.range q (hsub q hq).1⟩
  rw [hfs, (hsub q hq).2]
  exact h.phase q (hsub q hq).1

lemma pidInv_step {path : CStr} {s s' : PidWorld} {a : PidAct} (h : PidInv path s)
    (hok : Exclusive path s a) (hs : pidStep path s a = some s') : PidInv path s' := by
  cases a with
  | check p => exact pidInv_check h hok hs
  | «open» p => exact pidInv_open h hok hs
  | write p => exact pidInv_write h hs
  | remove p =>
      simp only [pidStep] at hs
      split at hs
      · next file hphase =>
          split_ifs at hs with halive
          rw [Option.some.injEq] at hs
          subst hs
          have hp : Engaged s p := ⟨halive, by rw [hphase]; simp⟩
          exact PidInv.solo _ (fun q hq => h.unique q p hq hp) trivial (h.range p hp)
      · exact absurd hs (by simp)
  | die p =>
      simp only [pidStep] at hs
      split_ifs at hs
      rw [Option.some.injEq] at hs
      subst hs
      refine h.of_engaged rfl ?_
      rintro q ⟨hq, hidle⟩
      by_cases hqp : q = p
      · subst hqp; simp at hq
      · exact ⟨⟨by simpa [hqp] using hq, hidle⟩, rfl⟩
  | spawn p =>
      simp only [pidStep] at hs
      split_ifs at hs
      rw [Option.some.injEq] at hs
      subst hs
      refine h.of_engaged rfl ?_
      rintro q ⟨hq, hidle⟩
      by_cases hqp : q = p
      · subst hqp; exact absurd (by simp [PidWorld.setPhase]) hidle
      · have hphase : Function.update s.phase p .idle q = s.phase q := by simp [hqp]
        exact ⟨⟨by simpa [hqp] using hq, fun h => hidle (hphase.trans h)⟩, hphase⟩

/-- **At most one daemon holds the pidfile**, in every state of a run whose probes are exclusive and
whose files, the path or else the fallback, are the ones the next probe reads. -/
theorem at_most_one_holder (path : CStr) {s : PidWorld}
    (h : Reach pidInit (pidStep path) (Exclusive path) s) : AtMostOneHolder s := by
  have hinv : PidInv path s :=
    h.invariant (fun _ => pidInv_init path) fun _ _ _ hI hok hs => pidInv_step hI hok hs
  have hengaged : ∀ p, Holder s p → Engaged s p := by
    rintro p ⟨halive, file, hfile⟩
    exact ⟨halive, by rw [hfile]; simp⟩
  exact fun p q hp hq => hinv.unique p q (hengaged p hp) (hengaged q hq)

/-- No pidfile anywhere, and the processes 1 and 2. -/
def twoStarting : PidWorld where
  fs := fun _ => ⟨none, 0, false, true, true, true, true⟩
  alive := fun p => p == 1 || p == 2
  phase := fun _ => .idle

/-- Process 1 creates the pidfile before process 2 probes it. -/
def createThenProbe : List PidAct := [.check 1, .open 1, .write 1, .check 2]

/-- The second process finds the first one's pidfile. -/
theorem at_most_one_holder_probed :
    ∃ s, Reach pidInit (pidStep pidFile) (Exclusive pidFile) s ∧ Holder s 1 ∧
      AtMostOneHolder s := by
  have hrun : (run (pidStep pidFile) twoStarting createThenProbe).map
      (fun s => (s.alive 1, s.phase 1)) = some (true, .holding pidFile) := by decide +kernel
  obtain ⟨s, hs, hphase⟩ := Option.map_eq_some_iff.mp hrun
  rw [Prod.mk.injEq] at hphase
  have hall : AllowedRun (pidStep pidFile) (Exclusive pidFile) twoStarting createThenProbe := by
    refine ⟨fun q _ _ => ⟨nofun, nofun⟩, rfl, trivial, fun q hq halive => ?_, ?_⟩
    · have : q = 1 := by
        change (q == 1 || q == 2) = true at halive
        simpa [hq] using halive
      subst this
      exact ⟨nofun, nofun⟩
    · trivial
  have hreach : Reach pidInit (pidStep pidFile) (Exclusive pidFile) s :=
    (Reach.start fun _ => rfl).of_run hall hs
  exact ⟨s, hreach, ⟨hphase.1, _, hphase.2⟩, at_most_one_holder pidFile hreach⟩

/-- Both probes come before either write. -/
def probeTwice : List PidAct := [.check 1, .check 2, .open 1, .write 1, .open 2, .write 2]

/-- Then both calls return 0 and both processes hold the pidfile. -/
theorem two_holders_after_race :
    ¬ ∀ path s, Reach pidInit (pidStep path) anyStep s → AtMostOneHolder s := by
  intro hclaim
  have hrun : (run (pidStep pidFile) twoStarting probeTwice).map
      (fun s => (s.alive 1, s.phase 1, s.alive 2, s.phase 2)) =
      some (true, .holding pidFile, true, .holding pidFile) := by decide +kernel
  obtain ⟨s, hs, hphase⟩ := Option.map_eq_some_iff.mp hrun
  simp only [Prod.mk.injEq] at hphase
  have hreach : Reach pidInit (pidStep pidFile) anyStep s :=
    (Reach.start fun _ => rfl).of_run_any hs
  exact absurd (hclaim pidFile s hreach 1 2 ⟨hphase.1, _, hphase.2.1⟩
    ⟨hphase.2.2.1, _, hphase.2.2.2⟩) (by decide)

end Storage

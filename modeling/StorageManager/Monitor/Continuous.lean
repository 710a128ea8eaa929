import StorageManager.Lib.Machine
import Mathlib.Data.Int.Order.Basic
import Mathlib.Data.List.Basic
import Mathlib.Logic.Function.Basic
import Mathlib.Tactic.Common

/-!
# Continuous monitoring and `fork`

`monitor_start_continuous` sets a flag and creates a thread; `monitor_stop_continuous` clears the
flag and joins the thread.  Flag and handle are memory and are copied by `fork`.  The thread is not:
a child has only the thread that called `fork`.

**Runs.**  Flag, handle and thread stay together as long as no process forks while it is monitoring,
and as long as a `pthread_create` that fails leaves zero in the handle: `MonSystem.Sound`, kept by
every such step (`sound_step`).

**The daemon.**  `main` starts the monitoring and then lets `daemon_init` fork twice.  The process
that goes on to the main loop has the flag and no thread, unless it stays in the foreground or was
a child of `init` already: `monitoring_is_running`.
-/

namespace Storage

open Machine

/-- What a process has of the monitor: `monitoring_active`, `monitor_thread` and its live threads
in `monitor_thread_func`. -/
structure MonProc where
  active : Bool
  handle : ℕ
  threads : List ℕ
  deriving DecidableEq

/-- The outcome of `pthread_create`.  When it fails nothing is promised about the handle. -/
inductive Created
  | thread
  | failed (left : ℕ)
  deriving DecidableEq

/-- `monitor_start_continuous`, when the next thread to be created is `tid`. -/
def monitorStartContinuous (p : MonProc) (tid : ℕ) (c : Created) : MonProc × ℤ :=
  if p.active then (p, -1)
  else
    match c with
    | .thread => (⟨true, tid, tid :: p.threads⟩, 0)
    | .failed left => (⟨false, left, p.threads⟩, -1)

/-- `monitor_stop_continuous`, and the thread it joins.  A thread that was joined has seen the flag
and ended. -/
def monitorStopContinuous (p : MonProc) : MonProc × Option ℕ :=
  if p.handle = 0 then (⟨false, 0, p.threads⟩, none)
  else (⟨false, 0, p.threads.erase p.handle⟩, some p.handle)

/-- A `pthread_join`: by which process, and whether the thread was one of its own. -/
structure Join where
  pid : ℕ
  handle : ℕ
  own : Bool
  deriving DecidableEq

/-- The processes, the next thread, and the joins so far. -/
structure MonSystem where
  procs : ℕ → Option MonProc
  nextTid : ℕ
  joins : List Join

/-- A call of one of the two functions, a `fork` or an exit, in the process `pid`. -/
inductive MonAct
  | start (pid : ℕ) (c : Created)
  | stop (pid : ℕ)
  | fork (pid child : ℕ)
  | exit (pid : ℕ)
  deriving DecidableEq

/-- One call in one of the processes. -/
def monStep (s : MonSystem) : MonAct → Option MonSystem
  | .start pid c => (s.procs pid).map fun p =>
      { s with
        procs := Function.update s.procs pid (some (monitorStartContinuous p s.nextTid c).1)
        nextTid := s.nextTid + 1 }
  | .stop pid => (s.procs pid).map fun p =>
      let r := monitorStopContinuous p
      { s with
        procs := Function.update s.procs pid (some r.1)
        joins := s.joins ++ (r.2.map fun h => ⟨pid, h, decide (h ∈ p.threads)⟩).toList }
  | .fork pid child =>
      if s.procs child = none then
        (s.procs pid).map fun p =>
          { s with procs := Function.update s.procs child (some { p with threads := [] }) }
      else none
  | .exit pid => (s.procs pid).map fun _ => { s with procs := Function.update s.procs pid none }

/-- One process, that has not started to monitor. -/
def MonSystem.alone (pid : ℕ) : MonSystem :=
  ⟨Function.update (fun _ => none) pid (some ⟨false, 0, []⟩), 1, []⟩

/-- Some process has just started. -/
def MonInit (s : MonSystem) : Prop := ∃ pid, s = .alone pid

/-- A process that reports monitoring has a thread that does it, and every join was of a thread of
the process itself. -/
def Monitored (s : MonSystem) : Prop :=
  (∀ pid p, s.procs pid = some p → p.active = true → p.threads ≠ []) ∧
    ∀ j ∈ s.joins, j.own = true

/-- No process forks while it is monitoring, and a failed `pthread_create` leaves zero. -/
def KeepsThread (s : MonSystem) : MonAct → Prop
  | .fork pid _ => ∀ p, s.procs pid = some p → p.active = false
  | .start pid (.failed left) => ∀ p, s.procs pid = some p → p.active = false → left = 0
  | _ => True

/-! ## Runs -/

/-- The flag is set exactly when the handle is, and then the handle is that of a live thread. -/
structure MonProc.Sound (p : MonProc) : Prop where
  active_iff : p.active = true ↔ p.handle ≠ 0
  live : p.handle ≠ 0 → p.handle ∈ p.threads

/-- The invariant: every process is in order, 0 is no thread, and every join was of an own thread.
-/
structure MonSystem.Sound (s : MonSystem) : Prop where
  procs : ∀ pid p, s.procs pid = some p → p.Sound
  next : s.nextTid ≠ 0
  joins : ∀ j ∈ s.joins, j.own = true

section Runs

variable {s s' : MonSystem} {p q : MonProc} {pid tid : ℕ}

lemma MonProc.Sound.start (h : p.Sound) (htid : tid ≠ 0) {c : Created}
    (hc : ∀ left, c = .failed left → p.active = false → left = 0) :
    (monitorStartContinuous p tid c).1.Sound := by
  unfold monitorStartContinuous
  cases hact : p.active with
  | true => exact h
  | false =>
      cases c with
      | thread => exact ⟨by simpa using htid, by simp⟩
      | failed left =>
          obtain rfl := hc left rfl hact
          exact ⟨by simp, by simp⟩

lemma MonProc.sound_stop (p : MonProc) : (monitorStopContinuous p).1.Sound := by
  unfold monitorStopContinuous
  split_ifs <;> exact ⟨by simp, by simp⟩

/-- What is joined is a thread of the process. -/
lemma MonProc.Sound.join (h : p.Sound) {t : ℕ} (ht : (monitorStopContinuous p).2 = some t) :
    t ∈ p.threads := by
  unfold monitorStopContinuous at ht
  split_ifs at ht with hzero
  rw [← Option.some.inj ht]
  exact h.live hzero

/-- A state that differs in one process is sound if that process is. -/
lemma MonSystem.Sound.update (h : s.Sound) {o : Option MonProc} (ho : ∀ p ∈ o, p.Sound) :
    ∀ pid' p, Function.update s.procs pid o pid' = some p → p.Sound := by
  intro pid' p hp
  by_cases heq : pid' = pid
  · subst heq
    rw [Function.update_self] at hp
    exact ho p (by rw [hp]; rfl)
  · rw [Function.update_of_ne heq] at hp
    exact h.procs pid' p hp

lemma sound_step {a : MonAct} (h : s.Sound) (hkeeps : KeepsThread s a)
    (hstep : monStep s a = some s') : s'.Sound := by
  cases a with
  | start pid c =>
      obtain ⟨p, hp, rfl⟩ := Option.map_eq_some_iff.mp hstep
      refine ⟨h.update ?_, Nat.succ_ne_zero _, h.joins⟩
      rintro q hq
      obtain rfl := Option.some.inj hq
      refine (h.procs pid p hp).start h.next fun left hleft hact => ?_
      subst hleft
      exact hkeeps p hp hact
  | stop pid =>
      obtain ⟨p, hp, rfl⟩ := Option.map_eq_some_iff.mp hstep
      refine ⟨h.update ?_, h.next, fun j hj => ?_⟩
      · rintro q hq
        obtain rfl := Option.some.inj hq
        exact p.sound_stop
      · rcases List.mem_append.mp hj with hj | hj
        · exact h.joins j hj
        · obtain ⟨t, ht, rfl⟩ := Option.map_eq_some_iff.mp (Option.mem_toList.mp hj)
          simpa using (h.procs pid p hp).join ht
  | fork pid child =>
      simp only [monStep] at hstep
      split_ifs at hstep
      obtain ⟨p, hp, rfl⟩ := Option.map_eq_some_iff.mp hstep
      refine ⟨h.update ?_, h.next, h.joins⟩
      rintro q hq
      obtain rfl := Option.some.inj hq
      have hidle := (h.procs pid p hp).active_iff
      rw [hkeeps p hp] at hidle
      exact ⟨by simpa [hkeeps p hp] using hidle, fun hne => absurd (hidle.mpr hne) (by simp)⟩
  | exit pid =>
      obtain ⟨p, hp, rfl⟩ := Option.map_eq_some_iff.mp hstep
      exact ⟨h.update fun q hq => by simp at hq, h.next, h.joins⟩

/-- The child of a `fork` is a new process with the memory of its parent and no thread. -/
lemma monStep_fork {child : ℕ} (hp : s.procs pid = some p)
    (hstep : monStep s (.fork pid child) = some s') :
    child ≠ pid ∧ s'.procs child = some { p with threads := [] } := by
  simp only [monStep, hp, Option.map_some] at hstep
  split_ifs at hstep with hfree
  obtain rfl := Option.some.inj hstep
  refine ⟨?_, Function.update_self ..⟩
  rintro rfl
  rw [hp] at hfree
  cases hfree

lemma monStep_exit {pid' : ℕ} (hne : pid' ≠ pid) (hstep : monStep s (.exit pid) = some s') :
    s'.procs pid' = s.procs pid' := by
  obtain ⟨p, -, rfl⟩ := Option.map_eq_some_iff.mp hstep
  exact Function.update_of_ne hne ..

lemma sound_of_reach (h : Reach MonInit monStep KeepsThread s) : s.Sound := by
  refine h.invariant ?_ fun s a s' hs hkeeps hstep => sound_step hs hkeeps hstep
  rintro _ ⟨pid, rfl⟩
  refine ⟨fun pid' p hp => ?_, Nat.one_ne_zero, fun j hj => absurd hj List.not_mem_nil⟩
  simp only [MonSystem.alone, Function.update_apply] at hp
  split_ifs at hp
  obtain rfl := Option.some.inj hp
  exact ⟨by simp, by simp⟩

lemma MonSystem.Sound.monitored (h : s.Sound) : Monitored s := by
  refine ⟨fun pid p hp hact => ?_, h.joins⟩
  have hlive := (h.procs pid p hp).live ((h.procs pid p hp).active_iff.mp hact)
  exact List.ne_nil_of_mem hlive

/-- A process that forks while it is monitoring has a child that reports monitoring and does
none. -/
lemma not_monitored_of_fork {child : ℕ} (hp : s.procs pid = some p) (hact : p.active = true)
    (hstep : monStep s (.fork pid child) = some s') : ¬ Monitored s' := by
  intro hmon
  exact hmon.1 child { p with threads := [] } (monStep_fork hp hstep).2 hact rfl

end Runs

/-! ## The daemon -/

/-- `daemon_init` does not fork when the parent is `init`. -/
def staysPut (foreground : Bool) (ppid : ℤ) : Prop := foreground = true ∨ ppid = 1

instance (foreground : Bool) (ppid : ℤ) : Decidable (staysPut foreground ppid) :=
  inferInstanceAs (Decidable (_ ∨ _))

/-- What `main` does on the way to its loop, as process `p`; `c` and `g` are the processes of the
two forks of `daemon_init`, whose parents exit. -/
def mainActs (foreground : Bool) (ppid : ℤ) (p c g : ℕ) : List MonAct :=
  .start p .thread ::
    if staysPut foreground ppid then [] else [.fork p c, .exit p, .fork c g, .exit c]

/-- The process that executes the loop. -/
def loopPid (foreground : Bool) (ppid : ℤ) (p g : ℕ) : ℕ :=
  if staysPut foreground ppid then p else g

/-- What the process in the loop has of the monitor. -/
lemma main_loop {foreground : Bool} {ppid : ℤ} {p c g : ℕ} {s : MonSystem}
    (hrun : run monStep (.alone p) (mainActs foreground ppid p c g) = some s) :
    s.procs (loopPid foreground ppid p g)
      = some ⟨true, 1, if staysPut foreground ppid then [1] else []⟩ := by
  rw [mainActs, run_cons, Option.bind_eq_some_iff] at hrun
  obtain ⟨s₁, hstart, hrun⟩ := hrun
  have hs₁ : s₁.procs p = some ⟨true, 1, [1]⟩ := by
    simp only [monStep, MonSystem.alone, Function.update_self, Option.map_some,
      Option.some.injEq] at hstart
    rw [← hstart]
    exact Function.update_self ..
  unfold loopPid
  by_cases hstay : staysPut foreground ppid
  · simp only [hstay, if_true, run_nil, Option.some.injEq] at hrun ⊢
    rw [← hrun, hs₁]
  · simp only [hstay, if_false, run_cons, run_nil, Option.bind_eq_some_iff,
      Option.some.injEq] at hrun ⊢
    obtain ⟨s₂, hfork, s₃, hexit, s₄, hfork', s₅, hexit', rfl⟩ := hrun
    obtain ⟨hcp, hs₂⟩ := monStep_fork hs₁ hfork
    have hs₃ := monStep_exit hcp hexit
    rw [hs₂] at hs₃
    obtain ⟨hgc, hs₄⟩ := monStep_fork hs₃ hfork'
    rw [monStep_exit hgc hexit', hs₄]

/-- **Monitoring that is reported is running**, and only own threads are joined, in every run in
which no process forks while it is monitoring and a failed `pthread_create` leaves zero.  A `fork`
of a process that is monitoring always breaks it.  In the loop of `main` it holds exactly when
`daemon_init` did not fork. -/
theorem monitoring_is_running (s : MonSystem) :
    (Reach MonInit monStep KeepsThread s → Monitored s) ∧
    (∀ (s' : MonSystem) (pid child : ℕ) (p : MonProc), s.procs pid = some p → p.active = true →
      monStep s (.fork pid child) = some s' → ¬ Monitored s') ∧
    ∀ (foreground : Bool) (ppid : ℤ) (p c g : ℕ) (q : MonProc),
      run monStep (.alone p) (mainActs foreground ppid p c g) = some s →
      s.procs (loopPid foreground ppid p g) = some q →
      (((q.active = true → q.threads ≠ []) ∧
          ∀ t, (monitorStopContinuous q).2 = some t → t ∈ q.threads) ↔
        foreground = true ∨ ppid = 1) := by
  refine ⟨fun h => (sound_of_reach h).monitored,
    fun s' pid child p hp hact hstep => not_monitored_of_fork hp hact hstep, ?_⟩
  intro foreground ppid p c g q hrun hq
  rw [main_loop hrun, Option.some.injEq] at hq
  subst hq
  by_cases hstay : staysPut foreground ppid
  · simp only [hstay, if_true]
    exact ⟨fun _ => hstay, fun _ => by decide⟩
  · simp only [hstay, if_false]
    exact ⟨fun hmon => absurd rfl (hmon.1 trivial), fun h => absurd h hstay⟩

/-- A process forks before it monitors, and stops again; its child goes on. -/
def forkFirst : List MonAct := [.fork 7 8, .start 8 .thread, .start 7 .thread, .stop 7]

/-- Both processes of `forkFirst` are in order, and so is the process in the loop of `main` in the
foreground; in the background the one in the loop is process 9, which has no thread. -/
theorem monitoring_is_running_forked :
    (∃ s, (s.joins, s.procs 7, s.procs 8)
        = ([⟨7, 2, true⟩], some ⟨false, 0, []⟩, some ⟨true, 1, [1]⟩) ∧ Monitored s) ∧
      (∃ s q, run monStep (.alone 7) (mainActs true 500 7 8 9) = some s ∧ s.procs 7 = some q ∧
        q.active = true ∧ q.threads ≠ []) ∧
      ∃ s q, run monStep (.alone 7) (mainActs false 500 7 8 9) = some s ∧ s.procs 9 = some q ∧
        ¬ ((q.active = true → q.threads ≠ []) ∧
          ∀ t, (monitorStopContinuous q).2 = some t → t ∈ q.threads) := by
  refine ⟨?_, ?_, ?_⟩
  · have hrun : (run monStep (.alone 7) forkFirst).map (fun s => (s.joins, s.procs 7, s.procs 8))
        = some ([⟨7, 2, true⟩], some ⟨false, 0, []⟩, some ⟨true, 1, [1]⟩) := by decide
    obtain ⟨s, hs, hvalues⟩ := Option.map_eq_some_iff.mp hrun
    have hidle : KeepsThread (.alone 7) (.fork 7 8) := by
      intro p hp
      obtain rfl := Option.some.inj hp
      rfl
    have hallowed : AllowedRun monStep KeepsThread (.alone 7) forkFirst :=
      ⟨hidle, trivial, trivial, trivial, trivial⟩
    have hreach : Reach MonInit monStep KeepsThread s :=
      (Reach.start ⟨7, rfl⟩).of_run hallowed hs
    exact ⟨s, hvalues, (monitoring_is_running s).1 hreach⟩
  · have hrun : (run monStep (.alone 7) (mainActs true 500 7 8 9)).map (fun s => s.procs 7)
        = some (some ⟨true, 1, [1]⟩) := by decide
    obtain ⟨s, hs, hproc⟩ := Option.map_eq_some_iff.mp hrun
    have hloop := ((monitoring_is_running s).2.2 true 500 7 8 9 _ hs hproc).mpr (.inl rfl)
    exact ⟨s, _, hs, hproc, rfl, hloop.1 rfl⟩
  · have hrun : (run monStep (.alone 7) (mainActs false 500 7 8 9)).map (fun s => s.procs 9)
        = some (some ⟨true, 1, []⟩) := by decide
    obtain ⟨s, hs, hproc⟩ := Option.map_eq_some_iff.mp hrun
    have hloop := (monitoring_is_running s).2.2 false 500 7 8 9 _ hs hproc
    exact ⟨s, _, hs, hproc, hloop.not.mpr (by decide)⟩

/-- The daemon in the background: process 9 executes the loop, reports monitoring and has no
thread. -/
theorem daemon_not_monitoring :
    ¬ ∀ s, Reach MonInit monStep anyStep s → Monitored s := by
  intro hclaim
  have hrun : (run monStep (.alone 7) (mainActs false 500 7 8 9)).map (fun s => s.procs 9)
      = some (some ⟨true, 1, []⟩) := by decide
  obtain ⟨s, hs, hproc⟩ := Option.map_eq_some_iff.mp hrun
  exact (hclaim s ((Reach.start ⟨7, rfl⟩).of_run_any hs)).1 9 _ hproc rfl rfl

end Storage

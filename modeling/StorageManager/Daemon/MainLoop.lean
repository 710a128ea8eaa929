import StorageManager.Daemon.RunningChildren
import Mathlib.Data.List.Count

/-!
# The workers of the main loop

`main` calls `daemon_monitor_workers` once a second and spawns a worker, every thirty seconds, only
when fewer than three are active.  The count it goes by is not exact: zombies count as active, and
so does the daemon's own group when the handler has emptied the slot under the probe.  It may be too
high, but never too low, because each running child is passed and found (`Counted`).  Hence
`workers_bounded`: three workers at a time, one in any thirty iterations, ten in all.

* `Kernel.running`, `Kernel.runningBelow` — how many children are running.
* `Counted` — behind slot `n`, the running children below `n` are in the count.
* `MainLoop`, `mainLoopStep` — the loop around the machine of `Daemon/WorkerSteps.lean`.
* `MainLoop.decided` — how many of the iterations that may spawn are decided.  Each of them starts
  one worker at most (`births_step`).
-/

namespace Storage

open CString Machine

/-! ## Children that are running -/

/-- The children that have not exited. -/
def Kernel.running (k : Kernel) : ℕ := k.children.countP fun c => c.exit.isNone

/-- Those of them that were forked before the child `n`. -/
def Kernel.runningBelow (k : Kernel) (n : ℕ) : ℕ :=
  k.children.countP fun c => c.exit.isNone && decide (c.birth < n)

lemma Kernel.running_eq_runningBelow {k : Kernel} {n : ℕ}
    (h : ∀ c ∈ k.children, c.exit = none → c.birth < n) : k.running = k.runningBelow n := by
  refine List.countP_congr fun c hc => ?_
  constructor
  · intro hrun
    simpa [hrun] using h c hc (by simpa using hrun)
  · intro hrun
    exact (Bool.and_eq_true_iff.mp hrun).1

@[simp] lemma Kernel.runningBelow_zero (k : Kernel) : k.runningBelow 0 = 0 := by
  simp [Kernel.runningBelow]

lemma Kernel.countP_exit_le {k k' : Kernel} {birth : ℕ} {st : WaitStatus}
    (h : k.exit birth st = some k') (p : ℕ → Bool) :
    (k'.children.countP fun c => c.exit.isNone && p c.birth)
      ≤ k.children.countP fun c => c.exit.isNone && p c.birth := by
  rw [(Kernel.exit_some h).2.1, List.countP_map]
  refine List.countP_mono_left fun c _ hc => ?_
  have hrun : (c.mark birth st).exit = none :=
    Option.isNone_iff_eq_none.mp (Bool.and_eq_true_iff.mp hc).1
  rwa [Function.comp_apply, Child.mark_running hrun] at hc

lemma Kernel.runningBelow_exit {k k' : Kernel} {birth : ℕ} {st : WaitStatus}
    (h : k.exit birth st = some k') (n : ℕ) : k'.runningBelow n ≤ k.runningBelow n :=
  Kernel.countP_exit_le h fun b => decide (b < n)

lemma Kernel.running_exit {k k' : Kernel} {birth : ℕ} {st : WaitStatus}
    (h : k.exit birth st = some k') : k'.running ≤ k.running := by
  simpa [Kernel.running] using Kernel.countP_exit_le h fun _ => true

lemma Kernel.runningBelow_reap (k : Kernel) (n : ℕ) : k.reap.runningBelow n ≤ k.runningBelow n :=
  List.filter_sublist.countP_le

lemma Kernel.running_reap (k : Kernel) : k.reap.running ≤ k.running :=
  List.filter_sublist.countP_le

@[simp] lemma Kernel.running_fork (k : Kernel) (pid : ℤ) :
    (k.fork pid).running = k.running + 1 := by
  simp [Kernel.running, Kernel.fork]

/-- Going past one number adds at most one child. -/
lemma Kernel.Ok.runningBelow_succ {k : Kernel} (h : k.Ok) (n : ℕ) :
    k.runningBelow (n + 1) ≤ k.runningBelow n + 1 := by
  have hone : (k.children.filter fun c => c.birth == n).length ≤ 1 := by
    have := List.nodup_iff_count_le_one.mp h.births_nodup n
    rwa [List.count_eq_countP, List.countP_map, List.countP_eq_length_filter] at this
  rw [Kernel.runningBelow, List.countP_eq_countP_filter_add _ _ fun c => c.birth == n, Nat.add_comm]
  refine Nat.add_le_add ?_ (List.countP_le_length.trans hone)
  rw [List.countP_filter]
  refine List.countP_mono_left fun c _ hc => ?_
  simp only [Bool.and_eq_true, decide_eq_true_eq] at hc ⊢
  have hne : c.birth ≠ n := by simpa using hc.2
  exact ⟨hc.1.1, by omega⟩

/-- And none when that child is not running. -/
lemma Kernel.runningBelow_succ_of_gone {k : Kernel} {n : ℕ}
    (h : ∀ c ∈ k.children, c.exit = none → c.birth ≠ n) :
    k.runningBelow (n + 1) ≤ k.runningBelow n := by
  refine List.countP_mono_left fun c hc hrun => ?_
  simp only [Bool.and_eq_true, decide_eq_true_eq, Option.isNone_iff_eq_none] at hrun ⊢
  have := h c hc hrun.1
  exact ⟨hrun.1, by omega⟩

/-! ## What `daemon_monitor_workers` counts -/

/-- The slots the loop of `daemon_monitor_workers` has behind it. -/
def Pc.passed : Pc → Option ℕ
  | .test .monitor i | .arg .monitor i | .kill .monitor i _ => some i
  | .failStatus i | .failPid i | .copy i => some (i + 1)
  | _ => none

/-- The running children of the slots behind the loop have all been counted. -/
def Counted (s : Daemon) : Prop :=
  ∀ n, s.pc.passed = some n → s.kernel.runningBelow n ≤ s.active

/-- Nothing but the main thread raises the number of running children. -/
lemma Counted.of_le {s s' : Daemon} (h : Counted s) (hpc : s'.pc = s.pc)
    (hactive : s'.active = s.active)
    (hle : ∀ n, s'.kernel.runningBelow n ≤ s.kernel.runningBelow n) : Counted s' := by
  intro n hn
  rw [hactive]
  exact (hle n).trans (h n (hpc ▸ hn))

lemma counted_of_passed {s : Daemon} {n : ℕ} (hpassed : s.pc.passed = some n)
    (hle : s.kernel.runningBelow n ≤ s.active) : Counted s := by
  intro m hm
  rwa [← Option.some.inj (hpassed.symm.trans hm)]

lemma counted_of_outside {s : Daemon} (hpassed : s.pc.passed = none) : Counted s := by
  intro m hm
  rw [hpassed] at hm
  exact absurd hm (by simp)

/-- A step of the loop: it goes on with the count in order, or it is over and every running child
has been counted. -/
lemma Counted.monitor {s s' : Daemon} {r : SysResult} (h : Counted s) (ht : Tracked s) {n : ℕ}
    (hpassed : s.pc.passed = some n) (hs : mainStep s r = some s') :
    Counted s' ∧ (s'.pc = .ready → s'.kernel.running ≤ s'.active) := by
  have hle := h n hpassed
  cases hcase : s.pc with
  | test site i =>
      cases site with
      | monitor =>
          obtain rfl : i = n := by simpa [hcase, Pc.passed] using hpassed
          have hbirths := ht.pc
          rw [hcase] at hbirths
          simp only [mainStep, hcase] at hs
          split_ifs at hs with hloop hpos <;> obtain rfl := Option.some.inj hs
          · exact ⟨counted_of_passed rfl hle, by simp⟩
          · have hgone := ht.gone_of_empty (KillSite.lt_of_inLoop hloop) hpos
            exact ⟨counted_of_passed rfl ((Kernel.runningBelow_succ_of_gone hgone).trans hle),
              by simp⟩
          · refine ⟨counted_of_outside rfl, fun _ => ?_⟩
            -- the bound of the loop is `worker_count`: the table never outgrows the array
            have hend : s.table.workerCount ≤ i := by
              have hcap := ht.capacity
              simp only [KillSite.inLoop, Bool.and_eq_true, decide_eq_true_eq] at hloop
              omega
            rw [Kernel.running_eq_runningBelow fun c hc _ => ?_]
            · exact hle
            · have := ht.kernel.births_lt c hc
              simp only [TrackPc] at hbirths
              omega
      | _ => simp [hcase, Pc.passed] at hpassed
  | arg site i =>
      cases site with
      | monitor =>
          obtain rfl : i = n := by simpa [hcase, Pc.passed] using hpassed
          simp only [mainStep, hcase, Option.some.injEq] at hs
          subst hs
          exact ⟨counted_of_passed rfl hle, by simp⟩
      | _ => simp [hcase, Pc.passed] at hpassed
  | kill site i p =>
      cases site with
      | monitor =>
          obtain rfl : i = n := by simpa [hcase, Pc.passed] using hpassed
          simp only [mainStep, hcase, Option.some.injEq] at hs
          subst hs
          cases hk : s.kernel.kill p r.kill with
          | ok =>
              refine ⟨counted_of_passed rfl ?_, by simp [KillSite.afterKill]⟩
              have := ht.kernel.runningBelow_succ i
              simp only [and_self, if_true]
              omega
          | esrch | other =>
              have hgone := ht.gone_of_kill hcase (r := r.kill) (by simp [hk])
              refine ⟨counted_of_passed rfl ?_, by simp [KillSite.afterKill]⟩
              simpa using (Kernel.runningBelow_succ_of_gone hgone).trans hle
      | _ => simp [hcase, Pc.passed] at hpassed
  | failStatus i | failPid i | copy i =>
      obtain rfl : i + 1 = n := by simpa [hcase, Pc.passed] using hpassed
      simp only [mainStep, hcase, Option.some.injEq] at hs
      subst hs
      exact ⟨counted_of_passed rfl hle, by simp⟩
  | _ => simp [hcase, Pc.passed] at hpassed

/-- Outside `daemon_monitor_workers` the main thread does not get into the middle of it. -/
lemma mainStep_outside {s s' : Daemon} {r : SysResult} (hpassed : s.pc.passed = none)
    (hs : mainStep s r = some s') : s'.pc.passed = none := by
  cases hcase : s.pc with
  | ready | stopped => simp [mainStep, hcase] at hs
  | fork => rcases mainStep_fork hcase hs with rfl | ⟨pid, -, rfl⟩ <;> rfl
  | spawn w pid birth =>
      cases w <;>
        · simp only [mainStep, hcase, Option.some.injEq] at hs
          subst hs
          rfl
  | test site i =>
      rcases mainStep_test hcase hs with ⟨-, -, rfl⟩ | rfl | rfl <;>
        cases site <;> simp_all [Pc.passed, KillSite.afterLoop]
  | arg site i =>
      simp only [mainStep, hcase, Option.some.injEq] at hs
      subst hs
      cases site <;> simp_all [Pc.passed]
  | kill site i p =>
      simp only [mainStep, hcase, Option.some.injEq] at hs
      subst hs
      cases site <;> cases s.kernel.kill p r.kill <;>
        simp_all [Pc.passed, KillSite.afterKill]
  | failStatus i | failPid i | copy i => simp [hcase, Pc.passed] at hpassed
  | sleep =>
      simp only [mainStep, hcase, Option.some.injEq] at hs
      subst hs
      rfl
  | reap =>
      simp only [mainStep, hcase] at hs
      split_ifs at hs
      rw [← Option.some.inj hs]
      rfl

/-- Inside it, it stays there until it is back in `main`. -/
lemma mainStep_inside {s s' : Daemon} {r : SysResult} {n : ℕ} (hpassed : s.pc.passed = some n)
    (hs : mainStep s r = some s') (hready : s'.pc ≠ .ready) : s'.pc.passed.isSome := by
  cases hcase : s.pc with
  | test site i =>
      cases site with
      | monitor =>
          rcases mainStep_test hcase hs with ⟨-, -, rfl⟩ | rfl | rfl
          · rfl
          · rfl
          · exact absurd rfl hready
      | _ => simp [hcase, Pc.passed] at hpassed
  | arg site i =>
      simp only [mainStep, hcase, Option.some.injEq] at hs
      subst hs
      cases site <;> simp_all [Pc.passed]
  | kill site i p =>
      simp only [mainStep, hcase, Option.some.injEq] at hs
      subst hs
      cases site <;> cases s.kernel.kill p r.kill <;>
        simp_all [Pc.passed, KillSite.afterKill]
  | failStatus i | failPid i | copy i =>
      simp only [mainStep, hcase, Option.some.injEq] at hs
      subst hs
      rfl
  | _ => simp [hcase, Pc.passed] at hpassed

lemma Counted.main {s s' : Daemon} {r : SysResult} (h : Counted s) (ht : Tracked s)
    (hs : mainStep s r = some s') : Counted s' := by
  cases hpassed : s.pc.passed with
  | none => exact counted_of_outside (mainStep_outside hpassed hs)
  | some n => exact (h.monitor ht hpassed hs).1

/-- Only `fork` adds a running child. -/
lemma mainStep_running {s s' : Daemon} {r : SysResult} (hs : mainStep s r = some s') :
    (s'.kernel.running ≤ s.kernel.running ∧ s'.kernel.births = s.kernel.births) ∨
      (s.pc = .fork ∧ s'.kernel.running = s.kernel.running + 1 ∧
        s'.kernel.births = s.kernel.births + 1) := by
  cases hcase : s.pc with
  | ready | stopped => simp [mainStep, hcase] at hs
  | fork =>
      rcases mainStep_fork hcase hs with rfl | ⟨pid, -, rfl⟩
      · exact Or.inl ⟨le_rfl, rfl⟩
      · exact Or.inr ⟨rfl, Kernel.running_fork _ _, rfl⟩
  | spawn w pid birth =>
      cases w <;>
        · simp only [mainStep, hcase, Option.some.injEq] at hs
          subst hs
          exact Or.inl ⟨le_rfl, rfl⟩
  | test site i =>
      rcases mainStep_test hcase hs with ⟨-, -, rfl⟩ | rfl | rfl <;> exact Or.inl ⟨le_rfl, rfl⟩
  | reap =>
      simp only [mainStep, hcase] at hs
      split_ifs at hs
      rw [← Option.some.inj hs]
      exact Or.inl ⟨s.kernel.running_reap, rfl⟩
  | _ =>
      simp only [mainStep, hcase, Option.some.injEq] at hs
      subst hs
      exact Or.inl ⟨le_rfl, rfl⟩

/-- `fork` is entered by a call, never by a step. -/
lemma mainStep_ne_fork {s s' : Daemon} {r : SysResult} (hs : mainStep s r = some s') :
    s'.pc ≠ .fork := by
  cases hcase : s.pc with
  | ready | stopped => simp [mainStep, hcase] at hs
  | fork => rcases mainStep_fork hcase hs with rfl | ⟨pid, -, rfl⟩ <;> simp
  | spawn w pid birth =>
      cases w <;>
        · simp only [mainStep, hcase, Option.some.injEq] at hs
          subst hs
          simp [SpawnWrite.next]
  | test site i =>
      rcases mainStep_test hcase hs with ⟨-, -, rfl⟩ | rfl | rfl <;>
        cases site <;> simp [KillSite.afterLoop]
  | kill site i p =>
      simp only [mainStep, hcase, Option.some.injEq] at hs
      subst hs
      cases site <;> cases s.kernel.kill p r.kill <;> simp [KillSite.afterKill]
  | reap =>
      simp only [mainStep, hcase] at hs
      split_ifs at hs
      rw [← Option.some.inj hs]
      simp
  | _ =>
      simp only [mainStep, hcase, Option.some.injEq] at hs
      subst hs
      simp

/-! ## The loop of `main` -/

/-- Where `main` stands: at the test of `daemon_running`, in `daemon_monitor_workers` or behind it,
in the rest of the iteration, or in `daemon_shutdown`. -/
inductive Stage
  | top
  | monitor
  | rest
  | shutdown
  deriving DecidableEq, Repr

/-- The daemon with the counter of the main loop and the place in it. -/
structure MainLoop where
  daemon : Daemon
  loopCount : ℕ
  stage : Stage

/-- `iterate` and `leave` are the two outcomes of the test of `daemon_running`; `task` says whether
`malloc` gave the memory for `task_id`. -/
inductive MainAct
  | iterate (workerList : ℕ → Worker)
  | leave
  | decide (task : Bool)
  | call (r : SysResult)
  | sleep
  | exit (birth : ℕ) (st : WaitStatus)
  | sigchld (batch : List (ℤ × WaitStatus))

/-- The next part of `main` from the start of its loop on, a child that exits, or the handler. -/
def mainLoopStep (s : MainLoop) : MainAct → Option MainLoop
  | .iterate workerList =>
      if s.stage = .top then
        (daemonStep s.daemon (.callMonitor workerList maxWorkers)).map fun d =>
          { s with daemon := d, stage := .monitor }
      else none
  | .leave =>
      if s.stage = .top then
        (daemonStep s.daemon .callShutdown).map fun d => { s with daemon := d, stage := .shutdown }
      else none
  | .decide task =>
      if s.stage = .monitor ∧ s.daemon.pc = .ready then
        if s.loopCount % 30 = 0 ∧ s.daemon.active < 3 ∧ task then
          (daemonStep s.daemon .callSpawn).map fun d => { s with daemon := d, stage := .rest }
        else some { s with stage := .rest }
      else none
  | .call r => (daemonStep s.daemon (.main r)).map fun d => { s with daemon := d }
  | .sleep =>
      if s.stage = .rest ∧ s.daemon.pc = .ready then
        some { s with loopCount := s.loopCount + 1, stage := .top }
      else none
  | .exit birth st => (daemonStep s.daemon (.exit birth st)).map fun d => { s with daemon := d }
  | .sigchld batch => (daemonStep s.daemon (.sigchld batch)).map fun d => { s with daemon := d }

/-- The daemon has started and the loop has not. -/
def mainLoopInit (s : MainLoop) : Prop :=
  daemonInitial s.daemon ∧ s.loopCount = 0 ∧ s.stage = .top

/-- The bounds, and what `main` knows at each of its places. -/
structure LoopOk (s : MainLoop) : Prop where
  tracked : Tracked s.daemon
  counted : Counted s.daemon
  three : s.daemon.kernel.running ≤ 3
  births : s.daemon.kernel.births ≤ s.loopCount / 30 + 1
  early : s.stage = .top ∨ s.stage = .monitor →
    s.daemon.kernel.births ≤ (s.loopCount + 29) / 30 ∧ s.daemon.pc ≠ .fork
  monitored : s.stage = .monitor →
    (s.daemon.pc = .ready ∧ s.daemon.kernel.running ≤ s.daemon.active) ∨
      s.daemon.pc.passed.isSome
  room : s.daemon.pc = .fork →
    s.daemon.kernel.running < 3 ∧ s.daemon.kernel.births ≤ s.loopCount / 30 ∧
      s.loopCount % 30 = 0

lemma loopOk_init {s : MainLoop} (h : mainLoopInit s) : LoopOk s := by
  obtain ⟨hd, hcount, hstage⟩ := h
  have hzero : s.daemon.kernel.running = 0 ∧ s.daemon.kernel.births = 0 := by
    rw [hd.2.1]
    exact ⟨rfl, rfl⟩
  have hready := hd.2.2
  exact ⟨tracked_init hd, counted_of_outside (by rw [hready]; rfl), by omega, by omega,
    fun _ => ⟨by omega, by simp [hready]⟩, by simp [hstage], by simp [hready]⟩

/-- A child that exits and a handler run take nothing away from the loop. -/
lemma LoopOk.fewer {s : MainLoop} {d : Daemon} (h : LoopOk s) (ht : Tracked d)
    (hpc : d.pc = s.daemon.pc) (hactive : d.active = s.daemon.active)
    (hbirths : d.kernel.births = s.daemon.kernel.births)
    (hrun : d.kernel.running ≤ s.daemon.kernel.running)
    (hbelow : ∀ n, d.kernel.runningBelow n ≤ s.daemon.kernel.runningBelow n) :
    LoopOk { s with daemon := d } where
  tracked := ht
  counted := h.counted.of_le hpc hactive hbelow
  three := hrun.trans h.three
  births := by simpa only [hbirths] using h.births
  early := by simpa only [hbirths, hpc] using h.early
  monitored := by
    intro hstage
    simp only [hpc, hactive]
    exact (h.monitored hstage).imp_left fun ⟨hready, hle⟩ => ⟨hready, hrun.trans hle⟩
  room := by
    intro hfork
    obtain ⟨hlt, hb, hcount⟩ := h.room (hpc ▸ hfork)
    exact ⟨Nat.lt_of_le_of_lt hrun hlt, by simpa only [hbirths] using hb, hcount⟩

lemma LoopOk.call {s : MainLoop} {d : Daemon} {r : SysResult} (h : LoopOk s)
    (hs : mainStep s.daemon r = some d) : LoopOk { s with daemon := d } := by
  have hne := mainStep_ne_fork hs
  have hcounted := h.counted.main h.tracked hs
  rcases mainStep_running hs with ⟨hrun, hbirths⟩ | ⟨hfork, hrun, hbirths⟩
  · refine ⟨h.tracked.main hs, hcounted, hrun.trans h.three, by simpa only [hbirths] using h.births,
      fun hstage => ⟨by simpa only [hbirths] using (h.early hstage).1, hne⟩, fun hstage => ?_,
      fun hfork => absurd hfork hne⟩
    rcases h.monitored hstage with ⟨hready, -⟩ | hpassed
    · simp [mainStep, hready] at hs
    · obtain ⟨n, hn⟩ := Option.isSome_iff_exists.mp hpassed
      by_cases hready : d.pc = .ready
      · exact Or.inl ⟨hready, (h.counted.monitor h.tracked hn hs).2 hready⟩
      · exact Or.inr (mainStep_inside hn hs hready)
  · obtain ⟨hlt, hb, -⟩ := h.room hfork
    have hrest : ¬ (s.stage = .top ∨ s.stage = .monitor) := fun hstage =>
      (h.early hstage).2 hfork
    refine ⟨h.tracked.main hs, hcounted, by simp only [hrun]; omega, by simp only [hbirths]; omega,
      fun hstage => absurd hstage hrest, fun hstage => absurd (Or.inr hstage) hrest,
      fun hfork => absurd hfork hne⟩

lemma LoopOk.step {s s' : MainLoop} {a : MainAct} (h : LoopOk s)
    (hs : mainLoopStep s a = some s') : LoopOk s' := by
  cases a with
  | iterate workerList =>
      simp only [mainLoopStep] at hs
      split_ifs at hs with hstage
      obtain ⟨d, hd, rfl⟩ := Option.map_eq_some_iff.mp hs
      have ht := h.tracked.step hd
      simp only [daemonStep] at hd
      split_ifs at hd
      obtain rfl := Option.some.inj hd
      refine ⟨ht, counted_of_passed rfl (by simp), h.three, h.births,
        fun _ => ⟨(h.early (Or.inl hstage)).1, by simp⟩, fun _ => Or.inr rfl, by simp⟩
  | leave =>
      simp only [mainLoopStep] at hs
      split_ifs at hs with hstage
      obtain ⟨d, hd, rfl⟩ := Option.map_eq_some_iff.mp hs
      have ht := h.tracked.step hd
      simp only [daemonStep] at hd
      split_ifs at hd
      obtain rfl := Option.some.inj hd
      exact ⟨ht, counted_of_outside rfl, h.three, h.births, by simp, by simp, by simp⟩
  | decide task =>
      simp only [mainLoopStep] at hs
      split_ifs at hs with hstage hspawn
      · obtain ⟨d, hd, rfl⟩ := Option.map_eq_some_iff.mp hs
        have ht := h.tracked.step hd
        simp only [daemonStep, hstage.2, if_true, Option.some.injEq] at hd
        have hearly := (h.early (Or.inr hstage.1)).1
        have hle : s.daemon.kernel.running ≤ s.daemon.active := by
          rcases h.monitored hstage.1 with ⟨-, hle⟩ | hpassed
          · exact hle
          · simp [hstage.2, Pc.passed] at hpassed
        split_ifs at hd with hfull
        · subst hd
          exact ⟨ht, h.counted, h.three, h.births, by simp, by simp, by simp [hstage.2]⟩
        · subst hd
          exact ⟨ht, counted_of_outside rfl, h.three, h.births, by simp, by simp,
            fun _ => ⟨by simp only; omega, by simp only; omega, hspawn.1⟩⟩
      · obtain rfl := Option.some.inj hs
        exact ⟨h.tracked, h.counted, h.three, h.births, by simp, by simp, by simp [hstage.2]⟩
  | call r =>
      obtain ⟨d, hd, rfl⟩ := Option.map_eq_some_iff.mp hs
      exact h.call hd
  | sleep =>
      simp only [mainLoopStep] at hs
      split_ifs at hs with hstage
      obtain rfl := Option.some.inj hs
      have hbirths := h.births
      refine ⟨h.tracked, h.counted, h.three, by simp only; omega,
        fun _ => ⟨by simp only; omega, by simp [hstage.2]⟩, by simp, by simp [hstage.2]⟩
  | exit birth st =>
      obtain ⟨d, hd, rfl⟩ := Option.map_eq_some_iff.mp hs
      have ht := h.tracked.step hd
      obtain ⟨k, hk, rfl⟩ := Option.map_eq_some_iff.mp hd
      exact h.fewer ht rfl rfl (Kernel.exit_some hk).2.2.1 (Kernel.running_exit hk)
        (Kernel.runningBelow_exit hk)
  | sigchld batch =>
      obtain ⟨d, hd, rfl⟩ := Option.map_eq_some_iff.mp hs
      have ht := h.tracked.step hd
      simp only [daemonStep] at hd
      split_ifs at hd
      obtain rfl := Option.some.inj hd
      exact h.fewer ht rfl rfl rfl (Kernel.running_reap _) (Kernel.runningBelow_reap _)

lemma loopOk_of_reach {s : MainLoop} (h : Reach mainLoopInit mainLoopStep anyStep s) : LoopOk s :=
  h.invariant (fun _ => loopOk_init) fun _ _ _ hI _ hs => hI.step hs

/-! ## Any thirty iterations -/

/-- How many of the iterations that may spawn a worker, every thirtieth, have done so or not.  The
present one is still open while it is before its test or in front of `fork`. -/
def MainLoop.decided (s : MainLoop) : ℕ :=
  if s.stage = .top ∨ s.stage = .monitor ∨ s.daemon.pc = .fork then (s.loopCount + 29) / 30
  else s.loopCount / 30 + 1

lemma MainLoop.decided_bounds (s : MainLoop) :
    (s.loopCount + 29) / 30 ≤ s.decided ∧ s.decided ≤ s.loopCount / 30 + 1 := by
  unfold MainLoop.decided
  split_ifs <;> omega

/-- While the present iteration is open, a step that starts nothing takes nothing back. -/
lemma MainLoop.births_of_open {s t : MainLoop} (hstage : s.stage = .top ∨ s.stage = .monitor)
    (hcount : t.loopCount = s.loopCount)
    (hbirths : t.daemon.kernel.births = s.daemon.kernel.births) :
    t.daemon.kernel.births + s.decided ≤ s.daemon.kernel.births + t.decided := by
  have hopen : s.decided = (s.loopCount + 29) / 30 := if_pos (hstage.imp_right .inl)
  have hle := t.decided_bounds.1
  rw [hcount] at hle
  rw [hopen, hbirths]
  exact Nat.add_le_add_left hle _

/-- Only a step of the main thread starts a worker. -/
lemma daemonStep_births {d d' : Daemon} {a : DaemonAct} (ha : ∀ r, a ≠ .main r)
    (hs : daemonStep d a = some d') : d'.kernel.births = d.kernel.births := by
  rcases daemonStep_cases hs with hentered | ⟨r, rfl, -⟩ | ⟨birth, st, k, hk, rfl⟩ |
    ⟨batch, -, -, rfl⟩
  · rw [hentered.kernel]
  · exact absurd rfl (ha r)
  · exact (Kernel.exit_some hk).2.2.1
  · rfl

/-- A step in one of the functions: `fork` decides the iteration that was open until then. -/
lemma LoopOk.births_call {s : MainLoop} {d : Daemon} {r : SysResult} (h : LoopOk s)
    (hs : mainStep s.daemon r = some d) :
    d.kernel.births + s.decided ≤
      s.daemon.kernel.births + MainLoop.decided { s with daemon := d } := by
  have hne : d.pc ≠ .fork := mainStep_ne_fork hs
  rcases mainStep_running hs with ⟨-, hbirths⟩ | ⟨hfork, -, hbirths⟩
  · by_cases hstage : s.stage = .top ∨ s.stage = .monitor
    · exact MainLoop.births_of_open (t := { s with daemon := d }) hstage rfl hbirths
    · have hclosed : MainLoop.decided { s with daemon := d } = s.loopCount / 30 + 1 :=
        if_neg fun hcase => hstage (hcase.imp_right fun h => h.resolve_right hne)
      rw [hbirths, hclosed]
      exact Nat.add_le_add_left s.decided_bounds.2 _
  · have hrest : ¬ (s.stage = .top ∨ s.stage = .monitor) := fun hstage =>
      (h.early hstage).2 hfork
    have hcount := (h.room hfork).2.2
    simp only [MainLoop.decided, hbirths, hne, hfork, or_false, or_true, if_true, hrest, if_false]
    omega

/-- Each start decides one of them. -/
lemma LoopOk.births_step {s s' : MainLoop} {a : MainAct} (h : LoopOk s)
    (hs : mainLoopStep s a = some s') :
    s'.daemon.kernel.births + s.decided ≤ s.daemon.kernel.births + s'.decided := by
  cases a with
  | iterate workerList =>
      simp only [mainLoopStep] at hs
      split_ifs at hs with hstage
      obtain ⟨d, hd, rfl⟩ := Option.map_eq_some_iff.mp hs
      exact MainLoop.births_of_open (.inl hstage) rfl (daemonStep_births (by simp) hd)
  | leave =>
      simp only [mainLoopStep] at hs
      split_ifs at hs with hstage
      obtain ⟨d, hd, rfl⟩ := Option.map_eq_some_iff.mp hs
      exact MainLoop.births_of_open (.inl hstage) rfl (daemonStep_births (by simp) hd)
  | decide task =>
      simp only [mainLoopStep] at hs
      split_ifs at hs with hstage hspawn
      · obtain ⟨d, hd, rfl⟩ := Option.map_eq_some_iff.mp hs
        exact MainLoop.births_of_open (.inr hstage.1) rfl (daemonStep_births (by simp) hd)
      · obtain rfl := Option.some.inj hs
        exact MainLoop.births_of_open (.inr hstage.1) rfl rfl
  | call r =>
      obtain ⟨d, hd, rfl⟩ := Option.map_eq_some_iff.mp hs
      exact h.births_call hd
  | sleep =>
      simp only [mainLoopStep] at hs
      split_ifs at hs with hstage
      obtain rfl := Option.some.inj hs
      have hle := MainLoop.decided_bounds { s with loopCount := s.loopCount + 1, stage := .top }
      have hbound := s.decided_bounds.2
      simp only at hle ⊢
      omega
  | exit birth st =>
      obtain ⟨d, hd, rfl⟩ := Option.map_eq_some_iff.mp hs
      obtain ⟨k, hk, rfl⟩ := Option.map_eq_some_iff.mp hd
      exact Nat.add_le_add_right (Kernel.exit_some hk).2.2.1.le _
  | sigchld batch =>
      obtain ⟨d, hd, rfl⟩ := Option.map_eq_some_iff.mp hs
      simp only [daemonStep] at hd
      split_ifs at hd
      obtain rfl := Option.some.inj hd
      exact le_rfl

/-- The same over a part of a run. -/
lemma LoopOk.births_run {s s' : MainLoop} {acts : List MainAct} (h : LoopOk s)
    (hs : run mainLoopStep s acts = some s') :
    s'.daemon.kernel.births + s.decided ≤ s.daemon.kernel.births + s'.decided := by
  induction acts generalizing s with
  | nil =>
      obtain rfl := Option.some.inj hs
      exact le_rfl
  | cons a acts ih =>
      rw [run_cons, Option.bind_eq_some_iff] at hs
      obtain ⟨s₁, hstep, hrest⟩ := hs
      have hfirst := h.births_step hstep
      have hlater := ih (h.step hstep) hrest
      omega

/-- **The main loop keeps its workers within bounds**, wherever SIGCHLD interrupts it: at most three
are running at any time, at most one is started in any thirty iterations, so that the number of
starts is at most one more than a thirtieth of the iterations, and at most `MAX_WORKERS` are started
in the life of the daemon. -/
theorem workers_bounded {s : MainLoop} (h : Reach mainLoopInit mainLoopStep anyStep s) :
    s.daemon.kernel.running ≤ 3 ∧ s.daemon.kernel.births ≤ s.loopCount / 30 + 1 ∧
      s.daemon.kernel.births ≤ maxWorkers ∧
      ∀ acts s', run mainLoopStep s acts = some s' → s'.loopCount < s.loopCount + 30 →
        s'.daemon.kernel.births ≤ s.daemon.kernel.births + 1 := by
  have hok := loopOk_of_reach h
  refine ⟨hok.three, hok.births, ?_, fun acts s' hs hwindow => ?_⟩
  · have hpc := hok.tracked.pc
    have hcap := hok.tracked.capacity
    cases hcase : s.daemon.pc <;> rw [hcase] at hpc <;> simp only [TrackPc] at hpc <;> omega
  · have hbirths := hok.births_run hs
    have hbefore := s.decided_bounds.1
    have hafter := s'.decided_bounds.2
    omega

/-- A concrete state before the loop. -/
def mainLoopBoot : MainLoop := ⟨daemonBoot, 0, .top⟩

/-- The first iteration: no worker is there, one is spawned. -/
def firstIteration : List MainAct :=
  [.iterate fun _ => .zero, .call {}, .decide true, .call { fork := some 101 }, .call {}, .call {},
    .call {}, .call {}, .call {}, .sleep]

/-- One iteration with the worker still there, up to the decision. -/
def watchOne : List MainAct :=
  [.iterate fun _ => .zero, .call {}, .call {}, .call {}, .call {}, .call {}, .decide true]

/-- The next thirty iterations: the second worker is started in the last of them. -/
def nextThirty : List MainAct :=
  (List.replicate 29 (watchOne ++ [.sleep])).flatten ++
    (watchOne ++ [.call { fork := some 102 }, .call {}])

/-- One worker after the first iteration, a second one thirty iterations later. -/
theorem workers_bounded_first :
    ∃ s s', s.loopCount = 1 ∧ s.daemon.kernel.births = 1 ∧ s.daemon.kernel.running ≤ 3 ∧
      run mainLoopStep s nextThirty = some s' ∧ s'.loopCount = 30 ∧ s'.daemon.kernel.births = 2 ∧
      s'.daemon.kernel.births ≤ s.daemon.kernel.births + 1 := by
  have hrun : (run mainLoopStep mainLoopBoot firstIteration).map
      (fun s => (s.loopCount, s.daemon.kernel.births,
        (run mainLoopStep s nextThirty).map fun s' => (s'.loopCount, s'.daemon.kernel.births)))
      = some (1, 1, some (30, 2)) := by
    decide +kernel
  obtain ⟨s, hs, heq⟩ := Option.map_eq_some_iff.mp hrun
  simp only [Prod.mk.injEq] at heq
  obtain ⟨s', hs', hvalues⟩ := Option.map_eq_some_iff.mp heq.2.2
  obtain ⟨hcount, hbirths⟩ := Prod.mk.inj hvalues
  have hreach : Reach mainLoopInit mainLoopStep anyStep s :=
    (Reach.start ⟨⟨rfl, rfl, rfl⟩, rfl, rfl⟩).of_run_any hs
  have hbounded := workers_bounded hreach
  exact ⟨s, s', heq.1, heq.2.1, hbounded.1, hs', hcount, hbirths,
    hbounded.2.2.2 _ s' hs' (by rw [hcount, heq.1]; decide)⟩

end Storage

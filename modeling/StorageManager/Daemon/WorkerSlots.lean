import StorageManager.Daemon.WorkerRaces
import Mathlib.Data.List.TakeWhile

/-!
# What a slot of the worker table can look like

`Daemon/WorkerRaces.lean` asks whether the table tells the truth about the children, and the
answer depends on when the handler runs.  This file asks less and gets it in every interleaving:
between operations each slot is either busy with a positive pid, or empty, or was never used.

Nothing about the kernel is needed for that, so the machine here has none: `fork` and `kill`
return anything, and `waitpid` reports any sequence of children, whether they were forked or not.
It is the main thread of `Daemon/WorkerSteps.lean` otherwise, with the same program counters, and
`daemonStep_mainThread` says so: every step of the machine with a kernel is one of its steps.

Reading `worker_count` and `workers[i].pid` in the test of a loop is one step.  The handler does
not write `worker_count`, so a run of it between the two reads is the same as one before both.

* `WorkerEffect` — everything a step can do to the table and the program counter.
* `SlotsOk` — the invariant.  Two program counters relax it: while `daemon_spawn_worker` fills
  the slot at `worker_count`, and between the two writes of `daemon_monitor_workers` that empty a
  slot.
* `worker_slots_settled` — what is left of it between operations.
* `daemon_slots_settled` — the same for the machine with a kernel.
-/

namespace Storage

open CString Machine

/-! ## The main thread without a kernel -/

/-- What the system calls of a step return: `waits` is what successive calls of `waitpid` give. -/
structure AnyResult where
  fork : ℤ := -1
  kill : KillResult := .other
  now : ℤ := 0
  waits : List (ℤ × WaitStatus) := []

/-- The reports the `waitpid` loop takes: those before the first value `≤ 0`. -/
def reported (waits : List (ℤ × WaitStatus)) : List (ℤ × WaitStatus) :=
  waits.takeWhile fun r => decide (0 < r.1)

/-- The table and the locals of the main thread.  Children have no birth numbers here, so a
program counter `spawn` always carries 0. -/
structure MainThread where
  table : WorkerTable
  pc : Pc
  active : ℕ
  workerList : ℕ → Worker
  listCount : ℤ

/-- No worker yet, and the main thread is in none of the functions. -/
def mainThreadInitial (s : MainThread) : Prop := s.table = .empty ∧ s.pc = .ready

/-- A call, the next step of the main thread with whatever the kernel returns, or the handler with
whatever `waitpid` returns. -/
inductive WorkerAct
  | callSpawn
  | callMonitor (workerList : ℕ → Worker) (count : ℤ)
  | callShutdown
  | main (r : AnyResult)
  | sigchld (waits : List (ℤ × WaitStatus))

/-- One step of the main thread. -/
def mainThreadStep (s : MainThread) (r : AnyResult) : Option MainThread :=
  match s.pc with
  | .ready | .stopped => none
  | .fork =>
      if r.fork < 0 then some { s with pc := .ready }
      -- the child runs `worker_func` and exits
      else if r.fork = 0 then some { s with pc := .stopped }
      else some { s with pc := .spawn .pid r.fork 0 }
  | .spawn w pid _ => some { s with table := w.apply s.table pid r.now, pc := w.next pid 0 }
  | .test c i =>
      if c.inLoop s.table i then
        if 0 < (s.table.workers i).pid then some { s with pc := .arg c i }
        else some { s with pc := .test c (i + 1) }
      else some { s with pc := c.afterLoop }
  | .arg c i => some { s with pc := .kill c i (s.table.workers i).pid }
  | .kill c i _ =>
      some { s with
        active := if c = .monitor ∧ r.kill = .ok then s.active + 1 else s.active
        pc := c.afterKill i r.kill }
  | .failStatus i =>
      some { s with
        table := s.table.set i { s.table.workers i with status := .failed }
        pc := .failPid i }
  | .failPid i =>
      some { s with table := s.table.set i { s.table.workers i with pid := 0 }, pc := .copy i }
  | .copy i =>
      some { s with
        workerList := if (i : ℤ) < s.listCount then
          Function.update s.workerList i (s.table.workers i) else s.workerList
        pc := .test .monitor (i + 1) }
  | .sleep => some { s with pc := .test .probe 0 }
  | .reap =>
      some { s with table := daemonReapZombies s.table (reported r.waits), pc := .stopped }

/-- **The machine**: the main thread, and the SIGCHLD handler at every program counter. -/
def workerStep (s : MainThread) : WorkerAct → Option MainThread
  | .callSpawn =>
      if s.pc = .ready then
        some (if maxWorkers ≤ s.table.workerCount then s else { s with pc := .fork })
      else none
  | .callMonitor workerList count =>
      if s.pc = .ready then
        some { s with pc := .test .monitor 0, active := 0, workerList := workerList,
                      listCount := count }
      else none
  | .callShutdown => if s.pc = .ready then some { s with pc := .test .term 0 } else none
  | .main r => mainThreadStep s r
  | .sigchld waits => some { s with table := daemonReapZombies s.table (reported waits) }

/-! ## The invariant -/

/-- Busy with a positive pid, or emptied. -/
def Worker.Settled (w : Worker) : Prop :=
  (w.status = .busy ∧ 0 < w.pid) ∨ (w.status ≠ .busy ∧ w.pid = 0)

lemma reapedStatus_ne_busy (st : WaitStatus) : reapedStatus st ≠ .busy := by
  cases st <;> simp [reapedStatus]

lemma Worker.vacate_settled (w : Worker) (st : WaitStatus) :
    (w.vacate (reapedStatus st)).Settled :=
  Or.inr ⟨reapedStatus_ne_busy st, rfl⟩

/-- The program counters at which the table is in order. -/
def Pc.Quiet : Pc → Prop
  | .spawn .. | .failPid _ => False
  | _ => True

/-- What the main thread knows at its program counter: the capacity test was passed, the slot it
is working on is below `worker_count`, and which of its writes are done. -/
def AtPc (t : WorkerTable) : Pc → Prop
  | .fork => t.workerCount < maxWorkers
  | .spawn w pid _ =>
      t.workerCount < maxWorkers ∧ 0 < pid ∧
        (w ≠ .pid → (t.workers t.workerCount).pid = pid) ∧
        (w ≠ .pid → w ≠ .status → (t.workers t.workerCount).status = .busy)
  | .arg _ i | .kill _ i _ | .failStatus i => i < t.workerCount
  | .failPid i => i < t.workerCount ∧ (t.workers i).status ≠ .busy
  | _ => True

/-- The invariant: slots below the count are settled, those above it are zero, and the one in
between is what the main thread has made of it so far. -/
structure SlotsOk (t : WorkerTable) (pc : Pc) : Prop where
  count_le : t.workerCount ≤ maxWorkers
  below : ∀ i, i < t.workerCount → pc ≠ .failPid i → (t.workers i).Settled
  above : ∀ i, t.workerCount < i → t.workers i = .zero
  next : (∀ w pid birth, pc ≠ .spawn w pid birth) → t.workers t.workerCount = .zero
  here : AtPc t pc

lemma SlotsOk.init : SlotsOk .empty .ready where
  count_le := Nat.zero_le _
  below := fun _ hi => absurd hi (Nat.not_lt_zero _)
  above := fun _ _ => rfl
  next := fun _ => rfl
  here := trivial

/-- From a quiet program counter the main thread may go anywhere it knows enough for. -/
lemma SlotsOk.move {t : WorkerTable} {pc pc' : Pc} (h : SlotsOk t pc) (hq : pc.Quiet)
    (hat : AtPc t pc') : SlotsOk t pc' where
  count_le := h.count_le
  below := fun i hi _ => h.below i hi (by rintro rfl; exact hq)
  above := h.above
  next := fun _ => h.next (by rintro w pid birth rfl; exact hq)
  here := hat

/-! ### The handler -/

/-- Each slot after a run of the handler is unchanged or empty. -/
lemma daemonReapZombies_slot (t : WorkerTable) (batch : List (ℤ × WaitStatus)) (i : ℕ) :
    (daemonReapZombies t batch).workers i = t.workers i ∨
      ∃ st, (daemonReapZombies t batch).workers i = (t.workers i).vacate (reapedStatus st) := by
  induction batch generalizing t with
  | nil => exact Or.inl rfl
  | cons r batch ih =>
      rw [daemonReapZombies_cons]
      -- emptying a slot twice leaves the status of the second time
      rcases reapWorker_slot t r.1 r.2 i with hr | ⟨-, hr⟩ <;>
        rcases ih (reapWorker t r.1 r.2) with hb | ⟨st, hb⟩ <;> rw [hb, hr]
      · exact Or.inl rfl
      · exact Or.inr ⟨st, rfl⟩
      · exact Or.inr ⟨r.2, rfl⟩
      · exact Or.inr ⟨st, rfl⟩

/-- The handler leaves the main thread with all it knows. -/
lemma AtPc.reap {t : WorkerTable} {pc : Pc} (h : AtPc t pc) (batch : List (ℤ × WaitStatus)) :
    AtPc (daemonReapZombies t batch) pc := by
  cases pc with
  | spawn w pid birth =>
      -- the search loop does not reach the slot that is being filled
      have hnew := daemonReapZombies_above (t := t) batch (Nat.le_refl _)
      simpa only [AtPc, daemonReapZombies_workerCount, hnew] using h
  | failPid i =>
      refine ⟨by simpa using h.1, ?_⟩
      rcases daemonReapZombies_slot t batch i with hi | ⟨st, hi⟩ <;> rw [hi]
      · exact h.2
      · exact reapedStatus_ne_busy st
  | fork => simpa [AtPc] using h
  | arg c i => simpa [AtPc] using h
  | kill c i p => simpa [AtPc] using h
  | failStatus i => simpa [AtPc] using h
  | _ => trivial

/-- **The handler keeps the invariant**, whatever `waitpid` reports and wherever the main thread
stands. -/
lemma SlotsOk.reap {t : WorkerTable} {pc : Pc} (h : SlotsOk t pc)
    (batch : List (ℤ × WaitStatus)) : SlotsOk (daemonReapZombies t batch) pc where
  count_le := by simpa using h.count_le
  below := by
    intro i hi hpc
    rw [daemonReapZombies_workerCount] at hi
    rcases daemonReapZombies_slot t batch i with hslot | ⟨st, hslot⟩ <;> rw [hslot]
    · exact h.below i hi hpc
    · exact Worker.vacate_settled _ st
  above := by
    intro i hi
    rw [daemonReapZombies_workerCount] at hi
    rw [daemonReapZombies_above batch (Nat.le_of_lt hi)]
    exact h.above i hi
  next := by
    intro hpc
    rw [daemonReapZombies_workerCount, daemonReapZombies_above batch (Nat.le_refl _)]
    exact h.next hpc
  here := h.here.reap batch

/-! ### `daemon_spawn_worker` -/

/-- A write to the slot at `worker_count`. -/
lemma SlotsOk.set_next {t : WorkerTable} {w w' : SpawnWrite} {pid pid' : ℤ} {birth birth' : ℕ}
    (h : SlotsOk t (.spawn w pid birth)) (slot : Worker)
    (hat : AtPc (t.set t.workerCount slot) (.spawn w' pid' birth')) :
    SlotsOk (t.set t.workerCount slot) (.spawn w' pid' birth') where
  count_le := h.count_le
  below := by
    intro i hi _
    rw [t.set_workerCount] at hi
    rw [t.set_of_ne slot (Nat.ne_of_lt hi)]
    exact h.below i hi (by simp)
  above := by
    intro i hi
    rw [t.set_workerCount] at hi
    rw [t.set_of_ne slot (Nat.ne_of_gt hi)]
    exact h.above i hi
  next := fun hpc => absurd rfl (hpc w' pid' birth')
  here := hat

/-- `worker_count++`: the slot that was filled is busy with the pid `fork` returned. -/
lemma SlotsOk.register {t : WorkerTable} {pid : ℤ} {birth : ℕ}
    (h : SlotsOk t (.spawn .count pid birth)) :
    SlotsOk { t with workerCount := t.workerCount + 1 } .ready := by
  obtain ⟨hcap, hpos, hpid, hbusy⟩ := h.here
  constructor
  · exact hcap
  · intro i hi _
    rcases Nat.lt_succ_iff_lt_or_eq.mp hi with hi | rfl
    · exact h.below i hi (by simp)
    · exact Or.inl ⟨hbusy (by decide) (by decide), by rw [hpid (by decide)]; exact hpos⟩
  · exact fun i hi => h.above i (Nat.lt_of_succ_lt hi)
  · exact fun _ => h.above _ (Nat.lt_succ_self _)
  · trivial

/-- The writes after `fork`, one by one. -/
lemma SlotsOk.spawn {t : WorkerTable} {w : SpawnWrite} {pid : ℤ} {birth : ℕ}
    (h : SlotsOk t (.spawn w pid birth)) (now : ℤ) :
    SlotsOk (w.apply t pid now) (w.next pid 0) := by
  obtain ⟨hcap, hpos, hpid, hbusy⟩ := h.here
  cases w with
  | pid => exact h.set_next _ ⟨hcap, hpos, by simp, by simp⟩
  | status => exact h.set_next _ ⟨hcap, hpos, by simpa using hpid, by simp⟩
  | started => exact h.set_next _ ⟨hcap, hpos, by simpa using hpid, by simpa using hbusy⟩
  | task => exact h.set_next _ ⟨hcap, hpos, by simpa using hpid, by simpa using hbusy⟩
  | count => exact h.register

/-! ### `daemon_monitor_workers` -/

/-- A write to a slot below `worker_count`. -/
lemma SlotsOk.set_below {t : WorkerTable} {pc pc' : Pc} {i : ℕ} (h : SlotsOk t pc)
    (hi : i < t.workerCount) (hpc : ∀ w pid birth, pc ≠ .spawn w pid birth)
    (hfail : ∀ j, pc = .failPid j → j = i) (slot : Worker)
    (hslot : pc' ≠ .failPid i → slot.Settled) (hat : AtPc (t.set i slot) pc') :
    SlotsOk (t.set i slot) pc' where
  count_le := h.count_le
  below := by
    intro j hj hj'
    by_cases hij : j = i
    · subst hij
      rw [t.set_self]
      exact hslot hj'
    · rw [t.set_of_ne slot hij]
      exact h.below j hj fun hpc => hij (hfail j hpc)
  above := by
    intro j hj
    rw [t.set_of_ne slot (Nat.ne_of_gt (Nat.lt_trans hi hj))]
    exact h.above j hj
  next := by
    intro _
    rw [t.set_workerCount, t.set_of_ne slot (Nat.ne_of_gt hi)]
    exact h.next hpc
  here := hat

/-- `workers[i].status = WORKER_FAILED`: the slot is half emptied. -/
lemma SlotsOk.failStatus {t : WorkerTable} {i : ℕ} (h : SlotsOk t (.failStatus i)) :
    SlotsOk (t.set i { t.workers i with status := .failed }) (.failPid i) :=
  h.set_below h.here (by simp) (by simp) _ (fun hne => absurd rfl hne)
    ⟨h.here, by simp⟩

/-- `workers[i].pid = 0`: it is empty, also if the handler emptied it in between. -/
lemma SlotsOk.failPid {t : WorkerTable} {i : ℕ} (h : SlotsOk t (.failPid i)) :
    SlotsOk (t.set i { t.workers i with pid := 0 }) (.copy i) :=
  h.set_below h.here.1 (by simp) (by simp) _ (fun _ => Or.inr ⟨h.here.2, rfl⟩) trivial

/-! ### Steps and runs -/

/-- Everything a step can do to the table and the program counter. -/
inductive WorkerEffect (t : WorkerTable) : Pc → WorkerTable → Pc → Prop
  | move {pc pc' : Pc} : pc.Quiet → (AtPc t pc → AtPc t pc') → WorkerEffect t pc t pc'
  | spawn (w : SpawnWrite) (pid now : ℤ) (birth : ℕ) :
      WorkerEffect t (.spawn w pid birth) (w.apply t pid now) (w.next pid 0)
  | failStatus (i : ℕ) :
      WorkerEffect t (.failStatus i) (t.set i { t.workers i with status := .failed }) (.failPid i)
  | failPid (i : ℕ) :
      WorkerEffect t (.failPid i) (t.set i { t.workers i with pid := 0 }) (.copy i)
  | lastReap (batch : List (ℤ × WaitStatus)) :
      WorkerEffect t .reap (daemonReapZombies t batch) .stopped
  | handler (pc : Pc) (batch : List (ℤ × WaitStatus)) :
      WorkerEffect t pc (daemonReapZombies t batch) pc

lemma AtPc.afterLoop (t : WorkerTable) (c : KillSite) : AtPc t c.afterLoop := by
  cases c <;> trivial

lemma AtPc.afterKill {t : WorkerTable} {i : ℕ} (hi : i < t.workerCount) (c : KillSite)
    (k : KillResult) : AtPc t (c.afterKill i k) := by
  cases c <;> cases k <;> first | exact hi | trivial

/-- One case per program counter. -/
lemma mainThreadStep_effect {s s' : MainThread} {r : AnyResult}
    (hs : mainThreadStep s r = some s') : WorkerEffect s.table s.pc s'.table s'.pc := by
  obtain ⟨t, pc, active, workerList, listCount⟩ := s
  cases pc with
  | ready => simp [mainThreadStep] at hs
  | stopped => simp [mainThreadStep] at hs
  | fork =>
      simp only [mainThreadStep] at hs
      split_ifs at hs with hneg hzero
      all_goals rw [Option.some.injEq] at hs; subst hs
      · exact .move trivial fun _ => trivial
      · exact .move trivial fun _ => trivial
      · exact .move trivial fun hcap => ⟨hcap, by omega, fun hne => absurd rfl hne,
          fun hne => absurd rfl hne⟩
  | test c i =>
      simp only [mainThreadStep] at hs
      split_ifs at hs with hloop hpos
      all_goals rw [Option.some.injEq] at hs; subst hs
      · exact .move trivial fun _ => c.lt_of_inLoop hloop
      · exact .move trivial fun _ => trivial
      · exact .move trivial fun _ => AtPc.afterLoop t c
  | spawn w pid birth => exact Option.some.inj hs ▸ .spawn w pid r.now birth
  | arg c i => exact Option.some.inj hs ▸ .move trivial fun hi => hi
  | kill c i p => exact Option.some.inj hs ▸ .move trivial fun hi => AtPc.afterKill hi c r.kill
  | failStatus i => exact Option.some.inj hs ▸ .failStatus i
  | failPid i => exact Option.some.inj hs ▸ .failPid i
  | copy i => exact Option.some.inj hs ▸ .move trivial fun _ => trivial
  | sleep => exact Option.some.inj hs ▸ .move trivial fun _ => trivial
  | reap => exact Option.some.inj hs ▸ .lastReap (reported r.waits)

lemma workerStep_effect {s s' : MainThread} {a : WorkerAct} (hs : workerStep s a = some s') :
    WorkerEffect s.table s.pc s'.table s'.pc := by
  have hready : s.pc = .ready → s.pc.Quiet := fun hpc => by rw [hpc]; trivial
  cases a with
  | callSpawn =>
      simp only [workerStep] at hs
      split_ifs at hs with hpc hfull
      all_goals rw [Option.some.injEq] at hs; subst hs
      · exact .move (hready hpc) id
      · exact .move (hready hpc) fun _ => Nat.lt_of_not_le hfull
  | callMonitor workerList count =>
      simp only [workerStep] at hs
      split_ifs at hs with hpc
      exact Option.some.inj hs ▸ .move (hready hpc) fun _ => trivial
  | callShutdown =>
      simp only [workerStep] at hs
      split_ifs at hs with hpc
      exact Option.some.inj hs ▸ .move (hready hpc) fun _ => trivial
  | main r => exact mainThreadStep_effect hs
  | sigchld waits => exact Option.some.inj hs ▸ .handler s.pc (reported waits)

/-- **The step lemma.** -/
lemma SlotsOk.step {t t' : WorkerTable} {pc pc' : Pc} (h : SlotsOk t pc)
    (he : WorkerEffect t pc t' pc') : SlotsOk t' pc' := by
  cases he with
  | move hq hat => exact h.move hq (hat h.here)
  | spawn w pid now birth => exact h.spawn now
  | failStatus i => exact h.failStatus
  | failPid i => exact h.failPid
  | lastReap batch => exact (h.reap batch).move trivial trivial
  | handler pc batch => exact h.reap batch

lemma slotsOk_of_reach {s : MainThread} (h : Reach mainThreadInitial workerStep anyStep s) :
    SlotsOk s.table s.pc := by
  refine h.invariant (I := fun s => SlotsOk s.table s.pc) ?_ fun _ _ _ hI _ hs =>
    hI.step (workerStep_effect hs)
  rintro s ⟨ht, hpc⟩
  rw [ht, hpc]
  exact SlotsOk.init

/-- The only step that writes `worker_count` adds one to it. -/
lemma WorkerEffect.count_le {t t' : WorkerTable} {pc pc' : Pc} (h : WorkerEffect t pc t' pc') :
    t.workerCount ≤ t'.workerCount := by
  cases h with
  | spawn w pid now birth =>
      cases w with
      | count => exact Nat.le_succ _
      | _ => exact Nat.le_refl _
  | lastReap batch => exact Nat.le_of_eq (daemonReapZombies_workerCount t batch).symm
  | handler pc batch => exact Nat.le_of_eq (daemonReapZombies_workerCount t batch).symm
  | _ => exact Nat.le_refl _

/-- The table between operations. -/
structure SettledTable (t : WorkerTable) : Prop where
  count_le : t.workerCount ≤ maxWorkers
  unused : ∀ i, t.workerCount ≤ i → t.workers i = .zero
  busy_iff : ∀ i, i < t.workerCount → ((t.workers i).status = .busy ↔ 0 < (t.workers i).pid)
  empty : ∀ i, i < t.workerCount → ¬ 0 < (t.workers i).pid →
    (t.workers i).pid = 0 ∧ ((t.workers i).status = .idle ∨ (t.workers i).status = .failed)

lemma Worker.Settled.busy_iff {w : Worker} (h : w.Settled) : w.status = .busy ↔ 0 < w.pid := by
  rcases h with ⟨hbusy, hpos⟩ | ⟨hbusy, hzero⟩
  · simp [hbusy, hpos]
  · simp [hbusy, hzero]

lemma Worker.Settled.empty {w : Worker} (h : w.Settled) (hpid : ¬ 0 < w.pid) :
    w.pid = 0 ∧ (w.status = .idle ∨ w.status = .failed) := by
  rcases h with ⟨-, hpos⟩ | ⟨hbusy, hzero⟩
  · exact absurd hpos hpid
  · refine ⟨hzero, ?_⟩
    cases hst : w.status with
    | idle => exact Or.inl rfl
    | busy => exact absurd hst hbusy
    | failed => exact Or.inr rfl

lemma SlotsOk.settled {t : WorkerTable} {pc : Pc} (h : SlotsOk t pc) (hq : pc.Quiet) :
    SettledTable t := by
  have hbelow : ∀ i, i < t.workerCount → (t.workers i).Settled := fun i hi =>
    h.below i hi (by rintro rfl; exact hq)
  refine ⟨h.count_le, fun i hi => ?_, fun i hi => (hbelow i hi).busy_iff,
    fun i hi => (hbelow i hi).empty⟩
  rcases Nat.eq_or_lt_of_le hi with rfl | hi
  · exact h.next (by rintro w pid birth rfl; exact hq)
  · exact h.above i hi

/-- **The slots under every interleaving.**  Whatever `fork`, `waitpid` and `kill` return and
wherever the handler runs, between operations `worker_count` is at most `MAX_WORKERS` and at least
what it was in any earlier state, the slots from `worker_count` on were never written, and a slot
below it is busy exactly when its pid is positive; otherwise its pid is 0 and it says idle or
failed. -/
theorem worker_slots_settled {s : MainThread} (h : Reach mainThreadInitial workerStep anyStep s)
    (hpc : s.pc = .ready ∨ s.pc = .stopped) :
    SettledTable s.table ∧ ∀ s₀ as, run workerStep s₀ as = some s →
      s₀.table.workerCount ≤ s.table.workerCount := by
  have hq : s.pc.Quiet := by
    rcases hpc with hpc | hpc <;> rw [hpc] <;> trivial
  exact ⟨(slotsOk_of_reach h).settled hq, fun s₀ as hrun =>
    le_of_run (fun s => s.table.workerCount) (fun _ _ _ hs => (workerStep_effect hs).count_le)
      hrun⟩

/-- A worker is spawned and probed.  The probe fails, and the handler reaps the worker between
the two writes that empty its slot.  The next `fork` fails. -/
def reapedWhileProbed : List WorkerAct :=
  [.callSpawn, .main { fork := 101 }] ++ List.replicate 5 (.main {}) ++
    [.callMonitor (fun _ => .zero) 10, .main {}, .main {}, .main { kill := .esrch }, .main {},
      .sigchld [(101, .exited 0), (0, .other), (7, .other)], .main {}, .main {}, .main {},
      .callSpawn, .main { fork := -1 }]

/-- A slot that was emptied by the handler and by the main thread at once. -/
theorem worker_slots_settled_reaped :
    ∃ s : MainThread, s.pc = .ready ∧ s.table.workerCount = 1 ∧
      (s.table.workers 0).status = .idle ∧ SettledTable s.table := by
  have hrun : (run workerStep ⟨.empty, .ready, 0, fun _ => .zero, 0⟩ reapedWhileProbed).map
      (fun s => (s.pc, s.table.workerCount, (s.table.workers 0).status))
        = some (.ready, 1, .idle) := by
    decide +kernel
  obtain ⟨s, hs, heq⟩ := Option.map_eq_some_iff.mp hrun
  simp only [Prod.mk.injEq] at heq
  have hreach : Reach mainThreadInitial workerStep anyStep s :=
    (Reach.start ⟨rfl, rfl⟩).of_run_any hs
  exact ⟨s, heq.1, heq.2.1, heq.2.2, (worker_slots_settled hreach (Or.inl heq.1)).1⟩

/-! ## The machine with a kernel

`daemonStep` restricts what the system calls return to what a kernel with these children can
return, and takes exits of children as steps of their own.  Without the kernel an exit is no
step, and every other step is one of `workerStep`. -/

/-- The program counter without the birth number. -/
def Pc.forgetBirth : Pc → Pc
  | .spawn w pid _ => .spawn w pid 0
  | pc => pc

/-- The daemon without its kernel. -/
def Daemon.mainThread (s : Daemon) : MainThread :=
  ⟨s.table, s.pc.forgetBirth, s.active, s.workerList, s.listCount⟩

@[simp] lemma KillSite.afterLoop_forgetBirth (c : KillSite) :
    c.afterLoop.forgetBirth = c.afterLoop := by
  cases c <;> rfl

@[simp] lemma KillSite.afterKill_forgetBirth (c : KillSite) (i : ℕ) (k : KillResult) :
    (c.afterKill i k).forgetBirth = c.afterKill i k := by
  cases c <;> cases k <;> rfl

/-- A `waitpid` loop that reports only children takes all reports. -/
lemma reported_of_pos {batch : List (ℤ × WaitStatus)} (h : ∀ r ∈ batch, 0 < r.1) :
    reported batch = batch :=
  List.takeWhile_eq_self_iff.mpr fun r hr => decide_eq_true (h r hr)

lemma Kernel.Ok.reported_zombies {k : Kernel} (h : k.Ok) {batch : List (ℤ × WaitStatus)}
    (hbatch : batch.Perm k.zombies) : reported batch = batch :=
  reported_of_pos fun _ hr => h.zombies_pos (hbatch.mem_iff.mp hr)

/-- The main thread does to the kernel nothing but `fork` and the last reap. -/
lemma mainStep_kernel {s s' : Daemon} {r : SysResult} (hk : s.kernel.Ok)
    (hs : mainStep s r = some s') : s'.kernel.Ok := by
  cases hpc : s.pc with
  | fork =>
      rcases mainStep_fork hpc hs with rfl | ⟨pid, hfree, rfl⟩
      · exact hk
      · exact hk.fork hfree
  | spawn w pid birth =>
      cases w <;> simp only [mainStep, hpc, Option.some.injEq] at hs <;> subst hs <;> exact hk
  | test c i => rcases mainStep_test hpc hs with ⟨-, -, rfl⟩ | rfl | rfl <;> exact hk
  | reap =>
      simp only [mainStep, hpc] at hs
      split_ifs at hs
      rw [Option.some.injEq] at hs
      subst hs
      exact hk.reap
  | ready => simp [mainStep, hpc] at hs
  | stopped => simp [mainStep, hpc] at hs
  | _ =>
      simp only [mainStep, hpc, Option.some.injEq] at hs
      subst hs
      exact hk

lemma kernelOk_of_reach {allowed : Daemon → DaemonAct → Prop} {s : Daemon}
    (h : Reach daemonInitial daemonStep allowed s) : s.kernel.Ok := by
  refine h.invariant (I := fun s => s.kernel.Ok) ?_ ?_
  · rintro s ⟨-, hk, -⟩
    rw [hk]
    exact Kernel.boot_ok
  · intro s a s' hk _ hs
    rcases daemonStep_cases hs with he | ⟨r, -, hr⟩ | ⟨birth, st, k, hexit, rfl⟩ |
      ⟨batch, -, -, rfl⟩
    · rw [he.kernel]
      exact hk
    · exact mainStep_kernel hk hr
    · exact hk.exit hexit
    · exact hk.reap

/-- A step of the main thread is a step without the kernel, with the results the kernel gave. -/
lemma mainStep_mainThread {s s' : Daemon} {r : SysResult} (hk : s.kernel.Ok)
    (hs : mainStep s r = some s') : ∃ r', mainThreadStep s.mainThread r' = some s'.mainThread := by
  obtain ⟨t, k, pc, active, workerList, listCount, slotChild⟩ := s
  cases pc with
  | ready => simp [mainStep] at hs
  | stopped => simp [mainStep] at hs
  | fork =>
      rcases mainStep_fork rfl hs with rfl | ⟨pid, hfree, rfl⟩
      · exact ⟨{ fork := -1 }, rfl⟩
      · refine ⟨{ fork := pid }, ?_⟩
        have hpos : 0 < pid := hfree.1
        simp only [mainThreadStep, Daemon.mainThread, Pc.forgetBirth]
        rw [if_neg (by omega), if_neg (by omega)]
  | spawn w pid birth =>
      refine ⟨{ now := r.now }, ?_⟩
      cases w <;> simp only [mainStep, Option.some.injEq] at hs <;> subst hs <;> rfl
  | test c i =>
      refine ⟨{}, ?_⟩
      simp only [mainStep] at hs
      split_ifs at hs with hloop hpos
      all_goals
        rw [Option.some.injEq] at hs
        subst hs
        change mainThreadStep ⟨t, .test c i, active, workerList, listCount⟩ _ = _
      · simp [mainThreadStep, Daemon.mainThread, Pc.forgetBirth, hloop, hpos]
      · simp [mainThreadStep, Daemon.mainThread, Pc.forgetBirth, hloop, hpos]
      · simp [mainThreadStep, Daemon.mainThread, hloop]
  | kill c i p =>
      refine ⟨{ kill := k.kill p r.kill }, ?_⟩
      simp only [mainStep, Option.some.injEq] at hs
      subst hs
      change mainThreadStep ⟨t, .kill c i p, active, workerList, listCount⟩ _ = _
      simp [mainThreadStep, Daemon.mainThread]
  | reap =>
      refine ⟨{ waits := r.batch }, ?_⟩
      simp only [mainStep] at hs
      split_ifs at hs with hbatch
      rw [Option.some.injEq] at hs
      subst hs
      simp [mainThreadStep, Daemon.mainThread, Pc.forgetBirth, Daemon.reapAll,
        hk.reported_zombies hbatch]
  | _ =>
      refine ⟨{}, ?_⟩
      simp only [mainStep, Option.some.injEq] at hs
      subst hs
      rfl

/-- **One step is one step**, or an exit. -/
theorem daemonStep_mainThread {s s' : Daemon} {a : DaemonAct} (hk : s.kernel.Ok)
    (hs : daemonStep s a = some s') :
    s'.mainThread = s.mainThread ∨ ∃ b, workerStep s.mainThread b = some s'.mainThread := by
  cases a with
  | callSpawn =>
      simp only [daemonStep] at hs
      split_ifs at hs with hpc hfull
      all_goals rw [Option.some.injEq] at hs; subst hs
      · exact Or.inl rfl
      · refine Or.inr ⟨.callSpawn, ?_⟩
        simp [workerStep, Daemon.mainThread, hpc, Pc.forgetBirth, hfull]
  | callMonitor workerList count =>
      simp only [daemonStep] at hs
      split_ifs at hs with hpc
      rw [Option.some.injEq] at hs
      subst hs
      refine Or.inr ⟨.callMonitor workerList count, ?_⟩
      simp [workerStep, Daemon.mainThread, hpc, Pc.forgetBirth]
  | callShutdown =>
      simp only [daemonStep] at hs
      split_ifs at hs with hpc
      rw [Option.some.injEq] at hs
      subst hs
      refine Or.inr ⟨.callShutdown, ?_⟩
      simp [workerStep, Daemon.mainThread, hpc, Pc.forgetBirth]
  | main r =>
      obtain ⟨r', hr'⟩ := mainStep_mainThread hk hs
      exact Or.inr ⟨.main r', hr'⟩
  | exit birth st =>
      obtain ⟨k, -, rfl⟩ := Option.map_eq_some_iff.mp hs
      exact Or.inl rfl
  | sigchld batch =>
      simp only [daemonStep] at hs
      split_ifs at hs with hbatch
      rw [Option.some.injEq] at hs
      subst hs
      refine Or.inr ⟨.sigchld batch, ?_⟩
      simp [workerStep, Daemon.mainThread, Daemon.reapAll, hk.reported_zombies hbatch]

/-- Without its kernel, a daemon that can be reached can be reached. -/
theorem mainThread_reach {allowed : Daemon → DaemonAct → Prop} {s : Daemon}
    (h : Reach daemonInitial daemonStep allowed s) :
    Reach mainThreadInitial workerStep anyStep s.mainThread := by
  refine h.map Daemon.mainThread ?_ fun s a s' hr hs =>
    daemonStep_mainThread (kernelOk_of_reach hr) hs
  rintro s ⟨ht, -, hpc⟩
  exact ⟨ht, by rw [Daemon.mainThread, hpc]; rfl⟩

/-- The slots of the daemon with its kernel, also in the runs in which an exit is lost. -/
theorem daemon_slots_settled {s : Daemon} (h : Reach daemonInitial daemonStep anyStep s)
    (hpc : s.pc = .ready) : SettledTable s.table := by
  refine (slotsOk_of_reach (mainThread_reach h)).settled ?_
  rw [Daemon.mainThread, hpc]
  trivial

end Storage

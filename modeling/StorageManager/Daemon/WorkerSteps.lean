import StorageManager.Daemon.Workers

/-!
# The worker table, one access at a time

SIGCHLD can arrive between any two accesses the main thread makes to the worker table, and its
handler runs `daemon_reap_zombies` on that table.  Here the main thread is a machine whose
program counter (`Pc`) stands before the next table access or system call of
`daemon_spawn_worker`, `daemon_monitor_workers` or `daemon_shutdown`; a run of the handler is one
step, allowed at every program counter.

The reading of `workers[i].pid` as the argument of `kill` and the call itself are two steps, so a
handler run may fall between them as well.

* `daemonStep` — the machine, with every outcome of `fork` and `kill` in the label, and
  `daemonStep_cases`, which says everything a step can do.
* `spawn_uninterrupted`, `monitor_uninterrupted` — without a handler run in between, the steps of
  a call compose to the function of `Daemon/Workers.lean`.
-/

namespace Storage

open CString Machine

/-- The table writes of `daemon_spawn_worker` after `fork`, in order. -/
inductive SpawnWrite
  | pid
  | status
  | started
  | task
  | count
  deriving DecidableEq, Repr

/-- The call sites of `kill`: the probe of `daemon_monitor_workers`, and `SIGTERM`, the probe and
`SIGKILL` of `daemon_shutdown`. -/
inductive KillSite
  | monitor
  | term
  | probe
  | force
  deriving DecidableEq, Repr

/-- Where the main thread stands. -/
inductive Pc
  | ready
  | fork
  | spawn (w : SpawnWrite) (pid : ℤ) (birth : ℕ)
  | test (c : KillSite) (i : ℕ)
  | arg (c : KillSite) (i : ℕ)
  | kill (c : KillSite) (i : ℕ) (p : ℤ)
  | failStatus (i : ℕ)
  | failPid (i : ℕ)
  | copy (i : ℕ)
  | sleep
  | reap
  | stopped
  deriving DecidableEq, Repr

/-- The daemon between two steps.  `active` and `workerList` are the locals of
`daemon_monitor_workers`, `listCount` its parameter `count`; `slotChild` records which child a
slot was filled for. -/
structure Daemon where
  table : WorkerTable
  kernel : Kernel
  pc : Pc
  active : ℕ
  workerList : ℕ → Worker
  listCount : ℤ
  slotChild : ℕ → ℕ

/-- The daemon at start-up, with an arbitrary caller's array. -/
def daemonInitial (s : Daemon) : Prop :=
  s.table = .empty ∧ s.kernel = .boot ∧ s.pc = .ready

/-- What the system calls of a step return. -/
structure SysResult where
  fork : Option ℤ := none
  kill : KillResult := .other
  now : ℤ := 0
  batch : List (ℤ × WaitStatus) := []

/-- A call, the next step of the main thread, the end of a child, or the SIGCHLD handler. -/
inductive DaemonAct
  | callSpawn
  | callMonitor (workerList : ℕ → Worker) (count : ℤ)
  | callShutdown
  | main (r : SysResult)
  | exit (birth : ℕ) (st : WaitStatus)
  | sigchld (batch : List (ℤ × WaitStatus))

/-- The field of slot `worker_count` that a step of `daemon_spawn_worker` writes. -/
def SpawnWrite.apply (t : WorkerTable) (pid now : ℤ) : SpawnWrite → WorkerTable
  | .pid => t.set t.workerCount { t.workers t.workerCount with pid := pid }
  | .status => t.set t.workerCount { t.workers t.workerCount with status := .busy }
  | .started => t.set t.workerCount { t.workers t.workerCount with started := now }
  | .task => t.set t.workerCount { t.workers t.workerCount with task := workerTask t.workerCount }
  | .count => { t with workerCount := t.workerCount + 1 }

/-- The place behind a write. -/
def SpawnWrite.next (pid : ℤ) (birth : ℕ) : SpawnWrite → Pc
  | .pid => .spawn .status pid birth
  | .status => .spawn .started pid birth
  | .started => .spawn .task pid birth
  | .task => .spawn .count pid birth
  | .count => .ready

/-- The bound of the `for` loop a test belongs to. -/
def KillSite.inLoop (t : WorkerTable) (i : ℕ) : KillSite → Bool
  | .monitor => i < t.workerCount && i < maxWorkers
  | _ => i < t.workerCount

/-- Where the main thread goes when that loop is over. -/
def KillSite.afterLoop : KillSite → Pc
  | .monitor => .ready
  | .term => .sleep
  | .probe | .force => .reap

/-- Where it goes after `kill`, given the result. -/
def KillSite.afterKill (i : ℕ) : KillSite → KillResult → Pc
  | .monitor, .esrch => .failStatus i
  | .monitor, _ => .copy i
  | .term, _ => .test .term (i + 1)
  | .probe, .ok => .arg .force i
  | .probe, _ => .test .probe (i + 1)
  | .force, _ => .test .probe (i + 1)

/-- The handler, or the call at the end of `daemon_shutdown`: reap every zombie there is. -/
def Daemon.reapAll (s : Daemon) (batch : List (ℤ × WaitStatus)) : Daemon :=
  { s with table := daemonReapZombies s.table batch, kernel := s.kernel.reap }

/-- One step of the main thread. -/
def mainStep (s : Daemon) (r : SysResult) : Option Daemon :=
  match s.pc with
  | .ready | .stopped => none
  | .fork =>
      match r.fork with
      | none => some { s with pc := .ready }
      | some pid =>
          if s.kernel.Free pid then
            some { s with kernel := s.kernel.fork pid, pc := .spawn .pid pid s.kernel.births }
          else none
  | .spawn .pid pid birth =>
      some { s with
        table := SpawnWrite.apply s.table pid r.now .pid
        slotChild := Function.update s.slotChild s.table.workerCount birth
        pc := SpawnWrite.next pid birth .pid }
  | .spawn w pid birth =>
      some { s with table := w.apply s.table pid r.now, pc := w.next pid birth }
  | .test c i =>
      if c.inLoop s.table i then
        if 0 < (s.table.workers i).pid then some { s with pc := .arg c i }
        else some { s with pc := .test c (i + 1) }
      else some { s with pc := c.afterLoop }
  | .arg c i => some { s with pc := .kill c i (s.table.workers i).pid }
  | .kill c i p =>
      some { s with
        active := if c = .monitor ∧ s.kernel.kill p r.kill = .ok then s.active + 1 else s.active
        pc := c.afterKill i (s.kernel.kill p r.kill) }
  | .failStatus i =>
      some { s with
        table := s.table.set i { s.table.workers i with status := .failed }
        pc := .failPid i }
  | .failPid i =>
      some { s with table := s.table.set i { s.table.workers i with pid := 0 }, pc := .copy i }
  | .copy i =>
      some { s with
        workerList := if (i : ℤ) < s.listCount then
          Function.update s.workerList i (s.table.workers i) else s.workerList
        pc := .test .monitor (i + 1) }
  | .sleep => some { s with pc := .test .probe 0 }
  | .reap =>
      if r.batch.Perm s.kernel.zombies then some { s.reapAll r.batch with pc := .stopped }
      else none

lemma KillSite.lt_of_inLoop {c : KillSite} {t : WorkerTable} {i : ℕ} (h : c.inLoop t i) :
    i < t.workerCount := by
  cases c <;> simp_all [KillSite.inLoop]

/-- `fork` fails, or there is a new child and the table writes begin. -/
lemma mainStep_fork {s s' : Daemon} {r : SysResult} (hpc : s.pc = .fork)
    (hs : mainStep s r = some s') :
    s' = { s with pc := .ready } ∨ ∃ pid, s.kernel.Free pid ∧
      s' = { s with kernel := s.kernel.fork pid, pc := .spawn .pid pid s.kernel.births } := by
  simp only [mainStep, hpc] at hs
  split at hs
  · exact Or.inl (Option.some.inj hs).symm
  · next pid _ =>
      split_ifs at hs with hfree
      exact Or.inr ⟨pid, hfree, (Option.some.inj hs).symm⟩

/-- The test of a slot only moves the program counter: to the argument of `kill` when the slot
holds a positive pid, else to the next slot or out of the loop. -/
lemma mainStep_test {s s' : Daemon} {r : SysResult} {c : KillSite} {i : ℕ}
    (hpc : s.pc = .test c i) (hs : mainStep s r = some s') :
    (i < s.table.workerCount ∧ 0 < (s.table.workers i).pid ∧ s' = { s with pc := .arg c i }) ∨
      s' = { s with pc := .test c (i + 1) } ∨ s' = { s with pc := c.afterLoop } := by
  simp only [mainStep, hpc] at hs
  split_ifs at hs with hloop hpos
  · exact Or.inl ⟨c.lt_of_inLoop hloop, hpos, (Option.some.inj hs).symm⟩
  · exact Or.inr (Or.inl (Option.some.inj hs).symm)
  · exact Or.inr (Or.inr (Option.some.inj hs).symm)

/-- **The machine**: the main thread, children that exit, and the SIGCHLD handler. -/
def daemonStep (s : Daemon) : DaemonAct → Option Daemon
  | .callSpawn =>
      if s.pc = .ready then
        some (if maxWorkers ≤ s.table.workerCount then s else { s with pc := .fork })
      else none
  | .callMonitor workerList count =>
      if s.pc = .ready then
        some { s with pc := .test .monitor 0, active := 0, workerList := workerList,
                      listCount := count }
      else none
  | .callShutdown => if s.pc = .ready then some { s with pc := .test .term 0 } else none
  | .main r => mainStep s r
  | .exit birth st => (s.kernel.exit birth st).map fun k => { s with kernel := k }
  | .sigchld batch => if batch.Perm s.kernel.zombies then some (s.reapAll batch) else none

/-- Entering a function of the main thread: nothing but the program counter and the locals of
`daemon_monitor_workers` changes, and the new program counter is no table access. -/
structure Entered (s s' : Daemon) : Prop where
  ready : s.pc = .ready
  pc : s'.pc = .ready ∨ s'.pc = .fork ∨ s'.pc = .test .monitor 0 ∨ s'.pc = .test .term 0
  table : s'.table = s.table
  kernel : s'.kernel = s.kernel
  slotChild : s'.slotChild = s.slotChild

/-- Everything a step of the machine can do. -/
lemma daemonStep_cases {s s' : Daemon} {a : DaemonAct} (hs : daemonStep s a = some s') :
    Entered s s' ∨ (∃ r, a = .main r ∧ mainStep s r = some s') ∨
      (∃ birth st k, s.kernel.exit birth st = some k ∧ s' = { s with kernel := k }) ∨
      ∃ batch, a = .sigchld batch ∧ batch.Perm s.kernel.zombies ∧ s' = s.reapAll batch := by
  cases a with
  | callSpawn =>
      simp only [daemonStep] at hs
      split_ifs at hs with hpc hfull
      · rw [Option.some.injEq] at hs
        subst hs
        exact Or.inl ⟨hpc, Or.inl hpc, rfl, rfl, rfl⟩
      · rw [Option.some.injEq] at hs
        subst hs
        exact Or.inl ⟨hpc, Or.inr (Or.inl rfl), rfl, rfl, rfl⟩
  | callMonitor workerList count =>
      simp only [daemonStep] at hs
      split_ifs at hs with hpc
      rw [Option.some.injEq] at hs
      subst hs
      exact Or.inl ⟨hpc, Or.inr (Or.inr (Or.inl rfl)), rfl, rfl, rfl⟩
  | callShutdown =>
      simp only [daemonStep] at hs
      split_ifs at hs with hpc
      rw [Option.some.injEq] at hs
      subst hs
      exact Or.inl ⟨hpc, Or.inr (Or.inr (Or.inr rfl)), rfl, rfl, rfl⟩
  | main r => exact Or.inr (Or.inl ⟨r, rfl, hs⟩)
  | exit birth st =>
      obtain ⟨k, hk, hs⟩ := Option.map_eq_some_iff.mp hs
      exact Or.inr (Or.inr (Or.inl ⟨birth, st, k, hk, hs.symm⟩))
  | sigchld batch =>
      simp only [daemonStep] at hs
      split_ifs at hs with hbatch
      rw [Option.some.injEq] at hs
      exact Or.inr (Or.inr (Or.inr ⟨batch, rfl, hbatch, hs.symm⟩))

/-! ## Uninterrupted calls

The two levels agree: with no handler run and no exit in between, the steps of a call leave the
table the function of `Daemon/Workers.lean` computes. -/

/-- The seven steps of a call of `daemon_spawn_worker` that succeeds. -/
theorem spawn_uninterrupted {s : Daemon} {pid : ℤ} (now : ℤ) (hpc : s.pc = .ready)
    (hcap : s.table.workerCount < maxWorkers) (hfree : s.kernel.Free pid) :
    run daemonStep s [.callSpawn, .main { fork := some pid }, .main {}, .main {},
        .main { now := now }, .main {}, .main {}]
      = some { s with
          table := (daemonSpawnWorker s.table (some pid) now).1
          kernel := s.kernel.fork pid
          slotChild := Function.update s.slotChild s.table.workerCount s.kernel.births } := by
  have hn : ¬ maxWorkers ≤ s.table.workerCount := Nat.not_le_of_lt hcap
  simp [daemonStep, mainStep, hpc, hn, hfree, daemonSpawnWorker, SpawnWrite.apply,
    SpawnWrite.next, WorkerTable.set]

/-- The loop variables of `daemon_monitor_workers` as the function's. -/
def Daemon.monitor (s : Daemon) : Monitor := ⟨s.table, s.active, s.workerList⟩

/-- The daemon with other loop variables, at the test of slot `i`. -/
def Daemon.atTest (s : Daemon) (m : Monitor) (i : ℕ) : Daemon :=
  { s with table := m.table, active := m.active, workerList := m.workerList,
           pc := .test .monitor i }

/-- One iteration of the loop. -/
lemma monitorSlot_steps {s : Daemon} {i : ℕ} (kill : ℤ → KillResult)
    (hpc : s.pc = .test .monitor i) (hloop : i < s.table.workerCount ∧ i < maxWorkers) :
    ∃ rs : List SysResult, run daemonStep s (rs.map .main)
      = some (s.atTest (monitorSlot (fun p => s.kernel.kill p (kill p)) s.listCount s.monitor i)
          (i + 1)) := by
  by_cases hpid : 0 < (s.table.workers i).pid
  · have hstart : ∀ rs : List SysResult,
        run daemonStep s ((({} : SysResult) :: {} :: rs).map .main)
          = run daemonStep { s with pc := .kill .monitor i (s.table.workers i).pid }
              (rs.map .main) := by
      intro rs
      simp [daemonStep, mainStep, hpc, KillSite.inLoop, hloop, hpid]
    generalize hk : s.kernel.kill (s.table.workers i).pid (kill (s.table.workers i).pid) = k
    cases k with
    | esrch =>
        refine ⟨{} :: {} :: [{ kill := kill (s.table.workers i).pid }, {}, {}, {}], ?_⟩
        rw [hstart]
        by_cases hc : (i : ℤ) < s.listCount <;>
          simp [daemonStep, mainStep, hk, KillSite.afterKill, WorkerTable.set, Daemon.atTest,
            Daemon.monitor, monitorSlot, hpid, hc, Worker.vacate]
    | ok =>
        refine ⟨{} :: {} :: [{ kill := kill (s.table.workers i).pid }, {}], ?_⟩
        rw [hstart]
        by_cases hc : (i : ℤ) < s.listCount <;>
          simp [daemonStep, mainStep, hk, KillSite.afterKill, Daemon.atTest, Daemon.monitor,
            monitorSlot, hpid, hc]
    | other =>
        refine ⟨{} :: {} :: [{ kill := kill (s.table.workers i).pid }, {}], ?_⟩
        rw [hstart]
        by_cases hc : (i : ℤ) < s.listCount <;>
          simp [daemonStep, mainStep, hk, KillSite.afterKill, Daemon.atTest, Daemon.monitor,
            monitorSlot, hpid, hc]
  · refine ⟨[{}], ?_⟩
    simp [daemonStep, mainStep, hpc, KillSite.inLoop, hloop, hpid, Daemon.atTest, Daemon.monitor,
      monitorSlot]

/-- The rest of the loop, by induction on the number of iterations left. -/
lemma monitorLoop_steps (kill : ℤ → KillResult) :
    ∀ (n : ℕ) {s : Daemon} {i : ℕ}, s.pc = .test .monitor i →
      i + n = min s.table.workerCount maxWorkers →
      ∃ rs : List SysResult, run daemonStep s (rs.map .main)
        = some { s.atTest ((List.range' i n).foldl
            (monitorSlot (fun p => s.kernel.kill p (kill p)) s.listCount) s.monitor) (i + n) with
              pc := .ready }
  | 0, s, i, hpc, hn => by
      refine ⟨[{}], ?_⟩
      have hend : ¬ (i < s.table.workerCount ∧ i < maxWorkers) := by omega
      simp [daemonStep, mainStep, hpc, KillSite.inLoop, hend, KillSite.afterLoop, Daemon.atTest,
        Daemon.monitor]
  | n + 1, s, i, hpc, hn => by
      obtain ⟨rs, hrs⟩ := monitorSlot_steps kill hpc (by omega)
      set m := monitorSlot (fun p => s.kernel.kill p (kill p)) s.listCount s.monitor i with hm
      have hcount : m.table.workerCount = s.table.workerCount := monitorSlot_workerCount _ _ _ _
      obtain ⟨rs', hrs'⟩ := monitorLoop_steps kill n (s := s.atTest m (i + 1)) rfl
        (by simp only [Daemon.atTest, hcount]; omega)
      refine ⟨rs ++ rs', ?_⟩
      rw [List.map_append, run_append, hrs, Option.bind_some, hrs', List.range'_succ,
        List.foldl_cons, ← hm]
      rfl

/-- A whole call of `daemon_monitor_workers`. -/
theorem monitor_uninterrupted {s : Daemon} (kill : ℤ → KillResult) (workerList : ℕ → Worker)
    (count : ℤ) (hpc : s.pc = .ready) :
    ∃ rs : List SysResult, run daemonStep s (.callMonitor workerList count :: rs.map .main)
      = some { s.atTest (daemonMonitorWorkers (fun p => s.kernel.kill p (kill p)) s.table
          workerList count) 0 with pc := .ready, listCount := count } := by
  obtain ⟨rs, hrs⟩ := monitorLoop_steps kill (min s.table.workerCount maxWorkers)
    (s := { s with pc := .test .monitor 0, active := 0, workerList := workerList,
                   listCount := count }) rfl (Nat.zero_add _)
  refine ⟨rs, ?_⟩
  rw [run_cons]
  simp only [daemonStep, hpc, if_true, Option.bind_some]
  rw [hrs, daemonMonitorWorkers, List.range_eq_range']
  rfl

end Storage

import StorageManager.Lib.CString
import StorageManager.Lib.Machine
import Mathlib.Data.List.Nodup
import Mathlib.Logic.Function.Basic

/-!
# The worker table of the daemon

`daemon.c` keeps a static array `workers[MAX_WORKERS]` and a counter `worker_count`.  Three
functions touch them: `daemon_spawn_worker` appends a slot, `daemon_reap_zombies` (the SIGCHLD
handler) empties the slot of every child that `waitpid` returns, and `daemon_monitor_workers`
probes each slot and empties the ones whose process is gone.  This file has the three as
functions on `WorkerTable`, and the part of the kernel they talk to:

* `Kernel` — the children that were forked and not yet reaped, how often `fork` succeeded, and
  how each child ended.
* `daemonReapZombies_hit`, `daemonReapZombies_miss` — one reap, slot by slot.  The search loop
  stops at the first match, so the statement needs positive pids to be pairwise distinct.
  `reap_batch_exact` is the whole call, in any order of the reports.
* `TableStep` — the functions taken one at a time, in any order, with children exiting between
  them.  `spawn_accepted_iff` is what the capacity test amounts to over a whole history: slots
  are appended and never reused, so it counts the forks ever made and not the live workers.

`Daemon/WorkerSteps.lean` splits the same functions into single table accesses.
-/

namespace Storage

open CString Machine

/-! ## The table -/

/-- `MAX_WORKERS`. -/
def maxWorkers : ℕ := 10

/-- `WORKER_IDLE`, `WORKER_BUSY` and `WORKER_FAILED`. -/
inductive WorkerStatus
  | idle
  | busy
  | failed
  deriving DecidableEq, Repr

/-- `worker_t`. -/
structure Worker where
  pid : ℤ
  status : WorkerStatus
  started : ℤ
  task : CStr
  deriving DecidableEq, Repr

/-- A slot of the static array before its first use; `WORKER_IDLE` is 0. -/
def Worker.zero : Worker := ⟨0, .idle, 0, []⟩

/-- A slot whose process is gone: `status` is set and `pid` becomes 0. -/
def Worker.vacate (w : Worker) (status : WorkerStatus) : Worker :=
  { w with status := status, pid := 0 }

@[simp] lemma Worker.vacate_pid (w : Worker) (status : WorkerStatus) :
    (w.vacate status).pid = 0 := rfl

@[simp] lemma Worker.vacate_status (w : Worker) (status : WorkerStatus) :
    (w.vacate status).status = status := rfl

/-- `workers` and `worker_count`. -/
structure WorkerTable where
  workers : ℕ → Worker
  workerCount : ℕ

/-- The table before the first spawn: static storage is zero. -/
def WorkerTable.empty : WorkerTable := ⟨fun _ => .zero, 0⟩

/-- Overwriting one slot. -/
def WorkerTable.set (t : WorkerTable) (i : ℕ) (w : Worker) : WorkerTable :=
  { t with workers := Function.update t.workers i w }

@[simp] lemma WorkerTable.set_workerCount (t : WorkerTable) (i : ℕ) (w : Worker) :
    (t.set i w).workerCount = t.workerCount := rfl

@[simp] lemma WorkerTable.set_self (t : WorkerTable) (i : ℕ) (w : Worker) :
    (t.set i w).workers i = w := by
  simp [WorkerTable.set]

lemma WorkerTable.set_of_ne (t : WorkerTable) {i j : ℕ} (w : Worker) (h : j ≠ i) :
    (t.set i w).workers j = t.workers j := by
  simp [WorkerTable.set, h]

/-- The number of slots that hold a positive pid. -/
def WorkerTable.live (t : WorkerTable) : ℕ :=
  ((List.range maxWorkers).filter fun i => decide (0 < (t.workers i).pid)).length

/-! ## `daemon_reap_zombies` -/

/-- What `waitpid` reports: `WIFEXITED`, `WIFSIGNALED`, or neither. -/
inductive WaitStatus
  | exited (code : ℕ)
  | signaled (sig : ℕ)
  | other
  deriving DecidableEq, Repr

/-- The three branches on the status word. -/
def reapedStatus : WaitStatus → WorkerStatus
  | .exited _ => .idle
  | .signaled _ => .failed
  | .other => .failed

/-- `WIFEXITED`. -/
def WaitStatus.ifExited : WaitStatus → Bool
  | .exited _ => true
  | .signaled _ | .other => false

lemma reapedStatus_eq (st : WaitStatus) :
    reapedStatus st = if st.ifExited then .idle else .failed := by
  cases st <;> rfl

/-- The search loop: the first slot below `worker_count` that holds `pid`. -/
def findSlot (t : WorkerTable) (pid : ℤ) : Option ℕ :=
  (List.range t.workerCount).find? fun i => (t.workers i).pid == pid

/-- One iteration of the `waitpid` loop. -/
def reapWorker (t : WorkerTable) (pid : ℤ) (st : WaitStatus) : WorkerTable :=
  match findSlot t pid with
  | some i => t.set i ((t.workers i).vacate (reapedStatus st))
  | none => t

/-- `daemon_reap_zombies`, on the pairs `waitpid` returns before it returns a value `≤ 0`. -/
def daemonReapZombies (t : WorkerTable) (batch : List (ℤ × WaitStatus)) : WorkerTable :=
  batch.foldl (fun t r => reapWorker t r.1 r.2) t

@[simp] lemma daemonReapZombies_nil (t : WorkerTable) : daemonReapZombies t [] = t := rfl

@[simp] lemma daemonReapZombies_cons (t : WorkerTable) (r : ℤ × WaitStatus)
    (batch : List (ℤ × WaitStatus)) :
    daemonReapZombies t (r :: batch) = daemonReapZombies (reapWorker t r.1 r.2) batch := rfl

/-- A slot that is found is below `worker_count` and holds the pid. -/
lemma findSlot_some {t : WorkerTable} {pid : ℤ} {i : ℕ} (h : findSlot t pid = some i) :
    i < t.workerCount ∧ (t.workers i).pid = pid := by
  refine ⟨List.mem_range.mp (List.mem_of_find?_eq_some h), ?_⟩
  simpa using List.find?_some h

/-- A pid that sits below `worker_count` is found. -/
lemma findSlot_isSome {t : WorkerTable} {pid : ℤ} {i : ℕ} (hi : i < t.workerCount)
    (hp : (t.workers i).pid = pid) : ∃ j, findSlot t pid = some j := by
  rw [← Option.isSome_iff_exists, findSlot, List.find?_isSome]
  exact ⟨i, List.mem_range.mpr hi, by simpa using hp⟩

@[simp] lemma reapWorker_workerCount (t : WorkerTable) (pid : ℤ) (st : WaitStatus) :
    (reapWorker t pid st).workerCount = t.workerCount := by
  unfold reapWorker
  split <;> rfl

@[simp] lemma daemonReapZombies_workerCount (t : WorkerTable) (batch : List (ℤ × WaitStatus)) :
    (daemonReapZombies t batch).workerCount = t.workerCount := by
  induction batch generalizing t with
  | nil => rfl
  | cons r batch ih => rw [daemonReapZombies_cons, ih, reapWorker_workerCount]

/-- Reaping a pid changes no slot that does not hold it. -/
lemma reapWorker_of_ne {t : WorkerTable} {pid : ℤ} {i : ℕ} (st : WaitStatus)
    (h : (t.workers i).pid ≠ pid) : (reapWorker t pid st).workers i = t.workers i := by
  unfold reapWorker
  split
  · next j hj =>
      refine t.set_of_ne _ fun hij => h ?_
      rw [hij]
      exact (findSlot_some hj).2
  · rfl

/-- Nor any slot at or above `worker_count`: the search does not look there. -/
lemma reapWorker_above {t : WorkerTable} {i : ℕ} (pid : ℤ) (st : WaitStatus)
    (h : t.workerCount ≤ i) : (reapWorker t pid st).workers i = t.workers i := by
  unfold reapWorker
  split
  · next j hj => exact t.set_of_ne _ (by have := (findSlot_some hj).1; omega)
  · rfl

/-- Positive pids below `worker_count` are pairwise distinct. -/
def DistinctPids (t : WorkerTable) : Prop :=
  ∀ i j, i < t.workerCount → j < t.workerCount → 0 < (t.workers i).pid →
    (t.workers i).pid = (t.workers j).pid → i = j

/-- With distinct pids the slot that holds the pid is the one that is emptied. -/
lemma reapWorker_self {t : WorkerTable} {i : ℕ} (st : WaitStatus) (hd : DistinctPids t)
    (hi : i < t.workerCount) (hpos : 0 < (t.workers i).pid) :
    (reapWorker t (t.workers i).pid st).workers i
      = (t.workers i).vacate (reapedStatus st) := by
  obtain ⟨j, hj⟩ := findSlot_isSome hi rfl
  have hij : i = j := hd i j hi (findSlot_some hj).1 hpos (findSlot_some hj).2.symm
  subst hij
  simp only [reapWorker, hj, WorkerTable.set_self]

/-- Each slot after one iteration of the loop is unchanged or empty. -/
lemma reapWorker_slot (t : WorkerTable) (pid : ℤ) (st : WaitStatus) (i : ℕ) :
    (reapWorker t pid st).workers i = t.workers i ∨
      ((t.workers i).pid = pid ∧ (reapWorker t pid st).workers i
        = (t.workers i).vacate (reapedStatus st)) := by
  unfold reapWorker
  split
  · next j hj =>
      by_cases hij : i = j
      · subst hij; exact Or.inr ⟨(findSlot_some hj).2, t.set_self i _⟩
      · exact Or.inl (t.set_of_ne _ hij)
  · exact Or.inl rfl

lemma reapWorker_distinct {t : WorkerTable} (pid : ℤ) (st : WaitStatus) (hd : DistinctPids t) :
    DistinctPids (reapWorker t pid st) := by
  intro i j hi hj hpos heq
  rw [reapWorker_workerCount] at hi hj
  rcases reapWorker_slot t pid st i with h | ⟨-, h⟩
  · rcases reapWorker_slot t pid st j with h' | ⟨-, h'⟩
    · rw [h, h'] at heq
      exact hd i j hi hj (by rwa [h] at hpos) heq
    · rw [heq, h'] at hpos
      exact absurd hpos (lt_irrefl _)
  · rw [h] at hpos
    exact absurd hpos (lt_irrefl _)

/-- **A slot whose pid is not in the batch keeps its contents**, and so does every slot above
`worker_count`. -/
lemma daemonReapZombies_miss {t : WorkerTable} {i : ℕ} {batch : List (ℤ × WaitStatus)}
    (h : ∀ r ∈ batch, (t.workers i).pid ≠ r.1) :
    (daemonReapZombies t batch).workers i = t.workers i := by
  induction batch generalizing t with
  | nil => rfl
  | cons r batch ih =>
      have hr := reapWorker_of_ne r.2 (h r (by simp))
      rw [daemonReapZombies_cons, ih fun r' hr' => by rw [hr]; exact h r' (by simp [hr']), hr]

lemma daemonReapZombies_above {t : WorkerTable} {i : ℕ} (batch : List (ℤ × WaitStatus))
    (h : t.workerCount ≤ i) : (daemonReapZombies t batch).workers i = t.workers i := by
  induction batch generalizing t with
  | nil => rfl
  | cons r batch ih =>
      rw [daemonReapZombies_cons, ih (by simpa using h), reapWorker_above _ _ h]

/-- **A slot whose pid is in the batch is emptied** with the status the exit calls for, wherever
in the batch it stands. -/
lemma daemonReapZombies_hit {t : WorkerTable} {i : ℕ} {st : WaitStatus}
    {batch : List (ℤ × WaitStatus)} (hd : DistinctPids t) (hi : i < t.workerCount)
    (hpos : ∀ r ∈ batch, 0 < r.1) (hnd : (batch.map Prod.fst).Nodup)
    (hmem : ((t.workers i).pid, st) ∈ batch) :
    (daemonReapZombies t batch).workers i
      = (t.workers i).vacate (reapedStatus st) := by
  induction batch generalizing t with
  | nil => simp at hmem
  | cons r batch ih =>
      rw [List.map_cons, List.nodup_cons] at hnd
      rw [daemonReapZombies_cons]
      rcases List.mem_cons.mp hmem with hr | hmem
      · -- the slot is emptied now, and 0 is no pid of the rest of the batch
        subst hr
        have hself := reapWorker_self st hd hi (hpos _ List.mem_cons_self)
        rw [daemonReapZombies_miss, hself]
        intro r' hr'
        have hpos' := hpos r' (List.mem_cons_of_mem _ hr')
        rw [hself, Worker.vacate_pid]
        omega
      · have hne : (t.workers i).pid ≠ r.1 := fun h =>
          hnd.1 (List.mem_map.mpr ⟨_, hmem, h⟩)
        have hslot := reapWorker_of_ne r.2 hne
        have := ih (reapWorker_distinct r.1 r.2 hd) (by simpa using hi)
          (fun r' hr' => hpos r' (by simp [hr'])) hnd.2 (by rwa [hslot])
        rwa [hslot] at this

/-- The order in which `waitpid` reports the children does not matter: each slot depends only on
which pairs are in the batch. -/
lemma daemonReapZombies_perm {t : WorkerTable} {batch batch' : List (ℤ × WaitStatus)}
    (hd : DistinctPids t) (hpos : ∀ r ∈ batch, 0 < r.1) (hnd : (batch.map Prod.fst).Nodup)
    (hperm : batch'.Perm batch) : daemonReapZombies t batch' = daemonReapZombies t batch := by
  have hpos' : ∀ r ∈ batch', 0 < r.1 := fun r hr => hpos r (hperm.mem_iff.mp hr)
  have hnd' : (batch'.map Prod.fst).Nodup := (hperm.map Prod.fst).nodup_iff.mpr hnd
  have hslots : (daemonReapZombies t batch').workers = (daemonReapZombies t batch).workers := by
    funext i
    rcases Nat.lt_or_ge i t.workerCount with hi | hi
    · by_cases hmem : ∃ st, ((t.workers i).pid, st) ∈ batch
      · obtain ⟨st, hst⟩ := hmem
        rw [daemonReapZombies_hit hd hi hpos hnd hst,
          daemonReapZombies_hit hd hi hpos' hnd' (hperm.mem_iff.mpr hst)]
      · have hmiss : ∀ r ∈ batch, (t.workers i).pid ≠ r.1 := fun r hr heq =>
          hmem ⟨r.2, by rwa [heq]⟩
        rw [daemonReapZombies_miss hmiss,
          daemonReapZombies_miss fun r hr => hmiss r (hperm.mem_iff.mp hr)]
    · rw [daemonReapZombies_above batch hi, daemonReapZombies_above batch' hi]
  have hcount : (daemonReapZombies t batch').workerCount
      = (daemonReapZombies t batch).workerCount := by
    rw [daemonReapZombies_workerCount, daemonReapZombies_workerCount]
  exact congrArg₂ WorkerTable.mk hslots hcount

/-- **One call handles any batch of exits.**  Signals may have been merged, so the batch can have
any length, and it may hold pids of no slot.  Every slot below `worker_count` whose pid is
reported is emptied with the status its exit calls for, nothing else in the table changes, and
any other order of the same reports leaves the same table. -/
theorem reap_batch_exact {t : WorkerTable} {batch : List (ℤ × WaitStatus)}
    (hd : DistinctPids t) (hpos : ∀ r ∈ batch, 0 < r.1) (hnd : (batch.map Prod.fst).Nodup) :
    (∀ i st, i < t.workerCount → ((t.workers i).pid, st) ∈ batch →
      (daemonReapZombies t batch).workers i = { t.workers i with
        pid := 0, status := if st.ifExited then .idle else .failed }) ∧
    (∀ i, t.workerCount ≤ i ∨ (t.workers i).pid ∉ batch.map Prod.fst →
      (daemonReapZombies t batch).workers i = t.workers i) ∧
    (daemonReapZombies t batch).workerCount = t.workerCount ∧
    ∀ batch', batch'.Perm batch → daemonReapZombies t batch' = daemonReapZombies t batch := by
  refine ⟨fun i st hi hmem => ?_, fun i hi => ?_, daemonReapZombies_workerCount t batch,
    fun batch' hperm => daemonReapZombies_perm hd hpos hnd hperm⟩
  · rw [daemonReapZombies_hit hd hi hpos hnd hmem, reapedStatus_eq]
    rfl
  · rcases hi with hi | hi
    · exact daemonReapZombies_above batch hi
    · exact daemonReapZombies_miss fun r hr heq => hi (List.mem_map.mpr ⟨r, hr, heq.symm⟩)

/-- Three workers, the middle one already gone. -/
def threeWorkers : WorkerTable :=
  ⟨fun i => [⟨100, .busy, 5, []⟩, ⟨0, .idle, 6, []⟩, ⟨102, .busy, 7, []⟩].getD i .zero, 3⟩

lemma threeWorkers_distinct : DistinctPids threeWorkers := by
  have hall : ∀ i < 3, ∀ j < 3, 0 < (threeWorkers.workers i).pid →
      (threeWorkers.workers i).pid = (threeWorkers.workers j).pid → i = j := by decide
  exact fun i j hi hj => hall i hi j hj

/-- The last worker was killed, the first one exited, and 999 is a child of no slot. -/
def mergedExits : List (ℤ × WaitStatus) := [(102, .signaled 9), (999, .exited 0), (100, .exited 3)]

/-- Two exits in one SIGCHLD, in either order. -/
theorem reap_batch_exact_merged :
    (daemonReapZombies threeWorkers mergedExits).workers 0 = ⟨0, .idle, 5, []⟩ ∧
      (daemonReapZombies threeWorkers mergedExits).workers 1 = ⟨0, .idle, 6, []⟩ ∧
      (daemonReapZombies threeWorkers mergedExits).workers 2 = ⟨0, .failed, 7, []⟩ ∧
      daemonReapZombies threeWorkers mergedExits.reverse
        = daemonReapZombies threeWorkers mergedExits := by
  obtain ⟨hhit, hmiss, -, hperm⟩ := @reap_batch_exact threeWorkers mergedExits
    threeWorkers_distinct (by decide) (by decide)
  exact ⟨hhit 0 (.exited 3) (by decide) (by decide), hmiss 1 (Or.inr (by decide)),
    hhit 2 (.signaled 9) (by decide) (by decide), hperm _ (List.reverse_perm _)⟩

/-! ## `daemon_spawn_worker` -/

/-- How a call ends; only the last returns 0. -/
inductive SpawnResult
  | full
  | forkFailed
  | spawned
  deriving DecidableEq, Repr

/-- The text `snprintf` leaves in `task[256]`. -/
def workerTask (i : ℕ) : CStr := fit 256 ("Worker task ".toList ++ decimal i)

/-- `daemon_spawn_worker` in the parent, with the result of `fork` and of `time`. -/
def daemonSpawnWorker (t : WorkerTable) (fork : Option ℤ) (now : ℤ) :
    WorkerTable × SpawnResult :=
  if maxWorkers ≤ t.workerCount then (t, .full)
  else match fork with
    | none => (t, .forkFailed)
    | some pid =>
        ({ t.set t.workerCount ⟨pid, .busy, now, workerTask t.workerCount⟩ with
            workerCount := t.workerCount + 1 }, .spawned)

/-! ## `daemon_monitor_workers` -/

/-- `kill` returns 0, or -1 with `errno` equal to `ESRCH` or to something else. -/
inductive KillResult
  | ok
  | esrch
  | other
  deriving DecidableEq, Repr

/-- What the loop of `daemon_monitor_workers` works on: the table, `active_count`, and the
caller's array. -/
structure Monitor where
  table : WorkerTable
  active : ℕ
  workerList : ℕ → Worker

/-- One iteration: probe slot `i`, empty it on `ESRCH`, copy it to the caller if it fits. -/
def monitorSlot (kill : ℤ → KillResult) (count : ℤ) (m : Monitor) (i : ℕ) : Monitor :=
  if 0 < (m.table.workers i).pid then
    let m' : Monitor := match kill (m.table.workers i).pid with
      | .ok => { m with active := m.active + 1 }
      | .esrch => { m with table := m.table.set i ((m.table.workers i).vacate .failed) }
      | .other => m
    if (i : ℤ) < count then
      { m' with workerList := Function.update m'.workerList i (m'.table.workers i) }
    else m'
  else m

/-- `daemon_monitor_workers` with a non-null `worker_list`; the count it returns is `active`. -/
def daemonMonitorWorkers (kill : ℤ → KillResult) (t : WorkerTable) (workerList : ℕ → Worker)
    (count : ℤ) : Monitor :=
  (List.range (min t.workerCount maxWorkers)).foldl (monitorSlot kill count) ⟨t, 0, workerList⟩

lemma monitorSlot_workerCount (kill : ℤ → KillResult) (count : ℤ) (m : Monitor) (i : ℕ) :
    (monitorSlot kill count m i).table.workerCount = m.table.workerCount := by
  unfold monitorSlot
  split
  · cases kill (m.table.workers i).pid <;> dsimp only <;> split <;> rfl
  · rfl

@[simp] lemma daemonMonitorWorkers_workerCount (kill : ℤ → KillResult) (t : WorkerTable)
    (workerList : ℕ → Worker) (count : ℤ) :
    (daemonMonitorWorkers kill t workerList count).table.workerCount = t.workerCount := by
  have hfold : ∀ (is : List ℕ) (m : Monitor),
      (is.foldl (monitorSlot kill count) m).table.workerCount = m.table.workerCount := by
    intro is
    induction is with
    | nil => intro m; rfl
    | cons i is ih => intro m; rw [List.foldl_cons, ih, monitorSlot_workerCount]
  exact hfold _ _

/-! ## The kernel's side -/

/-- A child that was forked and not yet reaped.  `birth` numbers the successful forks; `exit` is
set once the child is a zombie. -/
structure Child where
  birth : ℕ
  pid : ℤ
  exit : Option WaitStatus
  deriving DecidableEq, Repr

/-- The unreaped children, the number of forks so far, and how each child ended. -/
structure Kernel where
  children : List Child
  births : ℕ
  fate : ℕ → Option WaitStatus

/-- No child was ever forked. -/
def Kernel.boot : Kernel := ⟨[], 0, fun _ => none⟩

/-- The pids of the unreaped children. -/
def Kernel.pids (k : Kernel) : List ℤ := k.children.map Child.pid

/-- A pid `fork` may return: positive and of no unreaped child.  A reaped pid may come back. -/
def Kernel.Free (k : Kernel) (pid : ℤ) : Prop := 0 < pid ∧ pid ∉ k.pids

instance (k : Kernel) (pid : ℤ) : Decidable (k.Free pid) :=
  inferInstanceAs (Decidable (_ ∧ _))

/-- A child is born with this pid and the next number. -/
def Kernel.fork (k : Kernel) (pid : ℤ) : Kernel :=
  { k with children := k.children ++ [⟨k.births, pid, none⟩], births := k.births + 1 }

/-- The child `birth` terminates with `st`; refused unless it is running. -/
def Kernel.exit (k : Kernel) (birth : ℕ) (st : WaitStatus) : Option Kernel :=
  if ∃ c ∈ k.children, c.birth = birth ∧ c.exit = none then
    some { k with
      children := k.children.map fun c => if c.birth = birth then { c with exit := some st } else c
      fate := Function.update k.fate birth (some st) }
  else none

/-- The pairs a `waitpid` loop collects, up to their order. -/
def Kernel.zombies (k : Kernel) : List (ℤ × WaitStatus) :=
  k.children.filterMap fun c => c.exit.map fun st => (c.pid, st)

/-- The children that have ended are collected. -/
def Kernel.reap (k : Kernel) : Kernel :=
  { k with children := k.children.filter fun c => c.exit.isNone }

/-- The result of `kill`: pid 0 is the caller's own group and an unreaped child exists even as a
zombie; about any other pid the kernel may say anything (`r`). -/
def Kernel.kill (k : Kernel) (p : ℤ) (r : KillResult) : KillResult :=
  if p = 0 ∨ p ∈ k.pids then .ok else r

/-! ## The functions one at a time -/

/-- The daemon's table together with its children. -/
structure WorkerPool where
  table : WorkerTable
  kernel : Kernel

/-- A call of one of the table functions, or the end of a child. -/
inductive TableAct
  | spawn (fork : Option ℤ) (now : ℤ)
  | exit (birth : ℕ) (st : WaitStatus)
  | reap (batch : List (ℤ × WaitStatus))
  | monitor (kill : ℤ → KillResult) (workerList : ℕ → Worker) (count : ℤ)

/-- One call of a table function, or one child exit. -/
def tableStep (s : WorkerPool) : TableAct → Option WorkerPool
  | .spawn fork now =>
      match daemonSpawnWorker s.table fork now, fork with
      | (t, .spawned), some pid => if s.kernel.Free pid then some ⟨t, s.kernel.fork pid⟩ else none
      | (t, _), _ => some { s with table := t }
  | .exit birth st => (s.kernel.exit birth st).map fun k => { s with kernel := k }
  | .reap batch =>
      if batch.Perm s.kernel.zombies then some ⟨daemonReapZombies s.table batch, s.kernel.reap⟩
      else none
  | .monitor kill workerList count =>
      some { s with
        table := (daemonMonitorWorkers (fun p => s.kernel.kill p (kill p)) s.table workerList
          count).table }

/-- No worker and no child. -/
def poolInit (s : WorkerPool) : Prop := s = ⟨.empty, .boot⟩

/-- The next call gets past the capacity test, and if `fork` then succeeds the new pid is
recorded as busy in some slot. -/
def SpawnAccepted (t : WorkerTable) : Prop :=
  ∀ (fork : Option ℤ) (now : ℤ),
    (daemonSpawnWorker t fork now).2 ≠ .full ∧
      ∀ pid, fork = some pid → ∃ i < maxWorkers,
        ((daemonSpawnWorker t fork now).1.workers i).pid = pid ∧
          ((daemonSpawnWorker t fork now).1.workers i).status = .busy

lemma spawnAccepted_iff_workerCount (t : WorkerTable) :
    SpawnAccepted t ↔ t.workerCount < maxWorkers := by
  constructor
  · intro h
    by_contra hfull
    exact (h none 0).1 (by simp [daemonSpawnWorker, Nat.le_of_not_lt hfull])
  · intro hlt fork now
    have hcap : ¬ maxWorkers ≤ t.workerCount := Nat.not_le_of_lt hlt
    refine ⟨?_, ?_⟩
    · cases fork <;> simp [daemonSpawnWorker, hcap]
    · rintro pid rfl
      refine ⟨t.workerCount, hlt, ?_⟩
      simp [daemonSpawnWorker, hcap]

/-- Everything a call or an exit can do. -/
lemma tableStep_cases {s s' : WorkerPool} {a : TableAct} (hs : tableStep s a = some s') :
    s' = s ∨
      (∃ pid now, s.table.workerCount < maxWorkers ∧ s.kernel.Free pid ∧
        s' = ⟨(daemonSpawnWorker s.table (some pid) now).1, s.kernel.fork pid⟩) ∨
      (∃ birth st k, s.kernel.exit birth st = some k ∧ s' = { s with kernel := k }) ∨
      (∃ batch, batch.Perm s.kernel.zombies ∧
        s' = ⟨daemonReapZombies s.table batch, s.kernel.reap⟩) ∨
      ∃ (kill : ℤ → KillResult) (workerList : ℕ → Worker) (count : ℤ), s' = { s with
        table := (daemonMonitorWorkers (fun p => s.kernel.kill p (kill p)) s.table workerList
          count).table } := by
  cases a with
  | spawn fork now =>
      by_cases hfull : maxWorkers ≤ s.table.workerCount
      · simp only [tableStep, daemonSpawnWorker, if_pos hfull, Option.some.injEq] at hs
        exact Or.inl hs.symm
      · cases fork with
        | none =>
            simp only [tableStep, daemonSpawnWorker, if_neg hfull, Option.some.injEq] at hs
            exact Or.inl hs.symm
        | some pid =>
            simp only [tableStep, daemonSpawnWorker, if_neg hfull] at hs
            split_ifs at hs with hfree
            rw [Option.some.injEq] at hs
            refine Or.inr (Or.inl ⟨pid, now, Nat.lt_of_not_le hfull, hfree, ?_⟩)
            simp only [daemonSpawnWorker, if_neg hfull]
            exact hs.symm
  | exit birth st =>
      obtain ⟨k, hk, hs⟩ := Option.map_eq_some_iff.mp hs
      exact Or.inr (Or.inr (Or.inl ⟨birth, st, k, hk, hs.symm⟩))
  | reap batch =>
      simp only [tableStep] at hs
      split_ifs at hs with hbatch
      rw [Option.some.injEq] at hs
      exact Or.inr (Or.inr (Or.inr (Or.inl ⟨batch, hbatch, hs.symm⟩)))
  | monitor kill workerList count =>
      simp only [tableStep, Option.some.injEq] at hs
      exact Or.inr (Or.inr (Or.inr (Or.inr ⟨kill, workerList, count, hs.symm⟩)))

/-- `worker_count` is the number of forks ever made: no operation lowers it. -/
lemma tableStep_count {s s' : WorkerPool} {a : TableAct}
    (h : s.table.workerCount = s.kernel.births) (hs : tableStep s a = some s') :
    s'.table.workerCount = s'.kernel.births := by
  rcases tableStep_cases hs with rfl | ⟨pid, now, hcap, -, rfl⟩ | ⟨birth, st, k, hk, rfl⟩ |
    ⟨batch, -, rfl⟩ | ⟨kill, workerList, count, rfl⟩
  · exact h
  · rw [daemonSpawnWorker, if_neg (Nat.not_le_of_lt hcap)]
    exact congrArg (· + 1) h
  · unfold Kernel.exit at hk
    split_ifs at hk
    rw [Option.some.injEq] at hk
    rw [← hk]
    exact h
  · exact (daemonReapZombies_workerCount _ _).trans h
  · exact (daemonMonitorWorkers_workerCount _ _ _ _).trans h

/-- The same in every state the functions can reach. -/
lemma workerCount_of_reach {s : WorkerPool} (h : Reach poolInit tableStep anyStep s) :
    s.table.workerCount = s.kernel.births := by
  refine h.invariant (I := fun s => s.table.workerCount = s.kernel.births) ?_ ?_
  · rintro s rfl; rfl
  · exact fun s a s' hI _ hs => tableStep_count hI hs

/-- **The capacity test counts forks, not workers.**  In every state the functions can reach, the
next call of `daemon_spawn_worker` is accepted while some slot holds no pid exactly when fewer than
`MAX_WORKERS` children were ever forked, or when there is no such slot: one that a finished worker
left is not used again. -/
theorem spawn_accepted_iff {s : WorkerPool} (h : Reach poolInit tableStep anyStep s) :
    (s.table.live < maxWorkers → SpawnAccepted s.table) ↔
      s.kernel.births < maxWorkers ∨ maxWorkers ≤ s.table.live := by
  rw [spawnAccepted_iff_workerCount, workerCount_of_reach h, imp_iff_not_or, not_lt, or_comm]

/-- A worker that is spawned, finishes and is reaped. -/
def workerCycle (n : ℕ) : List TableAct :=
  [.spawn (some (100 + n)) 0, .exit n (.exited 0), .reap [(100 + (n : ℤ), .exited 0)]]

/-- Three workers that came and went, then two of which the second has finished. -/
def fiveWorkers : List TableAct := (List.range 3).flatMap workerCycle ++
  [.spawn (some 103) 0, .spawn (some 104) 0, .exit 4 (.signaled 9), .reap [(104, .signaled 9)]]

lemma fiveWorkers_run : (run tableStep ⟨.empty, .boot⟩ fiveWorkers).map
    (fun s => (s.table.live, s.kernel.births)) = some (1, 5) := by
  decide +kernel

/-- Then one slot holds a pid, five children were forked and the next call is accepted. -/
theorem spawn_accepted_iff_fifth :
    ∃ s, run tableStep ⟨.empty, .boot⟩ fiveWorkers = some s ∧ s.table.live = 1 ∧
      s.kernel.births = 5 ∧ SpawnAccepted s.table := by
  obtain ⟨s, hrun, hs⟩ := Option.map_eq_some_iff.mp fiveWorkers_run
  obtain ⟨hlive, hbirths⟩ := Prod.mk.inj hs
  have hstart : Reach poolInit tableStep anyStep ⟨.empty, .boot⟩ := .start rfl
  have hfew : s.kernel.births < maxWorkers := by rw [hbirths]; decide
  exact ⟨s, hrun, hlive, hbirths,
    (spawn_accepted_iff (hstart.of_run_any hrun)).mpr (.inl hfew) (by rw [hlive]; decide)⟩

/-- Ten workers that came and went one after the other. -/
def tenWorkers : List TableAct := (List.range 10).flatMap workerCycle

lemma tenWorkers_run : (run tableStep ⟨.empty, .boot⟩ tenWorkers).map
    (fun s => (s.table.live, s.table.workerCount)) = some (0, 10) := by
  decide +kernel

/-- After ten workers that all finished and were reaped no slot holds a pid, and yet the next
call is refused. -/
theorem spawn_refused_when_idle :
    ¬ ∀ s, Reach poolInit tableStep anyStep s → s.table.live < maxWorkers →
      SpawnAccepted s.table := by
  intro hclaim
  obtain ⟨s, hrun, hs⟩ := Option.map_eq_some_iff.mp tenWorkers_run
  rw [Prod.mk.injEq] at hs
  have hstart : Reach poolInit tableStep anyStep ⟨.empty, .boot⟩ := .start rfl
  have hacc := hclaim s (hstart.of_run_any hrun) (by rw [hs.1]; decide)
  rw [spawnAccepted_iff_workerCount, hs.2] at hacc
  exact absurd hacc (by decide)

end Storage

import StorageManager.Daemon.WorkerRaces
import StorageManager.Lib.Slots

/-!
# What the monitor hands back

`daemon_monitor_workers` returns how many workers are active and copies them to the caller's array.
The number counts the slots whose process exists; the copies go to the places the slots have in the
table.

* `pool_ok` — the functions one at a time keep the table in order, so that a slot with a pid has a
  process.
* `daemonMonitorWorkers_of_alive` — a call on such a table.
* `monitor_hands_back_iff` — a caller that goes up to the returned number sees each active worker
  once exactly if no slot in front of one in use is free.
-/

namespace Storage

open CString Machine

/-- The slots whose process exists; a zombie does until it is reaped. -/
def WorkerPool.existing (s : WorkerPool) : List ℕ :=
  (List.range maxWorkers).filter fun i => decide ((s.table.workers i).pid ∈ s.kernel.pids)

/-- Whatever the caller's array had in it, its first `active` entries are the workers whose process
exists. -/
def HandsBackActive (s : WorkerPool) : Prop :=
  ∀ (kill : ℤ → KillResult) (workerList : ℕ → Worker) (count : ℤ), (maxWorkers : ℤ) ≤ count →
    let m := daemonMonitorWorkers (fun p => s.kernel.kill p (kill p)) s.table workerList count
    ((List.range m.active).map m.workerList).Perm (s.existing.map m.table.workers)

/-! ## The table between two calls -/

/-- The table against the kernel between two calls; the slots that were never filled are still
zero. -/
structure PoolOk (s : WorkerPool) : Prop where
  table : ∃ slotChild, TableOk s.table s.kernel slotChild
  count_le : s.table.workerCount ≤ maxWorkers
  zero : ∀ i, s.table.workerCount ≤ i → s.table.workers i = .zero

/-- The loop up to slot `n`, when all processes are found. -/
lemma foldl_monitorSlot {kill : ℤ → KillResult} {t : WorkerTable} (workerList : ℕ → Worker)
    (count : ℤ) {n : ℕ} (halive : ∀ i < n, 0 < (t.workers i).pid → kill (t.workers i).pid = .ok) :
    (List.range n).foldl (monitorSlot kill count) ⟨t, 0, workerList⟩ =
      ⟨t, ((List.range n).filter fun i => decide (0 < (t.workers i).pid)).length,
        fun i => if i < n ∧ 0 < (t.workers i).pid ∧ (i : ℤ) < count then t.workers i
          else workerList i⟩ := by
  induction n with
  | zero => simp
  | succ n ih =>
      rw [List.range_succ, List.foldl_append, List.foldl_cons, List.foldl_nil,
        ih fun i hi => halive i (hi.trans (Nat.lt_succ_self n)), List.filter_append,
        List.length_append]
      have hother : ∀ {i}, i ≠ n → (i < n + 1 ↔ i < n) := fun hi => by omega
      by_cases hpos : 0 < (t.workers n).pid
      · simp only [monitorSlot, if_pos hpos, halive n (Nat.lt_succ_self n) hpos]
        split_ifs with hfits
        · refine congrArg₂ (Monitor.mk t) (by simp [hpos]) (funext fun i => ?_)
          by_cases hi : i = n
          · simp [hi, hpos, hfits]
          · simp [Function.update_of_ne hi, hother hi]
        · refine congrArg₂ (Monitor.mk t) (by simp [hpos]) (funext fun i => ?_)
          by_cases hi : i = n
          · simp [hi, hfits]
          · simp [hother hi]
      · simp only [monitorSlot, if_neg hpos]
        refine congrArg₂ (Monitor.mk t) (by simp [hpos]) (funext fun i => ?_)
        by_cases hi : i = n
        · simp [hi, hpos]
        · simp [hother hi]

section Pool

variable {s s' : WorkerPool}

/-- A slot with a pid has a process, and the other way round. -/
lemma PoolOk.mem_pids_iff (h : PoolOk s) (i : ℕ) :
    (s.table.workers i).pid ∈ s.kernel.pids ↔ 0 < (s.table.workers i).pid := by
  obtain ⟨slotChild, htable⟩ := h.table
  constructor
  · intro hmem
    obtain ⟨c, hc, hp⟩ := List.mem_map.mp hmem
    rw [← hp]
    exact htable.kernel.pids_pos c hc
  · intro hpos
    rcases Nat.lt_or_ge i s.table.workerCount with hi | hi
    · obtain ⟨c, hc, -, hp⟩ := htable.child_of_pos hi hpos
      rw [← hp]
      exact Kernel.mem_pids hc
    · rw [h.zero i hi] at hpos
      exact absurd hpos (lt_irrefl _)

lemma PoolOk.existing_eq (h : PoolOk s) :
    s.existing = (List.range s.table.workerCount).filter
      fun i => decide (0 < (s.table.workers i).pid) := by
  rw [WorkerPool.existing, ← Slots.filter_range_of_lt h.count_le]
  · exact List.filter_congr fun i _ => decide_eq_decide.mpr (h.mem_pids_iff i)
  · intro i hpos
    by_contra hi
    rw [h.zero i (Nat.le_of_not_lt hi)] at hpos
    exact absurd (of_decide_eq_true hpos) (lt_irrefl _)

lemma PoolOk.mem_existing_iff (h : PoolOk s) (i : ℕ) :
    i ∈ s.existing ↔ 0 < (s.table.workers i).pid := by
  rw [WorkerPool.existing, List.mem_filter, decide_eq_true_iff, h.mem_pids_iff, List.mem_range,
    and_iff_right_iff_imp]
  intro hpos
  by_contra hi
  rw [h.zero i (h.count_le.trans (Nat.le_of_not_lt hi))] at hpos
  exact absurd hpos (lt_irrefl _)

/-- A call finds every process: the table stays as it is, the slots in use are counted, and each of
them is copied to its own place. -/
lemma PoolOk.monitor_eq (h : PoolOk s) (kill : ℤ → KillResult) (workerList : ℕ → Worker)
    (count : ℤ) :
    daemonMonitorWorkers (fun p => s.kernel.kill p (kill p)) s.table workerList count =
      ⟨s.table, s.existing.length,
        fun i => if i < s.table.workerCount ∧ 0 < (s.table.workers i).pid ∧ (i : ℤ) < count then
          s.table.workers i else workerList i⟩ := by
  have halive : ∀ i, 0 < (s.table.workers i).pid →
      s.kernel.kill (s.table.workers i).pid (kill (s.table.workers i).pid) = .ok := fun i hpos =>
    if_pos (Or.inr ((h.mem_pids_iff i).mpr hpos))
  rw [daemonMonitorWorkers, Nat.min_eq_left h.count_le, foldl_monitorSlot _ _ fun i _ => halive i,
    h.existing_eq]

lemma PoolOk.spawn (h : PoolOk s) {pid : ℤ} (now : ℤ) (hcap : s.table.workerCount < maxWorkers)
    (hfree : s.kernel.Free pid) :
    PoolOk ⟨(daemonSpawnWorker s.table (some pid) now).1, s.kernel.fork pid⟩ := by
  obtain ⟨slotChild, htable⟩ := h.table
  rw [daemonSpawnWorker, if_neg (Nat.not_le_of_lt hcap)]
  refine ⟨⟨Function.update slotChild s.table.workerCount s.kernel.births, ?_⟩, hcap,
    fun i hi => ?_⟩
  · have hnext : TableOk (s.table.set s.table.workerCount
        ⟨pid, .busy, now, workerTask s.table.workerCount⟩) (s.kernel.fork pid)
        (Function.update slotChild s.table.workerCount s.kernel.births) :=
      ((htable.fork hfree).set_next _).congr rfl (fun _ _ => rfl) fun i hi =>
        Function.update_of_ne (Nat.ne_of_lt hi) _ _
    refine hnext.register ⟨⟨_, List.mem_append_right _ (List.mem_singleton_self _), rfl, rfl⟩,
      fun i hi => ?_, fun _ => ⟨?_, Function.update_self ..⟩, fun _ _ => ?_⟩
    · have hold : Function.update slotChild s.table.workerCount s.kernel.births i = slotChild i :=
        Function.update_of_ne (Nat.ne_of_lt hi) _ _
      rw [hold]
      exact Nat.ne_of_lt (htable.lt i hi)
    · simp
    · simp
  · have hne : i ≠ s.table.workerCount := (Nat.lt_of_succ_le hi).ne'
    rw [← h.zero i (Nat.le_of_succ_le hi)]
    exact s.table.set_of_ne _ hne

lemma PoolOk.step (h : PoolOk s) {a : TableAct} (hs : tableStep s a = some s') : PoolOk s' := by
  obtain ⟨slotChild, htable⟩ := h.table
  rcases tableStep_cases hs with rfl | ⟨pid, now, hcap, hfree, rfl⟩ | ⟨birth, st, k, hk, rfl⟩ |
    ⟨batch, hbatch, rfl⟩ | ⟨kill, workerList, count, rfl⟩
  · exact h
  · exact h.spawn now hcap hfree
  · exact ⟨⟨slotChild, htable.exit hk⟩, h.count_le, h.zero⟩
  · refine ⟨⟨slotChild, htable.reap hbatch⟩, ?_, fun i hi => ?_⟩
    · rw [daemonReapZombies_workerCount]
      exact h.count_le
    · rw [daemonReapZombies_workerCount] at hi
      rw [daemonReapZombies_above batch hi]
      exact h.zero i hi
  · rw [h.monitor_eq]
    exact h

lemma pool_ok (h : Reach poolInit tableStep anyStep s) : PoolOk s := by
  refine h.invariant (I := PoolOk) ?_ fun s a s' hI _ hs => hI.step hs
  rintro s rfl
  refine ⟨⟨fun _ => 0, ⟨Kernel.boot_ok, ?_, ?_, ?_⟩⟩, Nat.zero_le _, fun _ _ => rfl⟩
  all_goals simp [WorkerTable.empty]

/-- The first `active` entries are the existing workers just if these are in the first slots. -/
lemma PoolOk.handsBackActive_iff_perm (h : PoolOk s) :
    HandsBackActive s ↔ s.existing.Perm (List.range s.existing.length) := by
  unfold HandsBackActive
  simp only [h.monitor_eq]
  constructor
  · intro hback
    -- on an array of zeros, an entry that has a pid was copied
    have hzero := hback (fun _ => .ok) (fun _ => .zero) maxWorkers le_rfl
    have hsub : List.range s.existing.length ⊆ s.existing := by
      intro i hi
      by_contra hfree
      rw [h.mem_existing_iff] at hfree
      have hentry := hzero.mem_iff.mp (List.mem_map_of_mem hi)
      rw [if_neg fun hcopied => hfree hcopied.2.1] at hentry
      obtain ⟨j, hj, hzero⟩ := List.mem_map.mp hentry
      rw [h.mem_existing_iff, hzero] at hj
      exact absurd hj (lt_irrefl _)
    exact ((List.nodup_range.subperm hsub).perm_of_length_le (by rw [List.length_range])).symm
  · intro hperm kill workerList count hcount
    refine List.Perm.trans (List.Perm.of_eq ?_) (hperm.map s.table.workers).symm
    refine List.map_congr_left fun i hi => if_pos ?_
    have hex := hperm.mem_iff.mpr hi
    have hlt : i < maxWorkers := List.mem_range.mp (List.mem_filter.mp hex).1
    have hpos := (h.mem_existing_iff i).mp hex
    refine ⟨?_, hpos, by omega⟩
    by_contra hge
    rw [h.zero i (Nat.le_of_not_lt hge)] at hpos
    exact absurd hpos (lt_irrefl _)

lemma PoolOk.handsBackActive_iff (h : PoolOk s) :
    HandsBackActive s ↔
      ∀ i j, i < j → 0 < (s.table.workers j).pid → 0 < (s.table.workers i).pid := by
  have hnodup : s.existing.Nodup := List.nodup_range.filter _
  rw [h.handsBackActive_iff_perm, Slots.perm_range_length_iff hnodup]
  simp only [h.mem_existing_iff]

end Pool

/-- **A caller that goes up to the returned number sees each active worker once** exactly if no
free slot stands in front of one that has a pid: what follows a free slot is copied past the end. -/
theorem monitor_hands_back_iff {s : WorkerPool} (h : Reach poolInit tableStep anyStep s) :
    HandsBackActive s ↔
      ∀ i j, i < j → 0 < (s.table.workers j).pid → 0 < (s.table.workers i).pid :=
  (pool_ok h).handsBackActive_iff

/-- Three workers, of which the last has finished. -/
def lastFinished : List TableAct :=
  [.spawn (some 100) 0, .spawn (some 101) 0, .spawn (some 102) 0, .exit 2 (.exited 0),
    .reap [(102, .exited 0)]]

lemma lastFinished_run : (run tableStep ⟨.empty, .boot⟩ lastFinished).map
    (fun s => (s.table.workerCount, (List.range 3).map fun i => (s.table.workers i).pid))
      = some (3, [100, 101, 0]) := by
  decide +kernel

/-- The two that are left are in front, and the caller sees them. -/
theorem monitor_hands_back_two :
    ∃ s, run tableStep ⟨.empty, .boot⟩ lastFinished = some s ∧
      (List.range 3).map (fun i => (s.table.workers i).pid) = [100, 101, 0] ∧
      HandsBackActive s := by
  obtain ⟨s, hrun, hs⟩ := Option.map_eq_some_iff.mp lastFinished_run
  obtain ⟨hcount, hpids⟩ := Prod.mk.inj hs
  have hstart : Reach poolInit tableStep anyStep ⟨.empty, .boot⟩ := .start rfl
  have hreach := hstart.of_run_any hrun
  refine ⟨s, hrun, hpids, (monitor_hands_back_iff hreach).mpr fun i j hij hpos => ?_⟩
  simp only [List.range, List.range.loop, List.map_cons, List.map_nil, List.cons.injEq, and_true]
    at hpids
  -- a slot that holds a pid is one of the first two, so only the first stands in front of one
  have hj : j < 3 := by
    by_contra hge
    rw [(pool_ok hreach).zero j (by omega)] at hpos
    exact absurd hpos (lt_irrefl _)
  have hj2 : j ≠ 2 := by
    rintro rfl
    omega
  obtain rfl : i = 0 := by omega
  omega

/-- Two workers, of which the first has finished. -/
def firstFinished : List TableAct :=
  [.spawn (some 100) 0, .spawn (some 101) 0, .exit 0 (.exited 0), .reap [(100, .exited 0)]]

lemma firstFinished_run : (run tableStep ⟨.empty, .boot⟩ firstFinished).map
    (fun s => ((s.table.workers 0).pid, (s.table.workers 1).pid)) = some (0, 101) := by
  decide +kernel

/-- One worker is active, and the entry the caller looks at is not this one. -/
theorem monitor_copy_missed :
    ¬ ∀ s, Reach poolInit tableStep anyStep s → HandsBackActive s := by
  intro hclaim
  obtain ⟨s, hrun, hs⟩ := Option.map_eq_some_iff.mp firstFinished_run
  rw [Prod.mk.injEq] at hs
  have hstart : Reach poolInit tableStep anyStep ⟨.empty, .boot⟩ := .start rfl
  have hreach := hstart.of_run_any hrun
  have hpos := (pool_ok hreach).handsBackActive_iff.mp (hclaim s hreach) 0 1 Nat.zero_lt_one
    (by rw [hs.2]; decide)
  rw [hs.1] at hpos
  exact absurd hpos (lt_irrefl _)

end Storage

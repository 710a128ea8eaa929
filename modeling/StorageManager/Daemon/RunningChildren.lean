import StorageManager.Daemon.WorkerSlots

/-!
# The children that are running

`Daemon/WorkerRaces.lean` needs SIGCHLD to stay out of two windows before it can say that the table
is right.  About the children that are still *running* the table is right in every interleaving: a
handler run only empties slots whose pid it has just reaped, and the pid of a running child is none
of those.  A stale pid may be left in a slot, and it may come back as the pid of a new child, but
the new child then has a slot of its own.

* `Tracked` — a running child is in the slot of its number, or between `fork` and `worker_count++`.
* `Tracked.step` — every step keeps that, with no condition on the handler.
* `Tracked.kill_target`, `Tracked.gone_of_kill`, `Tracked.gone_of_empty` — what a loop over the
  table therefore knows about the slot it has just passed.
* `running_child_recorded` — between two calls every running child is recorded, in a slot that says
  it is busy.
-/

namespace Storage

open CString Machine

/-- A running child is marked by its exit and counts no more. -/
lemma Child.mark_running {birth : ℕ} {st : WaitStatus} {c : Child}
    (h : (c.mark birth st).exit = none) : c.mark birth st = c := by
  unfold Child.mark at h ⊢
  split_ifs at h ⊢
  rfl

/-- The running children after an exit were running before. -/
lemma Kernel.mem_exit {k k' : Kernel} {birth : ℕ} {st : WaitStatus}
    (h : k.exit birth st = some k') {c : Child} (hc : c ∈ k'.children) (hrun : c.exit = none) :
    c ∈ k.children := by
  rw [(Kernel.exit_some h).2.1] at hc
  obtain ⟨d, hd, rfl⟩ := List.mem_map.mp hc
  rwa [Child.mark_running hrun]

/-- What the main thread knows at its program counter.  The number of the next child is
`worker_count`, but for the child that is being registered; the slot that is probed holds the
argument of `kill` or has been emptied since; and a slot is only given up when its pid belongs to
no child. -/
def TrackPc (t : WorkerTable) (k : Kernel) : Pc → Prop
  | .fork => k.births = t.workerCount ∧ t.workerCount < maxWorkers
  | .spawn w pid birth =>
      k.births = t.workerCount + 1 ∧ birth = t.workerCount ∧ t.workerCount < maxWorkers ∧
        (∀ c ∈ k.children, c.birth = birth → c.pid = pid) ∧
        (w ≠ .pid → (t.workers t.workerCount).pid = pid) ∧
        (w ≠ .pid → w ≠ .status → (t.workers t.workerCount).status = .busy)
  | .kill _ i p =>
      k.births = t.workerCount ∧ ((t.workers i).pid = p ∨ (t.workers i).pid = 0)
  | .failStatus i | .failPid i => k.births = t.workerCount ∧ (t.workers i).pid ∉ k.pids
  | _ => k.births = t.workerCount

/-- The slot of its number shows the child as a busy worker. -/
def Child.RecordedIn (c : Child) (t : WorkerTable) : Prop :=
  (t.workers c.birth).pid = c.pid ∧ (t.workers c.birth).status = .busy

lemma Child.RecordedIn.congr {c : Child} {t t' : WorkerTable} (h : c.RecordedIn t)
    (hw : t'.workers c.birth = t.workers c.birth) : c.RecordedIn t' := by
  rwa [Child.RecordedIn, hw]

/-- The invariant: every running child below `worker_count` is in the slot of its number, and at
most one more has just been forked. -/
structure Tracked (s : Daemon) : Prop where
  kernel : s.kernel.Ok
  slot : ∀ c ∈ s.kernel.children, c.exit = none → c.birth < s.table.workerCount →
    c.RecordedIn s.table
  capacity : s.table.workerCount ≤ maxWorkers
  pc : TrackPc s.table s.kernel s.pc

lemma tracked_init {s : Daemon} (h : daemonInitial s) : Tracked s := by
  obtain ⟨ht, hk, hpc⟩ := h
  refine ⟨by rw [hk]; exact Kernel.boot_ok, ?_, ?_, ?_⟩
  · simp [hk, Kernel.boot]
  · simp [ht, WorkerTable.empty]
  · simp [hpc, hk, ht, TrackPc, WorkerTable.empty, Kernel.boot]

lemma Kernel.Ok.zero_notMem {k : Kernel} (h : k.Ok) : (0 : ℤ) ∉ k.pids := by
  intro hmem
  obtain ⟨c, hc, hp⟩ := List.mem_map.mp hmem
  exact absurd (h.pids_pos c hc) (by omega)

/-- A running child is none of those a batch reports. -/
lemma Kernel.Ok.running_notMem {k : Kernel} (h : k.Ok) {c : Child} (hc : c ∈ k.children)
    (hrun : c.exit = none) {batch : List (ℤ × WaitStatus)} (hbatch : batch.Perm k.zombies)
    {r : ℤ × WaitStatus} (hr : r ∈ batch) : c.pid ≠ r.1 := by
  intro heq
  obtain ⟨d, hd, hdp, hdexit⟩ := Kernel.mem_zombies.mp (hbatch.mem_iff.mp hr)
  rw [← h.eq_of_pid hc hd (heq.trans hdp.symm), hrun] at hdexit
  exact absurd hdexit (by simp)

/-- A slot keeps its pid or is emptied. -/
lemma daemonReapZombies_pid (t : WorkerTable) (batch : List (ℤ × WaitStatus)) (i : ℕ) :
    ((daemonReapZombies t batch).workers i).pid = (t.workers i).pid ∨
      ((daemonReapZombies t batch).workers i).pid = 0 := by
  rcases daemonReapZombies_slot t batch i with h | ⟨st, h⟩
  · exact Or.inl (by rw [h])
  · exact Or.inr (by rw [h, Worker.vacate_pid])

/-- The handler, at any program counter. -/
lemma Tracked.reapAll {s : Daemon} (h : Tracked s) {batch : List (ℤ × WaitStatus)}
    (hbatch : batch.Perm s.kernel.zombies) : Tracked (s.reapAll batch) := by
  have hsub : ∀ c ∈ s.kernel.reap.children, c ∈ s.kernel.children := fun c hc =>
    (Kernel.mem_reap.mp hc).1
  have hcount := daemonReapZombies_workerCount s.table batch
  refine ⟨h.kernel.reap, fun c hc hrun hlt => ?_, by rw [Daemon.reapAll, hcount]; exact h.capacity,
    ?_⟩
  · have hslot := h.slot c (hsub c hc) hrun (hcount ▸ hlt)
    refine hslot.congr (daemonReapZombies_miss fun r hr => ?_)
    rw [hslot.1]
    exact h.kernel.running_notMem (hsub c hc) hrun hbatch hr
  · have hpc := h.pc
    simp only [Daemon.reapAll]
    cases hcase : s.pc with
    | spawn w pid birth =>
        rw [hcase] at hpc
        obtain ⟨hbirths, hbirth, hlt, hchild, hslot, hbusy⟩ := hpc
        simp only [TrackPc, hcount, daemonReapZombies_above batch (Nat.le_refl _)]
        exact ⟨hbirths, hbirth, hlt, fun c hc => hchild c (hsub c hc), hslot, hbusy⟩
    | kill c i p =>
        rw [hcase] at hpc
        simp only [TrackPc, hcount]
        refine ⟨hpc.1, ?_⟩
        rcases daemonReapZombies_pid s.table batch i with heq | heq
        · rw [heq]; exact hpc.2
        · exact Or.inr heq
    | failStatus i | failPid i =>
        rw [hcase] at hpc
        simp only [TrackPc, hcount]
        refine ⟨hpc.1, fun hmem => ?_⟩
        obtain ⟨c, hc, hp⟩ := List.mem_map.mp hmem
        rcases daemonReapZombies_pid s.table batch i with heq | heq
        · exact hpc.2 (heq ▸ hp ▸ Kernel.mem_pids (hsub c hc))
        · exact h.kernel.zero_notMem (heq ▸ hp ▸ Kernel.mem_pids (hsub c hc))
    | _ => rw [hcase] at hpc; simpa only [TrackPc, hcount, Kernel.reap] using hpc

lemma Tracked.exit {s : Daemon} (h : Tracked s) {birth : ℕ} {st : WaitStatus} {k : Kernel}
    (he : s.kernel.exit birth st = some k) : Tracked { s with kernel := k } := by
  obtain ⟨-, hchildren, hbirths, -⟩ := Kernel.exit_some he
  have hpids : k.pids = s.kernel.pids := by simp [Kernel.pids, hchildren, Function.comp_def]
  refine ⟨h.kernel.exit he, fun c hc hrun => h.slot c (Kernel.mem_exit he hc hrun) hrun,
    h.capacity, ?_⟩
  have hpc := h.pc
  simp only
  cases hcase : s.pc with
  | spawn w pid b =>
      rw [hcase] at hpc
      obtain ⟨hb, hbirth, hlt, hchild, hslot, hbusy⟩ := hpc
      refine ⟨hbirths.trans hb, hbirth, hlt, fun c hc hcb => ?_, hslot, hbusy⟩
      rw [hchildren] at hc
      obtain ⟨d, hd, rfl⟩ := List.mem_map.mp hc
      simpa using hchild d hd (by simpa using hcb)
  | _ => rw [hcase] at hpc; simpa only [TrackPc, hbirths, hpids] using hpc

/-- The writes of `daemon_spawn_worker` do not touch the slots below `worker_count`, and the last
one puts the new child where it belongs. -/
lemma Tracked.spawn {s s' : Daemon} {r : SysResult} {w : SpawnWrite} {pid : ℤ} {birth : ℕ}
    (h : Tracked s) (hcase : s.pc = .spawn w pid birth) (hs : mainStep s r = some s') :
    Tracked s' := by
  have hpc := h.pc
  rw [hcase] at hpc
  obtain ⟨hbirths, hbirth, hlt, hchild, hslot, hbusy⟩ := hpc
  have hbelow : ∀ w' : Worker, ∀ c ∈ s.kernel.children, c.exit = none →
      c.birth < s.table.workerCount → c.RecordedIn (s.table.set s.table.workerCount w') :=
    fun w' c hc hrun hb => (h.slot c hc hrun hb).congr (s.table.set_of_ne _ (Nat.ne_of_lt hb))
  cases w with
  | pid =>
      simp only [mainStep, hcase, Option.some.injEq] at hs
      subst hs
      refine ⟨h.kernel, hbelow _, h.capacity, hbirths, hbirth, hlt, hchild, fun _ => ?_,
        fun _ hne => absurd rfl hne⟩
      simp [SpawnWrite.apply]
  | status =>
      simp only [mainStep, hcase, Option.some.injEq] at hs
      subst hs
      refine ⟨h.kernel, hbelow _, h.capacity, hbirths, hbirth, hlt, hchild, fun _ => ?_,
        fun _ _ => ?_⟩
      · simpa [SpawnWrite.apply] using hslot
      · simp [SpawnWrite.apply]
  | started | task =>
      simp only [mainStep, hcase, Option.some.injEq] at hs
      subst hs
      refine ⟨h.kernel, hbelow _, h.capacity, hbirths, hbirth, hlt, hchild, fun _ => ?_,
        fun _ _ => ?_⟩
      · simpa [SpawnWrite.apply] using hslot
      · simpa [SpawnWrite.apply] using hbusy
  | count =>
      simp only [mainStep, hcase, Option.some.injEq] at hs
      subst hs
      refine ⟨h.kernel, fun c hc hrun hb => ?_, hlt, hbirths⟩
      rcases Nat.lt_succ_iff_lt_or_eq.mp hb with hb | hb
      · exact h.slot c hc hrun hb
      · simp only [Child.RecordedIn, SpawnWrite.apply, hb]
        rw [hchild c hc (hb.trans hbirth.symm)]
        exact ⟨hslot (by decide), hbusy (by decide) (by decide)⟩

/-- A running child of the number of the slot that is probed is the one the slot is probed for. -/
lemma Tracked.kill_target {s : Daemon} (h : Tracked s) {site : KillSite} {i : ℕ} {p : ℤ}
    (hcase : s.pc = .kill site i p) {c : Child} (hc : c ∈ s.kernel.children)
    (hrun : c.exit = none) (hb : c.birth = i) : c.pid = p := by
  have hpc := h.pc
  rw [hcase] at hpc
  have hslot := (h.slot c hc hrun (hpc.1 ▸ h.kernel.births_lt c hc)).1
  rw [hb] at hslot
  rcases hpc.2 with heq | hzero
  · exact hslot.symm.trans heq
  · exact absurd (h.kernel.pids_pos c hc) (by omega)

/-- When a probe fails, no running child has the number of the slot. -/
lemma Tracked.gone_of_kill {s : Daemon} (h : Tracked s) {site : KillSite} {i : ℕ} {p : ℤ}
    {r : KillResult} (hcase : s.pc = .kill site i p) (hfail : s.kernel.kill p r ≠ .ok) :
    ∀ c ∈ s.kernel.children, c.exit = none → c.birth ≠ i := by
  intro c hc hrun hb
  refine hfail (if_pos (Or.inr ?_))
  rw [← h.kill_target hcase hc hrun hb]
  exact Kernel.mem_pids hc

/-- Nor when a slot below `worker_count` is passed over because it holds no pid. -/
lemma Tracked.gone_of_empty {s : Daemon} (h : Tracked s) {i : ℕ} (hi : i < s.table.workerCount)
    (hempty : ¬ 0 < (s.table.workers i).pid) :
    ∀ c ∈ s.kernel.children, c.exit = none → c.birth ≠ i := by
  rintro c hc hrun rfl
  rw [(h.slot c hc hrun hi).1] at hempty
  exact hempty (h.kernel.pids_pos c hc)

lemma Tracked.kill {s s' : Daemon} {r : SysResult} {site : KillSite} {i : ℕ} {p : ℤ}
    (h : Tracked s) (hcase : s.pc = .kill site i p) (hs : mainStep s r = some s') :
    Tracked s' := by
  have hpc := h.pc
  rw [hcase] at hpc
  simp only [mainStep, hcase, Option.some.injEq] at hs
  subst hs
  refine ⟨h.kernel, h.slot, h.capacity, ?_⟩
  cases site with
  | monitor =>
      cases hk : s.kernel.kill p r.kill with
      | esrch =>
          -- the pid that was probed is no child's, and 0 is none either
          have hfail : ¬ (p = 0 ∨ p ∈ s.kernel.pids) := fun hp => by
            rw [Kernel.kill, if_pos hp] at hk
            exact absurd hk (by simp)
          refine ⟨hpc.1, ?_⟩
          rcases hpc.2 with heq | hzero
          · rw [heq]; exact fun hmem => hfail (Or.inr hmem)
          · rw [hzero]; exact h.kernel.zero_notMem
      | ok | other => exact hpc.1
  | term | force => exact hpc.1
  | probe => cases s.kernel.kill p r.kill <;> exact hpc.1

/-- A slot whose pid is no child's may be overwritten. -/
lemma Tracked.set_unowned {s : Daemon} (h : Tracked s) {i : ℕ}
    (hi : (s.table.workers i).pid ∉ s.kernel.pids) (w : Worker) :
    ∀ c ∈ s.kernel.children, c.exit = none → c.birth < s.table.workerCount →
      c.RecordedIn (s.table.set i w) := by
  intro c hc hrun hb
  have hslot := h.slot c hc hrun hb
  refine hslot.congr (s.table.set_of_ne _ ?_)
  rintro rfl
  exact hi (hslot.1 ▸ Kernel.mem_pids hc)

/-- Every step of the main thread keeps the running children recorded. -/
lemma Tracked.main {s s' : Daemon} {r : SysResult} (h : Tracked s)
    (hs : mainStep s r = some s') : Tracked s' := by
  have hpc := h.pc
  cases hcase : s.pc with
  | ready | stopped => simp [mainStep, hcase] at hs
  | fork =>
      rw [hcase] at hpc
      rcases mainStep_fork hcase hs with rfl | ⟨pid, hfree, rfl⟩
      · exact ⟨h.kernel, h.slot, h.capacity, hpc.1⟩
      · refine ⟨h.kernel.fork hfree, fun c hc hrun hb => ?_, h.capacity,
          congrArg (· + 1) hpc.1, hpc.1, hpc.2, fun c hc hcb => ?_, fun hne => absurd rfl hne,
          fun hne => absurd rfl hne⟩
        · rcases List.mem_append.mp hc with hc | hc
          · exact h.slot c hc hrun hb
          · rw [List.mem_singleton.mp hc] at hb
            exact absurd hb (Nat.not_lt.mpr (Nat.le_of_eq hpc.1.symm))
        · rcases List.mem_append.mp hc with hc | hc
          · exact absurd hcb (Nat.ne_of_lt (h.kernel.births_lt c hc))
          · rw [List.mem_singleton.mp hc]
  | spawn w pid birth => exact h.spawn hcase hs
  | test site i =>
      rw [hcase] at hpc
      rcases mainStep_test hcase hs with ⟨-, -, rfl⟩ | rfl | rfl
      · exact ⟨h.kernel, h.slot, h.capacity, hpc⟩
      · exact ⟨h.kernel, h.slot, h.capacity, hpc⟩
      · refine ⟨h.kernel, h.slot, h.capacity, ?_⟩
        cases site <;> exact hpc
  | arg site i =>
      rw [hcase] at hpc
      simp only [mainStep, hcase, Option.some.injEq] at hs
      subst hs
      exact ⟨h.kernel, h.slot, h.capacity, hpc, Or.inl rfl⟩
  | kill site i p => exact h.kill hcase hs
  | failStatus i =>
      rw [hcase] at hpc
      simp only [mainStep, hcase, Option.some.injEq] at hs
      subst hs
      exact ⟨h.kernel, h.set_unowned hpc.2 _, h.capacity, hpc.1, by simpa using hpc.2⟩
  | failPid i =>
      rw [hcase] at hpc
      simp only [mainStep, hcase, Option.some.injEq] at hs
      subst hs
      exact ⟨h.kernel, h.set_unowned hpc.2 _, h.capacity, hpc.1⟩
  | copy i | sleep =>
      rw [hcase] at hpc
      simp only [mainStep, hcase, Option.some.injEq] at hs
      subst hs
      exact ⟨h.kernel, h.slot, h.capacity, hpc⟩
  | reap =>
      simp only [mainStep, hcase] at hs
      split_ifs at hs with hbatch
      rw [Option.some.injEq] at hs
      subst hs
      have hreap := h.reapAll hbatch
      have hbirths := hreap.pc
      simp only [Daemon.reapAll, hcase] at hbirths
      exact ⟨hreap.kernel, hreap.slot, hreap.capacity, hbirths⟩

/-- `fork` is only reached with room in the table. -/
lemma daemonStep_enters_fork {s s' : Daemon} {a : DaemonAct} (hs : daemonStep s a = some s')
    (hready : s.pc = .ready) (hfork : s'.pc = .fork) :
    a = .callSpawn ∧ s.table.workerCount < maxWorkers := by
  cases a with
  | callSpawn =>
      simp only [daemonStep, hready, if_true, Option.some.injEq] at hs
      split_ifs at hs with hfull
      · rw [← hs, hready] at hfork
        exact absurd hfork (by simp)
      · exact ⟨rfl, Nat.lt_of_not_le hfull⟩
  | callMonitor workerList count | callShutdown =>
      simp only [daemonStep, hready, if_true, Option.some.injEq] at hs
      rw [← hs] at hfork
      exact absurd hfork (by simp)
  | main r => simp [daemonStep, mainStep, hready] at hs
  | exit birth st =>
      obtain ⟨k, -, rfl⟩ := Option.map_eq_some_iff.mp hs
      exact absurd (hready.symm.trans hfork) (by simp)
  | sigchld batch =>
      simp only [daemonStep] at hs
      split_ifs at hs
      rw [← Option.some.inj hs] at hfork
      exact absurd (hready.symm.trans hfork) (by simp)

lemma Tracked.step {s s' : Daemon} {a : DaemonAct} (h : Tracked s)
    (hs : daemonStep s a = some s') : Tracked s' := by
  rcases daemonStep_cases hs with he | ⟨r, -, hr⟩ | ⟨birth, st, k, hk, rfl⟩ |
    ⟨batch, -, hbatch, rfl⟩
  · have hbirths : s.kernel.births = s.table.workerCount := by
      have := h.pc
      rwa [he.ready] at this
    refine ⟨he.kernel ▸ h.kernel, by rw [he.kernel, he.table]; exact h.slot,
      by rw [he.table]; exact h.capacity, ?_⟩
    rw [he.kernel, he.table]
    rcases he.pc with hpc | hpc | hpc | hpc <;> rw [hpc]
    · exact hbirths
    · exact ⟨hbirths, (daemonStep_enters_fork hs he.ready hpc).2⟩
    · exact hbirths
    · exact hbirths
  · exact h.main hr
  · exact h.exit hk
  · exact h.reapAll hbatch

/-- **The table never loses a running worker.**  Between operations, whatever was interrupted by
SIGCHLD before, every child that is still running is below `worker_count`, in the slot of its
number, under its own pid and as busy; no two of them share a slot. -/
theorem running_child_recorded {s : Daemon} (h : Reach daemonInitial daemonStep anyStep s)
    (hready : s.pc = .ready) :
    (∀ c ∈ s.kernel.children, c.exit = none →
      c.birth < s.table.workerCount ∧ (s.table.workers c.birth).pid = c.pid ∧
        (s.table.workers c.birth).status = .busy) ∧
      (s.kernel.children.map Child.birth).Nodup := by
  have ht : Tracked s := h.invariant (fun _ => tracked_init) fun _ _ _ hI _ hs => hI.step hs
  have hbirths := ht.pc
  rw [hready] at hbirths
  refine ⟨fun c hc hrun => ?_, ht.kernel.births_nodup⟩
  have hb : c.birth < s.table.workerCount := by
    rw [← hbirths]
    exact ht.kernel.births_lt c hc
  exact ⟨hb, ht.slot c hc hrun hb⟩

/-- The exit of the first worker is lost, its pid comes back for the second one, and the table has
it twice. -/
def reusedPid : List DaemonAct := lostExit ++ spawnFork 101 ++ spawnWrites

/-- The second worker has the pid of the first and is in its own slot nevertheless. -/
theorem running_child_recorded_reused :
    ∃ s, (s.table.workers 0).pid = 101 ∧ s.kernel.children = [⟨1, 101, none⟩] ∧
      Reach daemonInitial daemonStep anyStep s ∧ (s.table.workers 1).pid = 101 ∧
      (s.table.workers 1).status = .busy := by
  have hrun : (run daemonStep daemonBoot reusedPid).map
      (fun s => (s.pc, s.kernel.children, (s.table.workers 0).pid))
        = some (.ready, [⟨1, 101, none⟩], 101) := by
    decide +kernel
  obtain ⟨s, hs, heq⟩ := Option.map_eq_some_iff.mp hrun
  simp only [Prod.mk.injEq] at heq
  obtain ⟨hready, hchildren, hpid⟩ := heq
  have hreach : Reach daemonInitial daemonStep anyStep s :=
    (Reach.start ⟨rfl, rfl, rfl⟩).of_run_any hs
  have hslot := (running_child_recorded hreach hready).1 ⟨1, 101, none⟩ (by simp [hchildren]) rfl
  exact ⟨s, hpid, hchildren, hreach, hslot.2.1, hslot.2.2⟩

end Storage

import StorageManager.Daemon.WorkerSteps

/-!
# SIGCHLD against the main thread

What the interleavings of `Daemon/WorkerSteps.lean` do to the table, and which of them are
harmless.

**The window of `daemon_spawn_worker`.**  Between `fork` and `worker_count++` the new child is
alive and its slot is not yet below `worker_count`, so the search loop of the handler does not
see it.  A handler run that reaps it there drops its exit, and the slot that is registered
afterwards keeps a pid that no longer exists.

**The windows around `kill`.**  `workers[i].pid` is tested, read again as the argument of `kill`,
and then the call is made.  A handler run that reaps the worker of slot `i` after the test makes
the argument 0 (the daemon's own process group) or a pid that was given up.

* `Registered` — what holds as long as no handler run falls into the first window, or between
  the reading of the probe's argument and the probe: every slot below `worker_count` either
  holds an unreaped child and is busy, or is empty and shows how its child ended.
* `exits_reported` — the reports, in every state such a run reaches.
* `kill_targets_unreaped` — the calls of `kill`, when the handler leaves alone the worker whose
  slot is being tested as well.
-/

namespace Storage

open CString Machine

/-! ## The kernel's bookkeeping -/

/-- Unreaped children have distinct positive pids and distinct birth numbers, and `fate` agrees
with their exit status. -/
structure Kernel.Ok (k : Kernel) : Prop where
  pids_nodup : k.pids.Nodup
  pids_pos : ∀ c ∈ k.children, 0 < c.pid
  births_nodup : (k.children.map Child.birth).Nodup
  births_lt : ∀ c ∈ k.children, c.birth < k.births
  fate_eq : ∀ c ∈ k.children, k.fate c.birth = c.exit
  fate_none : ∀ b, k.births ≤ b → k.fate b = none

/-- The pids `waitpid` would return now. -/
def Kernel.zombiePids (k : Kernel) : List ℤ := k.zombies.map Prod.fst

lemma Kernel.boot_ok : Kernel.boot.Ok := by
  constructor <;> simp [Kernel.boot, Kernel.pids]

lemma Kernel.mem_pids {k : Kernel} {c : Child} (h : c ∈ k.children) : c.pid ∈ k.pids :=
  List.mem_map_of_mem h

lemma Kernel.mem_zombies {k : Kernel} {p : ℤ} {st : WaitStatus} :
    (p, st) ∈ k.zombies ↔ ∃ c ∈ k.children, c.pid = p ∧ c.exit = some st := by
  simp only [Kernel.zombies, List.mem_filterMap, Option.map_eq_some_iff, Prod.mk.injEq]
  constructor
  · rintro ⟨c, hc, st', hst, rfl, rfl⟩; exact ⟨c, hc, rfl, hst⟩
  · rintro ⟨c, hc, rfl, hst⟩; exact ⟨c, hc, st, hst, rfl, rfl⟩

lemma Kernel.mem_zombiePids {k : Kernel} {p : ℤ} :
    p ∈ k.zombiePids ↔ ∃ c ∈ k.children, c.pid = p ∧ c.exit.isSome := by
  simp only [Kernel.zombiePids, List.mem_map, Prod.exists, exists_and_right, exists_eq_right,
    Kernel.mem_zombies, Option.isSome_iff_exists]
  constructor
  · rintro ⟨st, c, hc, hp, hst⟩; exact ⟨c, hc, hp, st, hst⟩
  · rintro ⟨c, hc, hp, st, hst⟩; exact ⟨st, c, hc, hp, hst⟩

/-- Two unreaped children with one pid are the same child. -/
lemma Kernel.Ok.eq_of_pid {k : Kernel} (h : k.Ok) {c d : Child} (hc : c ∈ k.children)
    (hd : d ∈ k.children) (hp : c.pid = d.pid) : c = d :=
  List.inj_on_of_nodup_map h.pids_nodup hc hd hp

lemma Kernel.Ok.eq_of_birth {k : Kernel} (h : k.Ok) {c d : Child} (hc : c ∈ k.children)
    (hd : d ∈ k.children) (hb : c.birth = d.birth) : c = d :=
  List.inj_on_of_nodup_map h.births_nodup hc hd hb

lemma Kernel.Ok.zombies_pos {k : Kernel} (h : k.Ok) {r : ℤ × WaitStatus} (hr : r ∈ k.zombies) :
    0 < r.1 := by
  obtain ⟨c, hc, hp, -⟩ := Kernel.mem_zombies.mp hr
  rw [← hp]
  exact h.pids_pos c hc

/-- The pids of a batch are among the children's, in the same order. -/
lemma Kernel.zombiePids_sublist (k : Kernel) : k.zombiePids.Sublist k.pids := by
  unfold Kernel.zombiePids Kernel.zombies Kernel.pids
  induction k.children with
  | nil => simp
  | cons c cs ih =>
      cases hexit : c.exit with
      | none =>
          rw [List.filterMap_cons_none (by simp [hexit]), List.map_cons]
          exact ih.cons _
      | some st =>
          rw [List.filterMap_cons_some (by simp [hexit]; rfl), List.map_cons, List.map_cons]
          exact ih.cons_cons _

lemma Kernel.Ok.fork {k : Kernel} (h : k.Ok) {pid : ℤ} (hfree : k.Free pid) : (k.fork pid).Ok where
  pids_nodup := by
    have hn : pid ∉ k.children.map Child.pid := hfree.2
    simpa [Kernel.pids, Kernel.fork, List.nodup_append] using
      ⟨h.pids_nodup, fun c hc he => hn (List.mem_map.mpr ⟨c, hc, he⟩)⟩
  pids_pos := List.forall_mem_append.mpr ⟨h.pids_pos, List.forall_mem_singleton.mpr hfree.1⟩
  births_nodup := by
    simpa [Kernel.fork, List.nodup_append] using
      ⟨h.births_nodup, fun c hc => Nat.ne_of_lt (h.births_lt c hc)⟩
  births_lt := List.forall_mem_append.mpr ⟨fun c hc => Nat.lt_succ_of_lt (h.births_lt c hc),
    List.forall_mem_singleton.mpr (Nat.lt_succ_self _)⟩
  fate_eq := List.forall_mem_append.mpr ⟨h.fate_eq,
    List.forall_mem_singleton.mpr (h.fate_none _ (Nat.le_refl _))⟩
  fate_none := fun b hb => h.fate_none b (Nat.le_of_succ_le hb)

/-- What an exit does to a child. -/
def Child.mark (birth : ℕ) (st : WaitStatus) (c : Child) : Child :=
  if c.birth = birth then { c with exit := some st } else c

@[simp] lemma Child.mark_pid (birth : ℕ) (st : WaitStatus) (c : Child) :
    (c.mark birth st).pid = c.pid := by
  unfold Child.mark; split <;> rfl

@[simp] lemma Child.mark_birth (birth : ℕ) (st : WaitStatus) (c : Child) :
    (c.mark birth st).birth = c.birth := by
  unfold Child.mark; split <;> rfl

/-- An exit marks one running child and records its fate; nothing else changes. -/
lemma Kernel.exit_some {k k' : Kernel} {birth : ℕ} {st : WaitStatus}
    (h : k.exit birth st = some k') :
    (∃ c ∈ k.children, c.birth = birth ∧ c.exit = none) ∧
      k'.children = k.children.map (Child.mark birth st) ∧ k'.births = k.births ∧
      k'.fate = Function.update k.fate birth (some st) := by
  unfold Kernel.exit at h
  split_ifs at h with hrun
  rw [Option.some.injEq] at h
  subst h
  exact ⟨hrun, rfl, rfl, rfl⟩

lemma Kernel.Ok.exit {k k' : Kernel} (h : k.Ok) {birth : ℕ} {st : WaitStatus}
    (he : k.exit birth st = some k') : k'.Ok := by
  obtain ⟨⟨c₀, hc₀, hb₀, -⟩, hchildren, hbirths, hfate⟩ := Kernel.exit_some he
  constructor
  · simpa [Kernel.pids, hchildren, Function.comp_def] using h.pids_nodup
  · intro c hc
    rw [hchildren] at hc
    obtain ⟨d, hd, rfl⟩ := List.mem_map.mp hc
    simpa using h.pids_pos d hd
  · simpa [hchildren, Function.comp_def] using h.births_nodup
  · intro c hc
    rw [hchildren] at hc
    obtain ⟨d, hd, rfl⟩ := List.mem_map.mp hc
    simpa [hbirths] using h.births_lt d hd
  · intro c hc
    rw [hchildren] at hc
    obtain ⟨d, hd, rfl⟩ := List.mem_map.mp hc
    rw [hfate, Child.mark_birth]
    unfold Child.mark
    split_ifs with hb
    · rw [hb, Function.update_self]
    · rw [Function.update_of_ne hb, h.fate_eq d hd]
  · intro b hb
    have hlt := h.births_lt c₀ hc₀
    rw [hfate, Function.update_of_ne (by omega)]
    exact h.fate_none b (by omega)

lemma Kernel.mem_reap {k : Kernel} {c : Child} :
    c ∈ k.reap.children ↔ c ∈ k.children ∧ c.exit = none := by
  simp [Kernel.reap]

lemma Kernel.Ok.reap {k : Kernel} (h : k.Ok) : k.reap.Ok where
  pids_nodup := h.pids_nodup.sublist (List.filter_sublist.map _)
  pids_pos := fun c hc => h.pids_pos c (Kernel.mem_reap.mp hc).1
  births_nodup := h.births_nodup.sublist (List.filter_sublist.map _)
  births_lt := fun c hc => h.births_lt c (Kernel.mem_reap.mp hc).1
  fate_eq := fun c hc => h.fate_eq c (Kernel.mem_reap.mp hc).1
  fate_none := h.fate_none

/-- A child that is not a zombie survives a reap. -/
lemma Kernel.mem_reap_of_not_zombie {k : Kernel} {c : Child} (hc : c ∈ k.children)
    (hz : c.pid ∉ k.zombiePids) : c ∈ k.reap.children := by
  refine Kernel.mem_reap.mpr ⟨hc, ?_⟩
  rw [← Option.not_isSome_iff_eq_none]
  exact fun hs => hz (Kernel.mem_zombiePids.mpr ⟨c, hc, rfl, hs⟩)

/-! ## The invariant -/

/-- A slot below `worker_count`: it holds an unreaped child and is busy, or it is empty, its child
is gone, and the status shows how. -/
def SlotOk (t : WorkerTable) (k : Kernel) (slotChild : ℕ → ℕ) (i : ℕ) : Prop :=
  (∃ c ∈ k.children, c.birth = slotChild i ∧ c.pid = (t.workers i).pid ∧
      (t.workers i).status = .busy) ∨
    ((t.workers i).pid = 0 ∧ (∀ c ∈ k.children, c.birth ≠ slotChild i) ∧
      ∃ st, k.fate (slotChild i) = some st ∧ (t.workers i).status = reapedStatus st)

/-- The table against the kernel: every slot below `worker_count` is in order, and no two of them
were filled for the same child. -/
structure TableOk (t : WorkerTable) (k : Kernel) (slotChild : ℕ → ℕ) : Prop where
  kernel : k.Ok
  slot : ∀ i, i < t.workerCount → SlotOk t k slotChild i
  inj : ∀ i j, i < t.workerCount → j < t.workerCount → slotChild i = slotChild j → i = j
  lt : ∀ i, i < t.workerCount → slotChild i < k.births

/-- What the main thread knows at its program counter.  Inside `daemon_spawn_worker` the new child
is unreaped and has no slot below `worker_count`; at the probe of `daemon_monitor_workers` the
argument is 0 or an unreaped child, so the probe never fails. -/
def PcOk (t : WorkerTable) (k : Kernel) (slotChild : ℕ → ℕ) : Pc → Prop
  | .spawn w pid birth =>
      (∃ c ∈ k.children, c.birth = birth ∧ c.pid = pid) ∧
        (∀ i, i < t.workerCount → slotChild i ≠ birth) ∧
        (w ≠ .pid → (t.workers t.workerCount).pid = pid ∧ slotChild t.workerCount = birth) ∧
        (w ≠ .pid → w ≠ .status → (t.workers t.workerCount).status = .busy)
  | .arg _ i => i < t.workerCount
  | .kill c i p => i < t.workerCount ∧ (c = .monitor → p = 0 ∨ p ∈ k.pids)
  | .failStatus _ | .failPid _ => False
  | _ => True

/-- The invariant: the slots belong to unreaped children, and the place of the main thread fits the
table. -/
structure Registered (s : Daemon) : Prop where
  table : TableOk s.table s.kernel s.slotChild
  pc : PcOk s.table s.kernel s.slotChild s.pc

/-- A positive pid below `worker_count` is that of the unreaped child the slot was filled for. -/
lemma TableOk.child_of_pos {t : WorkerTable} {k : Kernel} {slotChild : ℕ → ℕ}
    (h : TableOk t k slotChild) {i : ℕ} (hi : i < t.workerCount) (hpos : 0 < (t.workers i).pid) :
    ∃ c ∈ k.children, c.birth = slotChild i ∧ c.pid = (t.workers i).pid := by
  rcases h.slot i hi with ⟨c, hc, hb, hp, -⟩ | ⟨h0, -⟩
  · exact ⟨c, hc, hb, hp⟩
  · rw [h0] at hpos
    exact absurd hpos (by decide)

lemma TableOk.distinct {t : WorkerTable} {k : Kernel} {slotChild : ℕ → ℕ}
    (h : TableOk t k slotChild) : DistinctPids t := by
  intro i j hi hj hpos heq
  obtain ⟨c, hc, hcb, hcp⟩ := h.child_of_pos hi hpos
  obtain ⟨d, hd, hdb, hdp⟩ := h.child_of_pos hj (by rwa [← heq])
  have hcd : c = d := h.kernel.eq_of_pid hc hd (by rw [hcp, hdp, heq])
  exact h.inj i j hi hj (by rw [← hcb, ← hdb, hcd])

lemma registered_init {s : Daemon} (h : daemonInitial s) : Registered s := by
  obtain ⟨ht, hk, hpc⟩ := h
  refine ⟨⟨?_, ?_, ?_, ?_⟩, ?_⟩
  · rw [hk]; exact Kernel.boot_ok
  all_goals simp [ht, hpc, WorkerTable.empty, PcOk]

/-! ### The handler -/

/-- **One reap settles every slot**: the zombies' slots are emptied with the right status, the
others are left alone. -/
lemma TableOk.reap {t : WorkerTable} {k : Kernel} {slotChild : ℕ → ℕ} (h : TableOk t k slotChild)
    {batch : List (ℤ × WaitStatus)} (hbatch : batch.Perm k.zombies) :
    TableOk (daemonReapZombies t batch) k.reap slotChild := by
  have hpos : ∀ r ∈ batch, 0 < r.1 := fun r hr => h.kernel.zombies_pos (hbatch.mem_iff.mp hr)
  have hnd : (batch.map Prod.fst).Nodup :=
    (hbatch.map Prod.fst).nodup_iff.mpr (h.kernel.pids_nodup.sublist k.zombiePids_sublist)
  refine ⟨h.kernel.reap, fun i hi => ?_, ?_, ?_⟩
  · rw [daemonReapZombies_workerCount] at hi
    rcases h.slot i hi with ⟨c, hc, hb, hp, hbusy⟩ | ⟨h0, hgone, st, hfate, hstatus⟩
    · cases hexit : c.exit with
      | none =>
          have hmiss : (daemonReapZombies t batch).workers i = t.workers i := by
            refine daemonReapZombies_miss fun r hr heq => ?_
            obtain ⟨d, hd, hdp, hdst⟩ := Kernel.mem_zombies.mp (hbatch.mem_iff.mp hr)
            have hcd : c = d := h.kernel.eq_of_pid hc hd (by rw [hp, hdp, heq])
            rw [← hcd, hexit] at hdst
            exact absurd hdst (by simp)
          exact Or.inl ⟨c, Kernel.mem_reap.mpr ⟨hc, hexit⟩, hb, by rw [hmiss, hp],
            by rw [hmiss, hbusy]⟩
      | some st =>
          have hmem : ((t.workers i).pid, st) ∈ batch :=
            hbatch.mem_iff.mpr (Kernel.mem_zombies.mpr ⟨c, hc, hp, hexit⟩)
          have hhit := daemonReapZombies_hit h.distinct hi hpos hnd hmem
          refine Or.inr ⟨by rw [hhit, Worker.vacate_pid], fun d hd hdb => ?_, st, ?_, ?_⟩
          · obtain ⟨hd, hdexit⟩ := Kernel.mem_reap.mp hd
            rw [h.kernel.eq_of_birth hd hc (hdb.trans hb.symm), hexit] at hdexit
            exact absurd hdexit (by simp)
          · rw [← hb]; exact (h.kernel.fate_eq c hc).trans hexit
          · rw [hhit, Worker.vacate_status]
    · have hmiss : (daemonReapZombies t batch).workers i = t.workers i := by
        refine daemonReapZombies_miss fun r hr heq => ?_
        have := hpos r hr
        omega
      exact Or.inr ⟨by rw [hmiss, h0], fun c hc => hgone c (Kernel.mem_reap.mp hc).1, st, hfate,
        by rw [hmiss, hstatus]⟩
  · simpa using h.inj
  · simpa [Kernel.reap] using h.lt

/-! ### Forks and exits -/

lemma TableOk.fork {t : WorkerTable} {k : Kernel} {slotChild : ℕ → ℕ} (h : TableOk t k slotChild)
    {pid : ℤ} (hfree : k.Free pid) : TableOk t (k.fork pid) slotChild := by
  refine ⟨h.kernel.fork hfree, fun i hi => ?_, h.inj, fun i hi => Nat.lt_succ_of_lt (h.lt i hi)⟩
  rcases h.slot i hi with ⟨c, hc, hrest⟩ | ⟨h0, hgone, hfate⟩
  · exact Or.inl ⟨c, List.mem_append_left _ hc, hrest⟩
  · refine Or.inr ⟨h0, fun c hc => ?_, hfate⟩
    rcases List.mem_append.mp hc with hc | hc
    · exact hgone c hc
    · rw [List.mem_singleton.mp hc]
      exact Nat.ne_of_gt (h.lt i hi)

lemma TableOk.exit {t : WorkerTable} {k k' : Kernel} {slotChild : ℕ → ℕ}
    (h : TableOk t k slotChild) {birth : ℕ} {st : WaitStatus} (he : k.exit birth st = some k') :
    TableOk t k' slotChild := by
  obtain ⟨⟨c₀, hc₀, hb₀, -⟩, hchildren, hbirths, hfate⟩ := Kernel.exit_some he
  refine ⟨h.kernel.exit he, fun i hi => ?_, h.inj, fun i hi => by rw [hbirths]; exact h.lt i hi⟩
  rcases h.slot i hi with ⟨c, hc, hb, hp, hbusy⟩ | ⟨h0, hgone, st', hst', hstatus⟩
  · refine Or.inl ⟨c.mark birth st, ?_, by simpa using hb, by simpa using hp, hbusy⟩
    rw [hchildren]
    exact List.mem_map_of_mem hc
  · refine Or.inr ⟨h0, fun c hc => ?_, st', ?_, hstatus⟩
    · rw [hchildren] at hc
      obtain ⟨d, hd, rfl⟩ := List.mem_map.mp hc
      simpa using hgone d hd
    · rw [hfate, Function.update_of_ne fun hb => hgone c₀ hc₀ (hb₀.trans hb.symm)]
      exact hst'

/-- An exit moves no child, so the main thread still knows what it knew. -/
lemma PcOk.exit {t : WorkerTable} {k k' : Kernel} {slotChild : ℕ → ℕ} {pc : Pc}
    (h : PcOk t k slotChild pc) {birth : ℕ} {st : WaitStatus} (he : k.exit birth st = some k') :
    PcOk t k' slotChild pc := by
  obtain ⟨-, hchildren, -, -⟩ := Kernel.exit_some he
  cases pc with
  | spawn w pid b =>
      obtain ⟨⟨c, hc, hcb, hcp⟩, hrest⟩ := h
      refine ⟨⟨c.mark birth st, ?_, by simpa using hcb, by simpa using hcp⟩, hrest⟩
      rw [hchildren]
      exact List.mem_map_of_mem hc
  | kill c i p =>
      refine ⟨h.1, fun hmon => ?_⟩
      have hpids : k'.pids = k.pids := by simp [Kernel.pids, hchildren, Function.comp_def]
      rw [hpids]
      exact h.2 hmon
  | _ => exact h

/-! ### The main thread -/

/-- Only the slots below `worker_count` matter. -/
lemma TableOk.congr {t t' : WorkerTable} {k : Kernel} {slotChild slotChild' : ℕ → ℕ}
    (h : TableOk t k slotChild) (hcount : t'.workerCount = t.workerCount)
    (hw : ∀ i, i < t.workerCount → t'.workers i = t.workers i)
    (hsc : ∀ i, i < t.workerCount → slotChild' i = slotChild i) : TableOk t' k slotChild' := by
  refine ⟨h.kernel, fun i hi => ?_, fun i j hi hj heq => ?_, fun i hi => ?_⟩
  · rw [hcount] at hi
    unfold SlotOk
    rw [hw i hi, hsc i hi]
    exact h.slot i hi
  · rw [hcount] at hi hj
    rw [hsc i hi, hsc j hj] at heq
    exact h.inj i j hi hj heq
  · rw [hcount] at hi
    rw [hsc i hi]
    exact h.lt i hi

/-- Writing the slot that is about to be registered changes nothing below it. -/
lemma TableOk.set_next {t : WorkerTable} {k : Kernel} {slotChild : ℕ → ℕ}
    (h : TableOk t k slotChild) (w : Worker) : TableOk (t.set t.workerCount w) k slotChild :=
  h.congr rfl (fun _ hi => t.set_of_ne w (Nat.ne_of_lt hi)) fun _ _ => rfl

/-- `worker_count++`: the new slot holds the child it was filled for. -/
lemma TableOk.register {t : WorkerTable} {k : Kernel} {slotChild : ℕ → ℕ}
    (h : TableOk t k slotChild) {pid : ℤ} {birth : ℕ}
    (hpc : PcOk t k slotChild (.spawn .count pid birth)) :
    TableOk { t with workerCount := t.workerCount + 1 } k slotChild := by
  obtain ⟨⟨c, hc, hcb, hcp⟩, hnew, hslot, hbusy⟩ := hpc
  obtain ⟨hpid, hchild⟩ := hslot (by decide)
  refine ⟨h.kernel, fun i hi => ?_, fun i j hi hj heq => ?_, fun i hi => ?_⟩
  · rcases Nat.lt_succ_iff_lt_or_eq.mp hi with hi | rfl
    · exact h.slot i hi
    · exact Or.inl ⟨c, hc, hcb.trans hchild.symm, hcp.trans hpid.symm,
        hbusy (by decide) (by decide)⟩
  · rcases Nat.lt_succ_iff_lt_or_eq.mp hi with hi | rfl <;>
      rcases Nat.lt_succ_iff_lt_or_eq.mp hj with hj | rfl
    · exact h.inj i j hi hj heq
    · exact absurd (heq.trans hchild) (hnew i hi)
    · exact absurd (heq.symm.trans hchild) (hnew j hj)
    · rfl
  · rcases Nat.lt_succ_iff_lt_or_eq.mp hi with hi | rfl
    · exact h.lt i hi
    · rw [hchild, ← hcb]
      exact h.kernel.births_lt c hc

lemma registered_spawn {s s' : Daemon} {r : SysResult} {w : SpawnWrite} {pid : ℤ} {birth : ℕ}
    (h : Registered s) (hpc : s.pc = .spawn w pid birth) (hs : mainStep s r = some s') :
    Registered s' := by
  have hp := h.pc
  rw [hpc] at hp
  obtain ⟨hchild, hnew, hslot, hbusy⟩ := hp
  cases w with
  | pid =>
      simp only [mainStep, hpc, Option.some.injEq] at hs
      subst hs
      have hsc : ∀ i, i < s.table.workerCount →
          Function.update s.slotChild s.table.workerCount birth i = s.slotChild i :=
        fun i hi => Function.update_of_ne (Nat.ne_of_lt hi) _ _
      refine ⟨h.table.congr rfl (fun i hi => s.table.set_of_ne _ (Nat.ne_of_lt hi)) hsc, hchild,
        fun i hi => ?_, fun _ => ⟨?_, ?_⟩, fun _ hne => absurd rfl hne⟩
      · exact fun he => hnew i hi ((hsc i hi).symm.trans he)
      · simp [SpawnWrite.apply]
      · simp [SpawnWrite.apply]
  | status =>
      simp only [mainStep, hpc, Option.some.injEq] at hs
      subst hs
      refine ⟨h.table.set_next _, hchild, hnew, fun _ => ?_, fun _ _ => ?_⟩
      · simpa [SpawnWrite.apply] using hslot (by decide)
      · simp [SpawnWrite.apply]
  | started =>
      simp only [mainStep, hpc, Option.some.injEq] at hs
      subst hs
      refine ⟨h.table.set_next _, hchild, hnew, fun _ => ?_, fun _ _ => ?_⟩
      · simpa [SpawnWrite.apply] using hslot (by decide)
      · simpa [SpawnWrite.apply] using hbusy (by decide) (by decide)
  | task =>
      simp only [mainStep, hpc, Option.some.injEq] at hs
      subst hs
      refine ⟨h.table.set_next _, hchild, hnew, fun _ => ?_, fun _ _ => ?_⟩
      · simpa [SpawnWrite.apply] using hslot (by decide)
      · simpa [SpawnWrite.apply] using hbusy (by decide) (by decide)
  | count =>
      simp only [mainStep, hpc, Option.some.injEq] at hs
      subst hs
      exact ⟨h.table.register ⟨hchild, hnew, hslot, hbusy⟩, trivial⟩

/-- The probe of `daemon_monitor_workers` succeeds, so its two writes are never reached. -/
lemma registered_kill {s s' : Daemon} {r : SysResult} {c : KillSite} {i : ℕ} {p : ℤ}
    (h : Registered s) (hpc : s.pc = .kill c i p) (hs : mainStep s r = some s') :
    Registered s' := by
  have hp := h.pc
  rw [hpc] at hp
  obtain ⟨hi, hmon⟩ := hp
  simp only [mainStep, hpc, Option.some.injEq] at hs
  subst hs
  refine ⟨h.table, ?_⟩
  cases c with
  | monitor =>
      have hok : s.kernel.kill p r.kill = .ok := if_pos (hmon rfl)
      simp only [hok, KillSite.afterKill]
      trivial
  | probe =>
      cases s.kernel.kill p r.kill with
      | ok => exact hi
      | esrch => trivial
      | other => trivial
  | term => trivial
  | force => trivial

/-- Every step of the main thread keeps the invariant. -/
lemma Registered.main {s s' : Daemon} {r : SysResult} (h : Registered s)
    (hs : mainStep s r = some s') : Registered s' := by
  cases hpc : s.pc with
  | ready => simp [mainStep, hpc] at hs
  | stopped => simp [mainStep, hpc] at hs
  | fork =>
      rcases mainStep_fork hpc hs with rfl | ⟨pid, hfree, rfl⟩
      · exact ⟨h.table, trivial⟩
      · refine ⟨h.table.fork hfree, ⟨_, List.mem_append_right _ (List.mem_singleton_self _), rfl,
          rfl⟩, fun i hi => Nat.ne_of_lt (h.table.lt i hi), fun hne => absurd rfl hne,
          fun hne => absurd rfl hne⟩
  | spawn w pid birth => exact registered_spawn h hpc hs
  | test c i =>
      rcases mainStep_test hpc hs with ⟨hi, -, rfl⟩ | rfl | rfl
      · exact ⟨h.table, hi⟩
      · exact ⟨h.table, trivial⟩
      · refine ⟨h.table, ?_⟩
        cases c <;> trivial
  | arg c i =>
      have hi := h.pc
      rw [hpc] at hi
      simp only [mainStep, hpc, Option.some.injEq] at hs
      subst hs
      refine ⟨h.table, hi, fun _ => ?_⟩
      rcases h.table.slot i hi with ⟨c, hc, -, hp, -⟩ | ⟨h0, -⟩
      · exact Or.inr (hp ▸ Kernel.mem_pids hc)
      · exact Or.inl h0
  | kill c i p => exact registered_kill h hpc hs
  | failStatus i => have := h.pc; rw [hpc] at this; exact this.elim
  | failPid i => have := h.pc; rw [hpc] at this; exact this.elim
  | copy i =>
      simp only [mainStep, hpc, Option.some.injEq] at hs
      subst hs
      exact ⟨h.table, trivial⟩
  | sleep =>
      simp only [mainStep, hpc, Option.some.injEq] at hs
      subst hs
      exact ⟨h.table, trivial⟩
  | reap =>
      simp only [mainStep, hpc] at hs
      split_ifs at hs with hbatch
      rw [Option.some.injEq] at hs
      subst hs
      exact ⟨h.table.reap hbatch, trivial⟩

/-! ## Exits are reported -/

/-- A handler run does not reap a child that is forked and not yet registered, nor the worker a
probe of `daemon_monitor_workers` has been read for and not yet sent to. -/
def SparesUnregistered (s : Daemon) : DaemonAct → Prop
  | .sigchld _ =>
      match s.pc with
      | .spawn _ pid _ => pid ∉ s.kernel.zombiePids
      | .kill .monitor _ p => p ∉ s.kernel.zombiePids
      | _ => True
  | _ => True

instance (s : Daemon) (a : DaemonAct) : Decidable (SparesUnregistered s a) := by
  unfold SparesUnregistered
  split
  · split <;> infer_instance
  · infer_instance

/-- The handler at a point the condition admits. -/
lemma Registered.sigchld {s : Daemon} (h : Registered s) {batch : List (ℤ × WaitStatus)}
    (hok : SparesUnregistered s (.sigchld batch)) (hbatch : batch.Perm s.kernel.zombies) :
    Registered (s.reapAll batch) := by
  have hp := h.pc
  refine ⟨h.table.reap hbatch, ?_⟩
  simp only [SparesUnregistered] at hok
  simp only [Daemon.reapAll]
  cases hpc : s.pc with
  | spawn w pid birth =>
      rw [hpc] at hp hok
      obtain ⟨⟨c, hc, hcb, hcp⟩, hnew, hslot, hbusy⟩ := hp
      have habove : (daemonReapZombies s.table batch).workers s.table.workerCount
          = s.table.workers s.table.workerCount := daemonReapZombies_above batch (Nat.le_refl _)
      refine ⟨⟨c, Kernel.mem_reap_of_not_zombie hc (by rwa [hcp]), hcb, hcp⟩, by simpa using hnew,
        ?_, ?_⟩
      · simpa [habove] using hslot
      · simpa [habove] using hbusy
  | arg c i => rw [hpc] at hp; simpa [PcOk] using hp
  | kill c i p =>
      rw [hpc] at hp hok
      refine ⟨by simpa using hp.1, ?_⟩
      rintro rfl
      refine (hp.2 rfl).imp_right fun hmem => ?_
      obtain ⟨d, hd, rfl⟩ := List.mem_map.mp hmem
      exact Kernel.mem_pids (Kernel.mem_reap_of_not_zombie hd hok)
  | failStatus i => rw [hpc] at hp; exact hp
  | failPid i => rw [hpc] at hp; exact hp
  | _ => trivial

lemma Registered.step {s s' : Daemon} {a : DaemonAct} (h : Registered s)
    (hok : SparesUnregistered s a) (hs : daemonStep s a = some s') : Registered s' := by
  rcases daemonStep_cases hs with he | ⟨r, -, hr⟩ | ⟨birth, st, k, hk, rfl⟩ |
    ⟨batch, rfl, hbatch, rfl⟩
  · refine ⟨by rw [he.table, he.kernel, he.slotChild]; exact h.table, ?_⟩
    rcases he.pc with hpc | hpc | hpc | hpc <;> rw [hpc] <;> trivial
  · exact h.main hr
  · exact ⟨h.table.exit hk, h.pc.exit hk⟩
  · exact h.sigchld hok hbatch

/-- It holds as long as no child is reaped before it is registered. -/
theorem registered_of_reach {s : Daemon}
    (h : Reach daemonInitial daemonStep SparesUnregistered s) : Registered s :=
  h.invariant (fun _ => registered_init) fun _ _ _ hI hok hs => hI.step hok hs

/-- When the main thread is between operations and no unreaped child exists, every slot below
`worker_count` has pid 0 and shows how its child ended. -/
def ReportsExits (s : Daemon) : Prop :=
  s.pc = .ready → s.kernel.children = [] → ∀ i, i < s.table.workerCount →
    (s.table.workers i).pid = 0 ∧
      ((∃ code, s.kernel.fate (s.slotChild i) = some (.exited code)) →
        (s.table.workers i).status = .idle) ∧
      ((∃ sig, s.kernel.fate (s.slotChild i) = some (.signaled sig)) →
        (s.table.workers i).status = .failed)

/-- **No exit is lost or misreported** in a run whose handler steps all spare the child that is
being registered and the one that is being probed. -/
theorem exits_reported {s : Daemon} (h : Reach daemonInitial daemonStep SparesUnregistered s) :
    ReportsExits s := by
  intro _ hnone i hi
  rcases (registered_of_reach h).table.slot i hi with ⟨c, hc, -⟩ | ⟨h0, -, st, hfate, hstatus⟩
  · rw [hnone] at hc
    exact absurd hc (by simp)
  · refine ⟨h0, ?_, ?_⟩
    · rintro ⟨code, hcode⟩
      rw [hstatus, Option.some.inj (hfate.symm.trans hcode), reapedStatus]
    · rintro ⟨sig, hsig⟩
      rw [hstatus, Option.some.inj (hfate.symm.trans hsig), reapedStatus]

/-- A concrete start-up state. -/
def daemonBoot : Daemon := ⟨.empty, .boot, .ready, 0, fun _ => .zero, 0, fun _ => 0⟩

/-- The steps of `daemon_spawn_worker` up to and including `fork`, and those after it. -/
def spawnFork (pid : ℤ) : List DaemonAct := [.callSpawn, .main { fork := some pid }]

/-- The five writes of `daemon_spawn_worker` behind the `fork`. -/
def spawnWrites : List DaemonAct := List.replicate 5 (.main {})

/-- A worker is registered, then killed by a signal, and the handler runs between operations. -/
def signalledWorker : List DaemonAct :=
  spawnFork 101 ++ spawnWrites ++ [.exit 0 (.signaled 9), .sigchld [(101, .signaled 9)]]

/-- The slot of the worker that was killed shows a failure. -/
theorem exits_reported_signalled :
    ∃ s, s.pc = .ready ∧ s.kernel.children = [] ∧ (s.table.workers 0).status = .failed ∧
      Reach daemonInitial daemonStep SparesUnregistered s ∧ ReportsExits s := by
  have hall : AllowedRun daemonStep SparesUnregistered daemonBoot signalledWorker := by
    decide +kernel
  have hrun : (run daemonStep daemonBoot signalledWorker).map
      (fun s => (s.pc, s.kernel.children, (s.table.workers 0).status))
        = some (.ready, [], .failed) := by
    decide +kernel
  obtain ⟨s, hs, heq⟩ := Option.map_eq_some_iff.mp hrun
  simp only [Prod.mk.injEq] at heq
  have hreach : Reach daemonInitial daemonStep SparesUnregistered s :=
    (Reach.start ⟨rfl, rfl, rfl⟩).of_run hall hs
  exact ⟨s, heq.1, heq.2.1, heq.2.2, hreach, exits_reported hreach⟩

/-- The child exits right after `fork` and the handler runs before the slot is registered. -/
def lostExit : List DaemonAct :=
  spawnFork 101 ++ [.exit 0 (.exited 0), .sigchld [(101, .exited 0)]] ++ spawnWrites

/-- The exit is lost: with every child reaped the slot still holds the pid and says busy. -/
theorem exit_lost_before_registration :
    ¬ ∀ s, Reach daemonInitial daemonStep anyStep s → ReportsExits s := by
  intro hclaim
  have hrun : (run daemonStep daemonBoot lostExit).map
      (fun s => (s.pc, s.kernel.children, s.table.workerCount, (s.table.workers 0).pid))
        = some (.ready, [], 1, 101) := by
    decide +kernel
  obtain ⟨s, hs, heq⟩ := Option.map_eq_some_iff.mp hrun
  simp only [Prod.mk.injEq] at heq
  obtain ⟨hpc, hnone, hcount, hpid⟩ := heq
  have hreach : Reach daemonInitial daemonStep anyStep s :=
    (Reach.start ⟨rfl, rfl, rfl⟩).of_run_any hs
  have h0 := (hclaim s hreach hpc hnone 0 (by rw [hcount]; decide)).1
  rw [hpid] at h0
  exact absurd h0 (by decide)

/-! ## `kill` only reaches unreaped workers -/

/-- A handler run does not reap a child that is forked and not yet registered, nor the worker of
a slot between the test of its pid and the `kill` on it. -/
def SparesTested (s : Daemon) : DaemonAct → Prop
  | .sigchld _ =>
      match s.pc with
      | .spawn _ pid _ => pid ∉ s.kernel.zombiePids
      | .arg _ i => (s.table.workers i).pid ∉ s.kernel.zombiePids
      | .kill _ _ p => p ∉ s.kernel.zombiePids
      | _ => True
  | _ => True

instance (s : Daemon) (a : DaemonAct) : Decidable (SparesTested s a) := by
  unfold SparesTested
  split
  · split <;> infer_instance
  · infer_instance

lemma SparesTested.sparesUnregistered {s : Daemon} {a : DaemonAct} (h : SparesTested s a) :
    SparesUnregistered s a := by
  cases a with
  | sigchld batch =>
      simp only [SparesTested, SparesUnregistered] at h ⊢
      cases hpc : s.pc with
      | spawn w pid birth => rw [hpc] at h; exact h
      | kill c i p =>
          rw [hpc] at h
          cases c with
          | monitor => exact h
          | _ => trivial
      | _ => trivial
  | _ => trivial

/-- Between the test and the `kill` the slot holds a positive pid, and it is the argument. -/
def KillOk (t : WorkerTable) : Pc → Prop
  | .arg _ i => i < t.workerCount ∧ 0 < (t.workers i).pid
  | .kill _ i p => i < t.workerCount ∧ (t.workers i).pid = p ∧ 0 < p
  | _ => True

lemma killOk_afterLoop (t : WorkerTable) (c : KillSite) : KillOk t c.afterLoop := by
  cases c <;> trivial

lemma killOk_main {s s' : Daemon} {r : SysResult} (h : KillOk s.table s.pc)
    (hs : mainStep s r = some s') : KillOk s'.table s'.pc := by
  cases hpc : s.pc with
  | ready => simp [mainStep, hpc] at hs
  | stopped => simp [mainStep, hpc] at hs
  | fork => rcases mainStep_fork hpc hs with rfl | ⟨pid, -, rfl⟩ <;> trivial
  | spawn w pid birth =>
      cases w <;>
        · simp only [mainStep, hpc, Option.some.injEq] at hs
          subst hs
          trivial
  | test c i =>
      rcases mainStep_test hpc hs with ⟨hi, hpos, rfl⟩ | rfl | rfl
      · exact ⟨hi, hpos⟩
      · trivial
      · exact killOk_afterLoop _ c
  | arg c i =>
      rw [hpc] at h
      simp only [mainStep, hpc, Option.some.injEq] at hs
      subst hs
      exact ⟨h.1, rfl, h.2⟩
  | kill c i p =>
      rw [hpc] at h
      simp only [mainStep, hpc, Option.some.injEq] at hs
      subst hs
      -- only a probe that found the process goes on to a second `kill`, of the same slot
      have hforce : i < s.table.workerCount ∧ 0 < (s.table.workers i).pid :=
        ⟨h.1, by rw [h.2.1]; exact h.2.2⟩
      cases c <;> cases s.kernel.kill p r.kill <;> first | exact hforce | trivial
  | reap =>
      simp only [mainStep, hpc] at hs
      split_ifs at hs
      rw [Option.some.injEq] at hs
      subst hs
      trivial
  | _ =>
      simp only [mainStep, hpc, Option.some.injEq] at hs
      subst hs
      trivial

lemma killOk_sigchld {s : Daemon} (h : KillOk s.table s.pc) {batch : List (ℤ × WaitStatus)}
    (hok : SparesTested s (.sigchld batch)) (hbatch : batch.Perm s.kernel.zombies) :
    KillOk (s.reapAll batch).table (s.reapAll batch).pc := by
  -- a slot whose pid is not a zombie is left alone
  have hkeep : ∀ i, (s.table.workers i).pid ∉ s.kernel.zombiePids →
      (daemonReapZombies s.table batch).workers i = s.table.workers i := by
    intro i hi
    refine daemonReapZombies_miss fun r hr heq => hi ?_
    rw [heq]
    exact List.mem_map_of_mem (hbatch.mem_iff.mp hr)
  simp only [SparesTested] at hok
  simp only [Daemon.reapAll]
  cases hpc : s.pc with
  | arg c i =>
      rw [hpc] at h hok
      refine ⟨by simpa using h.1, ?_⟩
      rw [hkeep i hok]
      exact h.2
  | kill c i p =>
      rw [hpc] at h hok
      refine ⟨by simpa using h.1, ?_, h.2.2⟩
      rw [hkeep i (by rw [h.2.1]; exact hok)]
      exact h.2.1
  | _ => trivial

lemma killOk_step {s s' : Daemon} {a : DaemonAct} (h : KillOk s.table s.pc)
    (hok : SparesTested s a) (hs : daemonStep s a = some s') : KillOk s'.table s'.pc := by
  rcases daemonStep_cases hs with he | ⟨r, -, hr⟩ | ⟨birth, st, k, hk, rfl⟩ |
    ⟨batch, rfl, hbatch, rfl⟩
  · rcases he.pc with hpc | hpc | hpc | hpc <;> rw [hpc] <;> trivial
  · exact killOk_main h hr
  · exact h
  · exact killOk_sigchld h hok hbatch

/-- Every `kill` the main thread is about to make has a positive pid of an unreaped child. -/
def KillsUnreaped (s : Daemon) : Prop :=
  ∀ c i p, s.pc = .kill c i p → 0 < p ∧ p ∈ s.kernel.pids

/-- **The daemon only signals its own unreaped workers** in a run whose handler steps all spare
the child that is being registered and the worker whose slot is being tested. -/
theorem kill_targets_unreaped {s : Daemon}
    (h : Reach daemonInitial daemonStep SparesTested s) : KillsUnreaped s := by
  have hreg : Registered s := registered_of_reach (h.mono fun _ _ => (·.sparesUnregistered))
  have hkill : KillOk s.table s.pc := by
    refine h.invariant (I := fun s => KillOk s.table s.pc) ?_ ?_
    · rintro s ⟨-, -, hpc⟩
      rw [hpc]
      trivial
    · exact fun _ _ _ hI hok hs => killOk_step hI hok hs
  intro c i p hpc
  rw [hpc] at hkill
  obtain ⟨hi, hp, hpos⟩ := hkill
  obtain ⟨d, hd, -, hdp⟩ := hreg.table.child_of_pos hi (by rwa [hp])
  exact ⟨hpos, by rw [← hp, ← hdp]; exact Kernel.mem_pids hd⟩

/-- A shutdown that reaches `kill (pid, SIGTERM)` with the worker still there. -/
def shutdownTerm : List DaemonAct :=
  spawnFork 101 ++ spawnWrites ++ [.callShutdown, .main {}, .main {}]

/-- The SIGTERM goes to the worker of the slot. -/
theorem kill_targets_unreaped_term :
    ∃ s, s.pc = .kill .term 0 101 ∧ Reach daemonInitial daemonStep SparesTested s ∧
      KillsUnreaped s := by
  have hall : AllowedRun daemonStep SparesTested daemonBoot shutdownTerm := by decide +kernel
  have hrun : (run daemonStep daemonBoot shutdownTerm).map (·.pc)
      = some (.kill .term 0 101) := by
    decide +kernel
  obtain ⟨s, hs, hpc⟩ := Option.map_eq_some_iff.mp hrun
  have hreach : Reach daemonInitial daemonStep SparesTested s :=
    (Reach.start ⟨rfl, rfl, rfl⟩).of_run hall hs
  exact ⟨s, hpc, hreach, kill_targets_unreaped hreach⟩

/-- The worker exits and is reaped between the test of its pid and the reading of the argument. -/
def shutdownGroup : List DaemonAct :=
  spawnFork 101 ++ spawnWrites ++
    [.callShutdown, .main {}, .exit 0 (.exited 0), .sigchld [(101, .exited 0)], .main {}]

/-- The argument of `kill (.., SIGTERM)` is then 0: the daemon's own process group. -/
theorem kill_reaches_own_group :
    ¬ ∀ s, Reach daemonInitial daemonStep anyStep s → KillsUnreaped s := by
  intro hclaim
  have hrun : (run daemonStep daemonBoot shutdownGroup).map (·.pc) = some (.kill .term 0 0) := by
    decide +kernel
  obtain ⟨s, hs, hpc⟩ := Option.map_eq_some_iff.mp hrun
  have hreach : Reach daemonInitial daemonStep anyStep s :=
    (Reach.start ⟨rfl, rfl, rfl⟩).of_run_any hs
  exact absurd (hclaim s hreach _ _ _ hpc).1 (by decide)

end Storage

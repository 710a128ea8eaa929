import StorageManager.Kernel.Stats

/-!
# Updates of the statistics table on several CPUs

Any number of processes are inside `update_storage_stats` or `storage_stats_show`, and the table may
be reset at any time.  Every section under `stats_lock` is one step.  Two reads of `device_count`
are made outside the lock and are steps of their own: the last line of the report, and the address
`get_device_stats` returns for a slot it has just made.

* `StatsEffect` — everything a step can do; `update_uninterrupted` ties the steps of a call to the
  function of `Kernel/Stats.lean`.
* `stats_accounting` — what holds in every state, whatever the interleaving: the second read may
  give another slot than the one that was made, but always one below `device_count`.
* `updates_credited` — with at most one slot between its making and the second read, every update
  goes to the slot of its device.
-/

namespace Storage

open CString Machine

/-- A device's lines in the report, without the sizes in MB. -/
structure ShownDevice where
  device : CStr
  readOperations : UInt64
  writeOperations : UInt64
  totalOperations : UInt64
  bytesRead : UInt64
  bytesWritten : UInt64
  totalBytes : UInt64
  averageLatency : UInt64

/-- The lines `storage_stats_show` prints for a slot. -/
def DeviceStats.shown (d : DeviceStats) : ShownDevice where
  device := d.deviceName
  readOperations := d.counters.readOps
  writeOperations := d.counters.writeOps
  totalOperations := d.counters.readOps + d.counters.writeOps
  bytesRead := d.counters.readBytes
  bytesWritten := d.counters.writeBytes
  totalBytes := d.counters.readBytes + d.counters.writeBytes
  averageLatency :=
    if 0 < d.counters.opCount then d.counters.totalLatencyNs / d.counters.opCount else 0

/-- The locked section of `storage_stats_show`. -/
def storageStatsShow (t : StatsTable) : List ShownDevice :=
  ((List.range t.deviceCount).filter fun i => (t.deviceStats i).active).map fun i =>
    (t.deviceStats i).shown

/-- Where a process stands.  `created` is between the making of a slot and the read of
`device_count` for its address; `shown` is before the last line of a report. -/
inductive StatsPc
  | idle
  | lookup (u : StatsUpdate)
  | created (u : StatsUpdate)
  | found (u : StatsUpdate) (i : ℕ)
  | shown (report : List ShownDevice)

/-- The table, the processes, and the calls since the last reset that have finished and were not
dropped. -/
structure StatsSys where
  table : StatsTable
  pc : ℕ → StatsPc
  finished : List StatsUpdate

/-- The process goes to this place. -/
def StatsSys.goto (s : StatsSys) (k : ℕ) (pc : StatsPc) : StatsSys :=
  { s with pc := Function.update s.pc k pc }

/-- A process enters `update_storage_stats` or `storage_stats_show`, or takes its next step; or the
table is reset. -/
inductive StatsAct
  | call (k : ℕ) (u : StatsUpdate)
  | read (k : ℕ)
  | step (k : ℕ)
  | reset

/-- One section between two locks, or the start of a call. -/
def statsStep (s : StatsSys) : StatsAct → Option StatsSys
  | .call k u =>
      match s.pc k with
      | .idle => some (s.goto k (.lookup u))
      | _ => none
  | .read k =>
      match s.pc k with
      | .idle =>
          if s.table.deviceCount = 0 then some s
          else some (s.goto k (.shown (storageStatsShow s.table)))
      | _ => none
  | .step k =>
      match s.pc k with
      | .idle => none
      | .lookup u =>
          match s.table.lookup u.device with
          | some i => some (s.goto k (.found u i))
          | none =>
              if s.table.deviceCount < maxDevices then
                some { s.goto k (.created u) with table := s.table.create u.device }
              else some (s.goto k .idle)
      | .created u => some (s.goto k (.found u (s.table.deviceCount - 1)))
      | .found u i =>
          some { s.goto k .idle with table := s.table.credit i u, finished := s.finished ++ [u] }
      | .shown _ => some (s.goto k .idle)
  | .reset => some { s with table := resetStats s.table, finished := [] }

/-- The module has been loaded and nobody has called it. -/
def statsInit (s : StatsSys) : Prop := s = ⟨.init, fun _ => .idle, []⟩

/-- Everything a step can do. -/
inductive StatsEffect (s : StatsSys) : StatsAct → StatsSys → Prop
  | call {k : ℕ} {u : StatsUpdate} (hpc : s.pc k = .idle) :
      StatsEffect s (.call k u) (s.goto k (.lookup u))
  | nothing {k : ℕ} (hpc : s.pc k = .idle) : StatsEffect s (.read k) s
  | report {k : ℕ} (hpc : s.pc k = .idle) :
      StatsEffect s (.read k) (s.goto k (.shown (storageStatsShow s.table)))
  | hit {k : ℕ} {u : StatsUpdate} {i : ℕ} (hpc : s.pc k = .lookup u)
      (hlookup : s.table.lookup u.device = some i) : StatsEffect s (.step k) (s.goto k (.found u i))
  | create {k : ℕ} {u : StatsUpdate} (hpc : s.pc k = .lookup u)
      (hlookup : s.table.lookup u.device = none) (hroom : s.table.deviceCount < maxDevices) :
      StatsEffect s (.step k) { s.goto k (.created u) with table := s.table.create u.device }
  | drop {k : ℕ} {u : StatsUpdate} (hpc : s.pc k = .lookup u)
      (hlookup : s.table.lookup u.device = none) (hfull : ¬ s.table.deviceCount < maxDevices) :
      StatsEffect s (.step k) (s.goto k .idle)
  | address {k : ℕ} {u : StatsUpdate} (hpc : s.pc k = .created u) :
      StatsEffect s (.step k) (s.goto k (.found u (s.table.deviceCount - 1)))
  | credit {k : ℕ} {u : StatsUpdate} {i : ℕ} (hpc : s.pc k = .found u i) :
      StatsEffect s (.step k)
        { s.goto k .idle with table := s.table.credit i u, finished := s.finished ++ [u] }
  | lastLine {k : ℕ} {report : List ShownDevice} (hpc : s.pc k = .shown report) :
      StatsEffect s (.step k) (s.goto k .idle)
  | reset : StatsEffect s .reset { s with table := resetStats s.table, finished := [] }

lemma statsStep_effect {s s' : StatsSys} {a : StatsAct} (h : statsStep s a = some s') :
    StatsEffect s a s' := by
  cases a with
  | call k u =>
      simp only [statsStep] at h
      split at h
      · next hpc =>
          obtain rfl := Option.some.inj h
          exact .call hpc
      · exact absurd h (by simp)
  | read k =>
      simp only [statsStep] at h
      split at h
      · next hpc =>
          split_ifs at h
          · obtain rfl := Option.some.inj h
            exact .nothing hpc
          · obtain rfl := Option.some.inj h
            exact .report hpc
      · exact absurd h (by simp)
  | step k =>
      simp only [statsStep] at h
      split at h
      · exact absurd h (by simp)
      · next u hpc =>
          split at h
          · next i hlookup =>
              obtain rfl := Option.some.inj h
              exact .hit hpc hlookup
          · next hlookup =>
              split_ifs at h with hroom
              · obtain rfl := Option.some.inj h
                exact .create hpc hlookup hroom
              · obtain rfl := Option.some.inj h
                exact .drop hpc hlookup hroom
      · next u hpc =>
          obtain rfl := Option.some.inj h
          exact .address hpc
      · next u i hpc =>
          obtain rfl := Option.some.inj h
          exact .credit hpc
      · next report hpc =>
          obtain rfl := Option.some.inj h
          exact .lastLine hpc
  | reset =>
      obtain rfl := Option.some.inj h
      exact .reset

/-- Only the process that takes the step moves. -/
lemma StatsSys.goto_pc_cases {s : StatsSys} {k j : ℕ} {pc pc' : StatsPc}
    (h : (s.goto k pc).pc j = pc') : (j = k ∧ pc = pc') ∨ (j ≠ k ∧ s.pc j = pc') := by
  by_cases hjk : j = k
  · subst hjk
    exact Or.inl ⟨rfl, by simpa [goto] using h⟩
  · exact Or.inr ⟨hjk, by simpa [goto, hjk] using h⟩

/-- `device_count` never goes down. -/
lemma deviceCount_mono {s s' : StatsSys} {a : StatsAct} (h : statsStep s a = some s') :
    s.table.deviceCount ≤ s'.table.deviceCount := by
  cases statsStep_effect h with
  | create hpc hlookup hroom => exact Nat.le_succ _
  | _ => exact Nat.le_refl _

/-- The two levels agree: with nobody in between, the steps of a call do what
`updateStorageStats` does. -/
theorem update_uninterrupted {s : StatsSys} {k : ℕ} (u : StatsUpdate) (hidle : s.pc k = .idle) :
    ∃ n, run statsStep s (.call k u :: List.replicate n (.step k))
      = some { s with
          table := (updateStorageStats s.table u).1
          finished := if (updateStorageStats s.table u).2 then s.finished ++ [u]
            else s.finished } := by
  have hback : Function.update s.pc k .idle = s.pc := by rw [← hidle, Function.update_eq_self]
  cases hlookup : s.table.lookup u.device with
  | some i =>
      refine ⟨2, ?_⟩
      simp [statsStep, StatsSys.goto, hidle, hlookup, updateStorageStats, getDeviceStats, hback]
  | none =>
      by_cases hroom : s.table.deviceCount < maxDevices
      · refine ⟨3, ?_⟩
        simp [statsStep, StatsSys.goto, hidle, hlookup, hroom, updateStorageStats, getDeviceStats,
          hback]
      · refine ⟨1, ?_⟩
        simp [statsStep, StatsSys.goto, hidle, hlookup, hroom, updateStorageStats, getDeviceStats,
          hback]

/-! ## In every interleaving -/

/-- The operations of a slot are its reads and writes. -/
def Counters.Balanced (c : Counters) : Prop := c.readOps + c.writeOps = c.opCount

lemma Counters.balanced_zero : Counters.zero.Balanced := rfl

lemma Counters.Balanced.credit {c : Counters} (h : c.Balanced) (u : StatsUpdate) :
    (c.credit u).Balanced := by
  unfold Balanced at h
  cases hread : u.isRead
  · simp only [Balanced, Counters.credit, hread, Bool.false_eq_true, if_false]
    rw [← h, UInt64.add_assoc]
  · simp only [Balanced, Counters.credit, hread, if_true]
    rw [← h, UInt64.add_assoc, UInt64.add_comm 1, ← UInt64.add_assoc]

/-- What every step keeps. -/
structure Accounting (s : StatsSys) : Prop where
  bounded : s.table.deviceCount ≤ maxDevices
  created : ∀ k u, s.pc k = .created u → 0 < s.table.deviceCount
  found : ∀ k u i, s.pc k = .found u i → i < s.table.deviceCount
  balanced : ∀ i, (s.table.deviceStats i).counters.Balanced

lemma accounting_init {s : StatsSys} (h : statsInit s) : Accounting s := by
  obtain rfl := h
  exact ⟨Nat.zero_le _, nofun, nofun, fun _ => Counters.balanced_zero⟩

/-- A step that moves one process and leaves the table alone. -/
lemma Accounting.goto {s : StatsSys} (h : Accounting s) {k : ℕ} {pc : StatsPc}
    (hcreated : ∀ u, pc = .created u → 0 < s.table.deviceCount)
    (hfound : ∀ u i, pc = .found u i → i < s.table.deviceCount) : Accounting (s.goto k pc) where
  bounded := h.bounded
  created j u hj := by
    rcases StatsSys.goto_pc_cases hj with ⟨-, hpc⟩ | ⟨-, hpc⟩
    · exact hcreated u hpc
    · exact h.created j u hpc
  found j u i hj := by
    rcases StatsSys.goto_pc_cases hj with ⟨-, hpc⟩ | ⟨-, hpc⟩
    · exact hfound u i hpc
    · exact h.found j u i hpc
  balanced := h.balanced

/-- A step on the table that keeps or raises `device_count`. -/
lemma Accounting.table {s : StatsSys} (h : Accounting s) {t : StatsTable}
    {finished : List StatsUpdate} (hcount : s.table.deviceCount ≤ t.deviceCount)
    (hbounded : t.deviceCount ≤ maxDevices)
    (hbalanced : ∀ i, (t.deviceStats i).counters.Balanced) :
    Accounting { s with table := t, finished := finished } where
  bounded := hbounded
  created k u hk := Nat.lt_of_lt_of_le (h.created k u hk) hcount
  found k u i hk := Nat.lt_of_lt_of_le (h.found k u i hk) hcount
  balanced := hbalanced

lemma accounting_step {s s' : StatsSys} {a : StatsAct} (h : Accounting s)
    (hs : statsStep s a = some s') : Accounting s' := by
  cases statsStep_effect hs with
  | call hpc => exact h.goto nofun nofun
  | nothing hpc => exact h
  | report hpc => exact h.goto nofun nofun
  | hit hpc hlookup =>
      refine h.goto nofun fun u i heq => ?_
      obtain ⟨-, rfl⟩ := StatsPc.found.inj heq
      exact (StatsTable.lookup_some hlookup).1
  | @create k u hpc hlookup hroom =>
      have hbalanced : ∀ i, ((s.table.create u.device).deviceStats i).counters.Balanced := by
        intro i
        by_cases hi : i = s.table.deviceCount
        · subst hi
          rw [StatsTable.create_self]
          exact Counters.balanced_zero
        · rw [StatsTable.create_of_ne _ _ hi]
          exact h.balanced i
      have ht : Accounting { s with table := s.table.create u.device } :=
        h.table (Nat.le_succ _) hroom hbalanced
      exact ht.goto (fun _ _ => Nat.succ_pos _) nofun
  | drop hpc hlookup hfull => exact h.goto nofun nofun
  | @address k u hpc =>
      refine h.goto nofun fun u' i heq => ?_
      obtain ⟨-, rfl⟩ := StatsPc.found.inj heq
      exact Nat.sub_lt (h.created k u hpc) Nat.one_pos
  | @credit k u i hpc =>
      have hbalanced : ∀ j, ((s.table.credit i u).deviceStats j).counters.Balanced := by
        intro j
        by_cases hj : j = i
        · subst hj
          rw [StatsTable.credit_self]
          exact (h.balanced j).credit u
        · rw [StatsTable.credit_of_ne _ _ hj]
          exact h.balanced j
      have ht : Accounting { s with table := s.table.credit i u, finished := s.finished ++ [u] } :=
        h.table (Nat.le_refl _) h.bounded hbalanced
      exact ht.goto nofun nofun
  | lastLine hpc => exact h.goto nofun nofun
  | reset =>
      refine h.table (Nat.le_refl _) h.bounded fun i => ?_
      simp only [resetStats]
      split_ifs
      · exact Counters.balanced_zero
      · exact h.balanced i

/-- **Accounting.**  In every state of every interleaving of updates, resets and reports:
`device_count` is in range and no step lowers it, every slot a process is about to update is below
it (and it is positive where one is subtracted from it), the operations of every slot are its reads
and writes, and the average latency of every device in a report is taken over the total operations
shown for it, if there are any. -/
theorem stats_accounting {s : StatsSys} (h : Reach statsInit statsStep anyStep s) :
    s.table.deviceCount ≤ maxDevices ∧
      (∀ a s', statsStep s a = some s' → s.table.deviceCount ≤ s'.table.deviceCount) ∧
      (∀ k u i, s.pc k = .found u i → i < s.table.deviceCount) ∧
      (∀ k u, s.pc k = .created u → 0 < s.table.deviceCount) ∧
      (∀ i, (s.table.deviceStats i).counters.readOps + (s.table.deviceStats i).counters.writeOps
        = (s.table.deviceStats i).counters.opCount) ∧
      ∀ i, i < s.table.deviceCount → (s.table.deviceStats i).shown.averageLatency
        = if 0 < (s.table.deviceStats i).shown.totalOperations then
            (s.table.deviceStats i).counters.totalLatencyNs
              / (s.table.deviceStats i).shown.totalOperations
          else 0 := by
  have hacc : Accounting s :=
    h.invariant (fun _ => accounting_init) fun _ _ _ hI _ hs => accounting_step hI hs
  refine ⟨hacc.bounded, fun _ _ => deviceCount_mono, hacc.found, hacc.created, hacc.balanced, ?_⟩
  intro i _
  have hbalanced : (s.table.deviceStats i).counters.readOps
      + (s.table.deviceStats i).counters.writeOps = (s.table.deviceStats i).counters.opCount :=
    hacc.balanced i
  simp only [DeviceStats.shown, hbalanced]

/-- Two processes make the slots of two devices, and a reset falls between the making of the first
slot and its update. -/
def resetBetween : List StatsAct :=
  [.call 0 ⟨['a'], true, 1, 1⟩, .call 1 ⟨['b'], false, 2, 2⟩, .step 0, .step 1, .reset, .step 0,
    .step 0]

/-- The sums of the second slot agree although the reset fell into its update. -/
theorem stats_accounting_reset :
    ∃ s, Reach statsInit statsStep anyStep s ∧ s.table.deviceCount = 2 ∧
      s.table.deviceCount ≤ maxDevices ∧
      (s.table.deviceStats 1).counters.readOps + (s.table.deviceStats 1).counters.writeOps
        = (s.table.deviceStats 1).counters.opCount := by
  have hrun : (run statsStep ⟨.init, fun _ => .idle, []⟩ resetBetween).map
      (·.table.deviceCount) = some 2 := by decide +kernel
  obtain ⟨s, hs, hcount⟩ := Option.map_eq_some_iff.mp hrun
  have hinit : statsInit ⟨.init, fun _ => .idle, []⟩ := rfl
  have hreach : Reach statsInit statsStep anyStep s := (Reach.start hinit).of_run_any hs
  have hacc := stats_accounting hreach
  exact ⟨s, hreach, hcount, hacc.1, hacc.2.2.2.2.1 1⟩

/-! ## Who an update is credited to -/

/-- Every slot has the sums over the finished calls of its device. -/
def Credited (s : StatsSys) : Prop :=
  ∀ i, i < s.table.deviceCount → (s.table.deviceStats i).counters
    = .sums (s.finished.filter (·.device = (s.table.deviceStats i).deviceName))

/-- Only updates, and of devices whose names fit a slot. -/
def UpdateCalls (_ : StatsSys) : StatsAct → Prop
  | .call _ u => u.device.length < 64
  | .step _ => True
  | .read _ => False
  | .reset => False

instance (s : StatsSys) (a : StatsAct) : Decidable (UpdateCalls s a) :=
  match a with
  | .call _ u => inferInstanceAs (Decidable (u.device.length < 64))
  | .step _ => inferInstanceAs (Decidable True)
  | .read _ => inferInstanceAs (Decidable False)
  | .reset => inferInstanceAs (Decidable False)

/-- Names fit a slot, and no slot is made while another call has made one and not yet read
`device_count` for its address. -/
def OneMaker (s : StatsSys) : StatsAct → Prop
  | .call _ u => u.device.length < 64
  | .step k =>
      ∀ u, s.pc k = .lookup u → s.table.lookup u.device = none →
        s.table.deviceCount < maxDevices → ∀ j v, s.pc j ≠ .created v
  | _ => True

/-- What a run with one maker at a time keeps.  The slot that was made last is still the last one
when its maker asks for the address. -/
structure CreditInv (s : StatsSys) : Prop where
  credited : Credited s
  distinct : ∀ i j, i < s.table.deviceCount → j < s.table.deviceCount →
    (s.table.deviceStats i).deviceName = (s.table.deviceStats j).deviceName → i = j
  known : ∀ u ∈ s.finished, ∃ i, i < s.table.deviceCount ∧
    (s.table.deviceStats i).deviceName = u.device
  short : ∀ k u, s.pc k = .lookup u → u.device.length < 64
  created : ∀ k u, s.pc k = .created u → 0 < s.table.deviceCount ∧
    (s.table.deviceStats (s.table.deviceCount - 1)).deviceName = u.device
  found : ∀ k u i, s.pc k = .found u i → i < s.table.deviceCount ∧
    (s.table.deviceStats i).deviceName = u.device

lemma creditInv_init {s : StatsSys} (h : statsInit s) : CreditInv s := by
  obtain rfl := h
  exact ⟨nofun, nofun, nofun, nofun, nofun, nofun⟩

/-- A step that moves one process and leaves the table alone. -/
lemma CreditInv.goto {s : StatsSys} (h : CreditInv s) {k : ℕ} {pc : StatsPc}
    (hshort : ∀ u, pc = .lookup u → u.device.length < 64)
    (hcreated : ∀ u, pc = .created u → 0 < s.table.deviceCount ∧
      (s.table.deviceStats (s.table.deviceCount - 1)).deviceName = u.device)
    (hfound : ∀ u i, pc = .found u i → i < s.table.deviceCount ∧
      (s.table.deviceStats i).deviceName = u.device) : CreditInv (s.goto k pc) where
  credited := h.credited
  distinct := h.distinct
  known := h.known
  short j u hj := by
    rcases StatsSys.goto_pc_cases hj with ⟨-, hpc⟩ | ⟨-, hpc⟩
    · exact hshort u hpc
    · exact h.short j u hpc
  created j u hj := by
    rcases StatsSys.goto_pc_cases hj with ⟨-, hpc⟩ | ⟨-, hpc⟩
    · exact hcreated u hpc
    · exact h.created j u hpc
  found j u i hj := by
    rcases StatsSys.goto_pc_cases hj with ⟨-, hpc⟩ | ⟨-, hpc⟩
    · exact hfound u i hpc
    · exact h.found j u i hpc

/-- A new slot, when nobody else is about to ask for an address. -/
lemma CreditInv.create {s : StatsSys} (h : CreditInv s) {d : CStr} (hshort : d.length < 64)
    (hlookup : s.table.lookup d = none) (hmaker : ∀ j v, s.pc j ≠ .created v) :
    CreditInv { s with table := s.table.create d } := by
  have hold : ∀ {i}, i < s.table.deviceCount →
      (s.table.create d).deviceStats i = s.table.deviceStats i :=
    fun hi => s.table.create_of_ne d (Nat.ne_of_lt hi)
  have hname : fit 64 d = d := fit_of_lt hshort
  constructor
  · intro i hi
    rcases Nat.lt_succ_iff_lt_or_eq.mp hi with hi | rfl
    · simp only [hold hi]
      exact h.credited i hi
    · -- no finished call names the new device: it would have had a slot
      have hnone : s.finished.filter (·.device = d) = [] := by
        refine List.filter_eq_nil_iff.mpr fun v hv heq => ?_
        obtain ⟨i, hi, hv⟩ := h.known v hv
        exact StatsTable.lookup_none hlookup hi (hv.trans (decide_eq_true_eq.mp heq))
      simp only [StatsTable.create_self, hname, hnone, Counters.sums_nil]
  · intro i j hi hj heq
    simp only at hi hj heq
    rcases Nat.lt_succ_iff_lt_or_eq.mp hi with hi | rfl <;>
      rcases Nat.lt_succ_iff_lt_or_eq.mp hj with hj | rfl
    · rw [hold hi, hold hj] at heq
      exact h.distinct i j hi hj heq
    · rw [hold hi, StatsTable.create_self, hname] at heq
      exact absurd heq (StatsTable.lookup_none hlookup hi)
    · rw [hold hj, StatsTable.create_self, hname] at heq
      exact absurd heq.symm (StatsTable.lookup_none hlookup hj)
    · rfl
  · intro u hu
    obtain ⟨i, hi, hname⟩ := h.known u hu
    exact ⟨i, Nat.lt_succ_of_lt hi, by simp only [hold hi]; exact hname⟩
  · exact h.short
  · exact fun j v hj => absurd hj (hmaker j v)
  · intro j v i hj
    obtain ⟨hi, hname⟩ := h.found j v i hj
    exact ⟨Nat.lt_succ_of_lt hi, by simp only [hold hi]; exact hname⟩

/-- A call that finishes on the slot of its device. -/
lemma CreditInv.credit {s : StatsSys} (h : CreditInv s) {u : StatsUpdate} {i : ℕ}
    (hi : i < s.table.deviceCount) (hname : (s.table.deviceStats i).deviceName = u.device) :
    CreditInv { s with table := s.table.credit i u, finished := s.finished ++ [u] } := by
  constructor
  · intro j hj
    have hj : j < s.table.deviceCount := hj
    simp only [StatsTable.credit_deviceName]
    by_cases hji : j = i
    · subst hji
      rw [hname, filter_concat_self, Counters.sums_concat, StatsTable.credit_self]
      have hcredited := h.credited j hj
      rw [hname] at hcredited
      rw [hcredited]
    · have hne : (s.table.deviceStats j).deviceName ≠ u.device := fun heq =>
        hji (h.distinct j i hj hi (heq.trans hname.symm))
      rw [filter_concat_of_ne s.finished hne, StatsTable.credit_of_ne s.table u hji]
      exact h.credited j hj
  · intro j j' hj hj' heq
    simp only [StatsTable.credit_deviceName] at heq
    exact h.distinct j j' hj hj' heq
  · simp only [StatsTable.credit_deviceName, StatsTable.credit_deviceCount]
    exact List.forall_mem_append.mpr ⟨h.known, List.forall_mem_singleton.mpr ⟨i, hi, hname⟩⟩
  · exact h.short
  · simpa only [StatsTable.credit_deviceName, StatsTable.credit_deviceCount] using h.created
  · simpa only [StatsTable.credit_deviceName, StatsTable.credit_deviceCount] using h.found

lemma CreditInv.reset {s : StatsSys} (h : CreditInv s) :
    CreditInv { s with table := resetStats s.table, finished := [] } := by
  constructor
  · intro i hi
    have hi : i < s.table.deviceCount := hi
    simp [resetStats, hi]
  · intro i j hi hj heq
    simp only [resetStats_deviceName] at heq
    exact h.distinct i j hi hj heq
  · exact fun _ hu => absurd hu List.not_mem_nil
  · exact h.short
  · simpa only [resetStats_deviceName, resetStats_deviceCount] using h.created
  · simpa only [resetStats_deviceName, resetStats_deviceCount] using h.found

lemma creditInv_step {s s' : StatsSys} {a : StatsAct} (h : CreditInv s) (hok : OneMaker s a)
    (hs : statsStep s a = some s') : CreditInv s' := by
  cases statsStep_effect hs with
  | call hpc =>
      refine h.goto (fun u heq => ?_) nofun nofun
      obtain rfl := StatsPc.lookup.inj heq
      exact hok
  | nothing hpc => exact h
  | report hpc => exact h.goto nofun nofun nofun
  | hit hpc hlookup =>
      refine h.goto nofun nofun fun u i heq => ?_
      obtain ⟨rfl, rfl⟩ := StatsPc.found.inj heq
      obtain ⟨hi, hname, -⟩ := StatsTable.lookup_some hlookup
      exact ⟨hi, hname⟩
  | @create k u hpc hlookup hroom =>
      have hshort := h.short k u hpc
      refine (h.create hshort hlookup (hok u hpc hlookup hroom)).goto nofun (fun v heq => ?_) nofun
      obtain rfl := StatsPc.created.inj heq
      simp [fit_of_lt hshort]
  | drop hpc hlookup hfull => exact h.goto nofun nofun nofun
  | @address k u hpc =>
      refine h.goto nofun nofun fun v i heq => ?_
      obtain ⟨rfl, rfl⟩ := StatsPc.found.inj heq
      obtain ⟨hpos, hname⟩ := h.created k u hpc
      exact ⟨Nat.sub_lt hpos Nat.one_pos, hname⟩
  | @credit k u i hpc =>
      obtain ⟨hi, hname⟩ := h.found k u i hpc
      exact (h.credit hi hname).goto nofun nofun nofun
  | lastLine hpc => exact h.goto nofun nofun nofun
  | reset => exact h.reset

/-- **Every update is credited to its device**, in every state of a run with one maker of a slot at
a time, resets and reports included. -/
theorem updates_credited {s : StatsSys} (h : Reach statsInit statsStep OneMaker s) :
    Credited s := by
  have hinv : CreditInv s :=
    h.invariant (fun _ => creditInv_init) fun _ _ _ hI hok hs => creditInv_step hI hok hs
  exact hinv.credited

/-- Two calls for two devices: the second makes its slot when the first has its address, and both
count after that. -/
def twoUpdates : List StatsAct :=
  [.call 0 ⟨['a'], true, 8, 3⟩, .call 1 ⟨['b'], false, 4, 5⟩, .step 0, .step 0, .step 1, .step 1,
    .step 0, .step 1]

lemma twoUpdates_allowed :
    AllowedRun statsStep OneMaker ⟨.init, fun _ => .idle, []⟩ twoUpdates := by
  have hshort : ∀ c : Char, [c].length < 64 := fun c => by simp
  refine ⟨hshort 'a', hshort 'b', fun u _ _ _ j v hj => ?_, nofun, fun u _ _ _ j v hj => ?_, nofun,
    nofun, nofun, trivial⟩
  · -- both calls are still looking for their slots
    rcases StatsSys.goto_pc_cases hj with ⟨-, hpc⟩ | ⟨-, hj⟩
    · exact absurd hpc nofun
    · rcases StatsSys.goto_pc_cases hj with ⟨-, hpc⟩ | ⟨-, hpc⟩ <;> exact absurd hpc nofun
  · -- the first call has its address, and the second is looking
    rcases StatsSys.goto_pc_cases hj with ⟨-, hpc⟩ | ⟨hne, hj⟩
    · exact absurd hpc nofun
    · rcases StatsSys.goto_pc_cases hj with ⟨hzero, -⟩ | ⟨-, hj⟩
      · exact absurd hzero hne
      · rcases StatsSys.goto_pc_cases hj with ⟨-, hpc⟩ | ⟨-, hj⟩
        · exact absurd hpc nofun
        · rcases StatsSys.goto_pc_cases hj with ⟨-, hpc⟩ | ⟨-, hpc⟩ <;> exact absurd hpc nofun

/-- Each is counted in its own slot. -/
theorem updates_credited_two :
    ∃ s, Reach statsInit statsStep OneMaker s ∧ Credited s ∧
      (s.table.deviceStats 0).counters = ⟨1, 0, 8, 0, 3, 1⟩ ∧
      (s.table.deviceStats 1).counters = ⟨0, 1, 0, 4, 5, 1⟩ := by
  have hrun : (run statsStep ⟨.init, fun _ => .idle, []⟩ twoUpdates).map
      (fun s => ((s.table.deviceStats 0).counters, (s.table.deviceStats 1).counters))
        = some (⟨1, 0, 8, 0, 3, 1⟩, ⟨0, 1, 0, 4, 5, 1⟩) := by decide +kernel
  obtain ⟨s, hs, hcounters⟩ := Option.map_eq_some_iff.mp hrun
  obtain ⟨hfirst, hsecond⟩ := Prod.mk.inj hcounters
  have hinit : statsInit ⟨.init, fun _ => .idle, []⟩ := rfl
  have hreach : Reach statsInit statsStep OneMaker s :=
    (Reach.start hinit).of_run twoUpdates_allowed hs
  exact ⟨s, hreach, updates_credited hreach, hfirst, hsecond⟩

/-- The slots of two devices are made before either maker reads `device_count`. -/
def twoMakers : List StatsAct :=
  [.call 0 ⟨['a'], true, 8, 3⟩, .call 1 ⟨['b'], true, 4, 5⟩, .step 0, .step 1, .step 0, .step 1,
    .step 0, .step 1]

/-- Then both updates go to the slot of the second device. -/
theorem update_credited_to_other :
    ¬ ∀ s, Reach statsInit statsStep UpdateCalls s → (∀ k, s.pc k = .idle) → Credited s := by
  intro hclaim
  have hinit : statsInit ⟨.init, fun _ => .idle, []⟩ := rfl
  have hrun : (run statsStep ⟨.init, fun _ => .idle, []⟩ twoMakers).map
      (fun s => (s.table.deviceCount, (s.table.deviceStats 0).counters,
        (s.table.deviceStats 0).deviceName, s.finished))
      = some (2, .zero, ['a'], [⟨['a'], true, 8, 3⟩, ⟨['b'], true, 4, 5⟩]) := by decide +kernel
  obtain ⟨s, hs, heq⟩ := Option.map_eq_some_iff.mp hrun
  simp only [Prod.mk.injEq] at heq
  obtain ⟨hcount, hcounters, hname, hfinished⟩ := heq
  have hreach : Reach statsInit statsStep UpdateCalls s :=
    (Reach.start hinit).of_run (by decide +kernel) hs
  have hidle : ∀ k, s.pc k = .idle := by
    intro k
    have hk : (run statsStep ⟨.init, fun _ => .idle, []⟩ twoMakers).map (fun s => s.pc k)
        = some .idle := by
      rcases k with _ | _ | k <;> rfl
    rw [hs] at hk
    exact Option.some.inj hk
  -- the call for `a` has finished, and the slot of `a` has not counted it
  have hcredited := hclaim s hreach hidle 0 (by rw [hcount]; decide)
  rw [hcounters, hname, hfinished] at hcredited
  exact absurd hcredited (by decide +kernel)

end Storage

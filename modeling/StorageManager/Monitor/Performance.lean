import StorageManager.Lib.CString
import Mathlib.Algebra.Order.Field.Basic
import Mathlib.Algebra.Order.Field.Rat
import Mathlib.Data.List.Induction
import Mathlib.Tactic.Linarith

/-!
# Performance samples

`monitor_get_current_performance` turns counters into rates by comparing them with the reading
before.  That reading is kept in two static variables, one for all devices.

**What the state is.**  A call that cannot read the counters changes nothing; any other leaves its
own reading behind, whatever was there (`stateAfter_eq`).  So a sample is decided by the call and by
the last successful call before it.

**Other devices.**  The samples of a device are those of its own calls alone as long as nothing
comes between them: `samples_independent`.  In any other order of calls there are readings for which
they are not.

A sample after a reading of the same device in the same second is left as it was
(`sample_of_same`), and the reading is replaced all the same; `Monitor/Conservation.lean` says what
that loses.
-/

namespace Storage

open CString

/-- What `parse_diskstats` reads for a device. -/
structure DiskCounters where
  reads : UInt64
  writes : UInt64
  readSectors : UInt64
  writeSectors : UInt64
  deriving DecidableEq

/-- `device_stats_t` of `monitor.h`. -/
structure DiskStats where
  device : CStr
  reads : UInt64
  writes : UInt64
  readBytes : UInt64
  writeBytes : UInt64
  avgReadLatencyMs : ℚ
  avgWriteLatencyMs : ℚ
  queueDepth : ℤ
  lastUpdate : ℤ
  deriving DecidableEq

/-- `performance_sample_t`. -/
structure PerformanceSample where
  timestamp : ℤ
  iops : ℚ
  throughputMbs : ℚ
  latencyMs : ℚ
  activeRequests : ℤ
  deriving DecidableEq

/-- `monitor_get_device_stats`; `counters` is `none` when the device is not listed. -/
def monitorGetDeviceStats (device : CStr) (counters : Option DiskCounters) (now : ℤ) :
    Option DiskStats :=
  counters.map fun c =>
    { device := fit 64 device
      reads := c.reads
      writes := c.writes
      readBytes := c.readSectors * 512
      writeBytes := c.writeSectors * 512
      avgReadLatencyMs := 0
      avgWriteLatencyMs := 0
      queueDepth := 0
      lastUpdate := now }

/-- `prev_stats` and `prev_time`. -/
structure PerfState where
  prevStats : DiskStats
  prevTime : ℤ
  deriving DecidableEq

/-- The static variables when the program starts. -/
def PerfState.init : PerfState := ⟨⟨[], 0, 0, 0, 0, 0, 0, 0, 0⟩, 0⟩

/-- A call: the device, what the two system calls read, and the contents of `*sample`. -/
structure PerfCall where
  device : CStr
  counters : Option DiskCounters
  statsClock : ℤ
  clock : ℤ
  prior : PerformanceSample
  deriving DecidableEq

/-- `monitor_get_current_performance`: the static variables after it and the sample, or `none` when
it returns -1. -/
def monitorGetCurrentPerformance (st : PerfState) (c : PerfCall) :
    PerfState × Option PerformanceSample :=
  match monitorGetDeviceStats c.device c.counters c.statsClock with
  | none => (st, none)
  | some curr =>
      let sample := { c.prior with timestamp := c.clock }
      let sample :=
        if 0 < st.prevTime ∧ st.prevStats.device = c.device then
          let timeDiff := c.clock - st.prevTime
          if 0 < timeDiff then
            let readDiff := curr.readBytes - st.prevStats.readBytes
            let writeDiff := curr.writeBytes - st.prevStats.writeBytes
            let opsDiff := (curr.reads + curr.writes) - (st.prevStats.reads + st.prevStats.writes)
            { sample with
              iops := (opsDiff.toNat : ℚ) / timeDiff
              throughputMbs := ((readDiff + writeDiff).toNat : ℚ) / (timeDiff * 1024 * 1024)
              latencyMs := curr.avgReadLatencyMs
              activeRequests := curr.queueDepth }
          else sample
        else { sample with iops := 0, throughputMbs := 0, latencyMs := 0, activeRequests := 0 }
      (⟨curr, c.clock⟩, some sample)

/-! ## The state after some calls -/

/-- The static variables after some calls. -/
def stateAfter (st : PerfState) (h : List PerfCall) : PerfState :=
  h.foldl (fun st c => (monitorGetCurrentPerformance st c).1) st

/-- The outcomes of the calls for `d`. -/
def samplesFrom (d : CStr) (st : PerfState) : List PerfCall → List (Option PerformanceSample)
  | [] => []
  | c :: cs =>
      let r := monitorGetCurrentPerformance st c
      if c.device = d then r.2 :: samplesFrom d r.1 cs else samplesFrom d r.1 cs

/-- The outcomes of the calls for `d` since the process started. -/
def samplesFor (d : CStr) (h : List PerfCall) : List (Option PerformanceSample) :=
  samplesFrom d .init h

/-- The calls for `d`. -/
def callsFor (d : CStr) (h : List PerfCall) : List PerfCall := h.filter (·.device = d)

/-- The calls that read their counters. -/
def readings (h : List PerfCall) : List PerfCall := h.filter (·.counters.isSome)

/-- The static variables after a call that reads its counters. -/
def PerfCall.state (c : PerfCall) : PerfState := (monitorGetCurrentPerformance .init c).1

section State

variable {d : CStr} {st : PerfState} {c : PerfCall}

lemma monitorGetCurrentPerformance_failed (hc : c.counters.isSome = false) :
    monitorGetCurrentPerformance st c = (st, none) := by
  rw [Option.isSome_eq_false_iff, Option.isNone_iff_eq_none] at hc
  simp only [monitorGetCurrentPerformance, monitorGetDeviceStats, hc, Option.map_none]

lemma monitorGetCurrentPerformance_state (hc : c.counters.isSome = true) :
    (monitorGetCurrentPerformance st c).1 = c.state := by
  obtain ⟨x, hx⟩ := Option.isSome_iff_exists.mp hc
  simp only [PerfCall.state, monitorGetCurrentPerformance, monitorGetDeviceStats, hx,
    Option.map_some]

lemma device_state (hc : c.counters.isSome = true) :
    c.state.prevStats.device = fit 64 c.device ∧ c.state.prevTime = c.clock := by
  obtain ⟨x, hx⟩ := Option.isSome_iff_exists.mp hc
  simp only [PerfCall.state, monitorGetCurrentPerformance, monitorGetDeviceStats, hx,
    Option.map_some, and_self]

/-- Without an earlier reading of the same device all rates are zero. -/
lemma sample_of_ne (hc : c.counters.isSome = true)
    (hst : ¬ (0 < st.prevTime ∧ st.prevStats.device = c.device)) :
    (monitorGetCurrentPerformance st c).2 = some ⟨c.clock, 0, 0, 0, 0⟩ := by
  obtain ⟨x, hx⟩ := Option.isSome_iff_exists.mp hc
  simp only [monitorGetCurrentPerformance, monitorGetDeviceStats, hx, Option.map_some, if_neg hst]

/-- After a reading of the same device at an earlier time the sample has the rates of the interval
between the two. -/
lemma sample_of_later {p : PerfCall} {x y : DiskCounters} (hp : p.counters = some x)
    (hc : c.counters = some y) (hdev : fit 64 p.device = c.device) (hpos : 0 < p.clock)
    (hlt : p.clock < c.clock) :
    (monitorGetCurrentPerformance p.state c).2 = some
      { timestamp := c.clock
        iops := (((y.reads + y.writes) - (x.reads + x.writes)).toNat : ℚ) / (c.clock - p.clock : ℤ)
        throughputMbs := (((y.readSectors * 512 - x.readSectors * 512)
          + (y.writeSectors * 512 - x.writeSectors * 512)).toNat : ℚ)
            / ((c.clock - p.clock : ℤ) * 1024 * 1024)
        latencyMs := 0
        activeRequests := 0 } := by
  have hdiff : 0 < c.clock - p.clock := by omega
  simp only [PerfCall.state, monitorGetCurrentPerformance, monitorGetDeviceStats, hp, hc,
    Option.map_some, hdev, hpos, and_self, if_true, hdiff]

/-- After a reading of the same device in the same second the fields are left as they were. -/
lemma sample_of_same {p : PerfCall} {x y : DiskCounters} (hp : p.counters = some x)
    (hc : c.counters = some y) (hdev : fit 64 p.device = c.device) (hpos : 0 < p.clock)
    (hle : c.clock ≤ p.clock) :
    (monitorGetCurrentPerformance p.state c).2 = some { c.prior with timestamp := c.clock } := by
  have hdiff : ¬ 0 < c.clock - p.clock := by omega
  simp only [PerfCall.state, monitorGetCurrentPerformance, monitorGetDeviceStats, hp, hc,
    Option.map_some, hdev, hpos, and_self, if_true, if_neg hdiff]

lemma stateAfter_concat (st : PerfState) (h : List PerfCall) (c : PerfCall) :
    stateAfter st (h ++ [c]) = (monitorGetCurrentPerformance (stateAfter st h) c).1 := by
  simp [stateAfter, List.foldl_append]

/-- The static variables hold the last reading. -/
lemma stateAfter_eq (h : List PerfCall) :
    stateAfter .init h = ((readings h).getLast?.map PerfCall.state).getD .init := by
  induction h using List.reverseRecOn with
  | nil => rfl
  | append_singleton h c ih =>
      rw [stateAfter_concat, readings, List.filter_append, ← readings, List.filter_cons,
        List.filter_nil]
      cases hc : c.counters.isSome with
      | false => simp [monitorGetCurrentPerformance_failed hc, ih]
      | true => simp [monitorGetCurrentPerformance_state hc]

lemma samplesFrom_cons (hc : c.counters.isSome = true) (hdev : c.device = d) (h : List PerfCall) :
    samplesFrom d st (c :: h)
      = (monitorGetCurrentPerformance st c).2 :: samplesFrom d c.state h := by
  simp only [samplesFrom, hdev, if_true, monitorGetCurrentPerformance_state hc]

lemma samplesFrom_cons_ne (hc : c.counters.isSome = true) (hdev : c.device ≠ d)
    (h : List PerfCall) : samplesFrom d st (c :: h) = samplesFrom d c.state h := by
  simp only [samplesFrom, hdev, if_false, monitorGetCurrentPerformance_state hc]

lemma samplesFrom_append (d : CStr) (st : PerfState) (h h' : List PerfCall) :
    samplesFrom d st (h ++ h') = samplesFrom d st h ++ samplesFrom d (stateAfter st h) h' := by
  induction h generalizing st with
  | nil => rfl
  | cons c h ih =>
      simp only [List.cons_append, samplesFrom, ih]
      split_ifs <;> rfl

lemma length_samplesFrom (d : CStr) (st : PerfState) (h : List PerfCall) :
    (samplesFrom d st h).length = (callsFor d h).length := by
  induction h generalizing st with
  | nil => rfl
  | cons c h ih =>
      simp only [samplesFrom, callsFor, List.filter_cons, decide_eq_true_eq]
      split_ifs
      · rw [List.length_cons, ih, List.length_cons, callsFor]
      · rw [ih, callsFor]

end State

/-! ## Other devices -/

/-- The devices that were read, in order. -/
def devicesRead (h : List PerfCall) : List CStr := (readings h).map (·.device)

/-- What is read directly before `d` is `d`, or it does not pass for `d` and `d` has not been read
yet. -/
def Undisturbed (d : CStr) (devices : List CStr) : Prop :=
  ∀ l e m, devices = l ++ e :: d :: m → e = d ∨ (fit 64 e ≠ d ∧ d ∉ l)

section Devices

variable {d : CStr}

lemma Undisturbed.of_append {devices devices' : List CStr}
    (h : Undisturbed d (devices ++ devices')) : Undisturbed d devices := by
  rintro l e m rfl
  exact h l e (m ++ devices') (by simp)

/-- Reading `d` several times in a row, after devices that do not pass for it. -/
lemma undisturbed_append (hd : d.length < 64) (before own : List CStr)
    (hbefore : ∀ e ∈ before, fit 64 e ≠ d) (hown : ∀ e ∈ own, e = d) :
    Undisturbed d (before ++ own) := by
  have hnot : d ∉ before := fun hmem => hbefore d hmem (fit_of_lt hd)
  intro l e m heq
  rcases List.append_eq_append_iff.mp heq with ⟨as, rfl, rfl⟩ | ⟨bs, rfl, hrest⟩
  · exact Or.inl (hown e (by simp))
  · rcases bs with _ | ⟨b, _ | ⟨b', bs⟩⟩
    · exact Or.inl (hown e (by rw [← List.nil_append own, ← hrest]; simp))
    · obtain ⟨rfl, -⟩ := List.cons.inj hrest
      exact Or.inr ⟨hbefore e (by simp), fun hmem => hnot (by simp [hmem])⟩
    · obtain ⟨-, hrest⟩ := List.cons.inj hrest
      obtain ⟨rfl, -⟩ := List.cons.inj hrest
      exact absurd (by simp) hnot

lemma readings_append (h h' : List PerfCall) : readings (h ++ h') = readings h ++ readings h' :=
  List.filter_append h h'

lemma readings_cons {c : PerfCall} (hc : c.counters.isSome = true) (h : List PerfCall) :
    readings (c :: h) = c :: readings h :=
  List.filter_cons_of_pos hc

lemma readings_callsFor (h : List PerfCall) :
    readings (callsFor d h) = (readings h).filter (·.device = d) := by
  simp only [readings, callsFor, List.filter_filter, Bool.and_comm]

/-- In an undisturbed history the sample of a call for `d` is the one it has without the calls for
other devices. -/
lemma sample_alone (hd : d.length < 64) {h : List PerfCall} {c : PerfCall} (hdev : c.device = d)
    (hc : c.counters.isSome = true) (hu : Undisturbed d (devicesRead (h ++ [c]))) :
    (monitorGetCurrentPerformance (stateAfter .init h) c).2
      = (monitorGetCurrentPerformance (stateAfter .init (callsFor d h)) c).2 := by
  have hread : devicesRead (h ++ [c]) = (readings h).map (·.device) ++ [d] := by
    simp [devicesRead, readings, List.filter_append, hc, hdev]
  rw [hread] at hu
  rw [stateAfter_eq, stateAfter_eq, readings_callsFor]
  rcases List.eq_nil_or_concat' (readings h) with hnil | ⟨l, e, hconcat⟩
  · simp [hnil]
  · have he : e.counters.isSome = true := by
      have hmem : e ∈ readings h := by simp [hconcat]
      exact (List.mem_filter.mp hmem).2
    rw [hconcat] at hu ⊢
    rcases hu (l.map (·.device)) e.device [] (by simp) with hsame | ⟨hother, hfirst⟩
    · -- the last reading is one of `d` itself
      simp [List.filter_append, hsame]
    · have hne : e.device ≠ d := by
        rintro rfl
        exact hother (fit_of_lt hd)
      have hnone : (l ++ [e]).filter (fun x => decide (x.device = d)) = [] := by
        rw [List.filter_eq_nil_iff]
        intro x hx
        rcases List.mem_append.mp hx with hx | hx
        · simp only [decide_eq_true_eq]
          rintro rfl
          exact hfirst (List.mem_map_of_mem hx)
        · rw [List.mem_singleton.mp hx]
          simpa using hne
      rw [hnone, sample_of_ne hc, sample_of_ne hc]
      · simp [PerfState.init]
      · simp [(device_state he).1, hdev, hother]

/-- The samples of `d` in an undisturbed history are those of its own calls alone. -/
lemma samplesFor_alone (hd : d.length < 64) {h : List PerfCall}
    (hu : Undisturbed d (devicesRead h)) : samplesFor d h = samplesFor d (callsFor d h) := by
  induction h using List.reverseRecOn with
  | nil => rfl
  | append_singleton h c ih =>
      have hprev : Undisturbed d (devicesRead h) := by
        rw [devicesRead, readings, List.filter_append, List.map_append] at hu
        exact hu.of_append
      have hcalls : callsFor d (h ++ [c]) = callsFor d h ++ callsFor d [c] := List.filter_append ..
      rw [hcalls, samplesFor, samplesFor, samplesFrom_append, samplesFrom_append, ← samplesFor,
        ← samplesFor, ih hprev]
      congr 1
      by_cases hdev : c.device = d
      · simp only [callsFor, List.filter_cons, List.filter_nil, hdev, decide_true, if_true,
          samplesFrom]
        cases hc : c.counters.isSome with
        | false => simp only [monitorGetCurrentPerformance_failed hc]
        | true => rw [sample_alone hd hdev hc hu, callsFor]
      · simp [callsFor, samplesFrom, hdev]

/-! ### Readings that tell -/

/-- Call number `i`, one a second; there is one operation before call number `busy`. -/
def tellingCall (busy i : ℕ) (device : CStr) : PerfCall where
  device := device
  counters := some ⟨if i < busy then 0 else 1, 0, 0, 0⟩
  statsClock := i + 1
  clock := i + 1
  prior := ⟨0, 0, 0, 0, 0⟩

/-- The operation is in the sample of call number `busy` if an earlier call passes for one of the
same device. -/
lemma iops_tellingCall {device : CStr} (hdevice : fit 64 device = d) {busy i : ℕ} (hi : i < busy) :
    (monitorGetCurrentPerformance (tellingCall busy i device).state (tellingCall busy busy d)).2.map
      (·.iops) = some (1 / (busy - i : ℚ)) := by
  have hlater : (tellingCall busy i device).clock < (tellingCall busy busy d).clock := by
    simp only [tellingCall]
    omega
  rw [sample_of_later rfl rfl hdevice (by simp only [tellingCall]; omega) hlater, Option.map_some]
  simp only [tellingCall, hi, if_true, lt_irrefl, if_false, Option.some.injEq]
  push_cast
  rw [add_sub_add_right_eq_sub]

lemma isSome_tellingCall (busy i : ℕ) (device : CStr) :
    (tellingCall busy i device).counters.isSome = true := rfl

lemma isSome_of_mem_telling {busy : ℕ} {l : List CStr} {c : PerfCall}
    (hc : c ∈ l.mapIdx fun i device => tellingCall busy i device) : c.counters.isSome = true := by
  obtain ⟨i, -, rfl⟩ := List.mem_mapIdx.mp hc
  exact isSome_tellingCall busy i _

/-- Telling calls for `l`, `e`, `d` and `m` are all read. -/
lemma devicesRead_telling (busy : ℕ) (l m : List CStr) (e : CStr) :
    devicesRead ((l.mapIdx fun i device => tellingCall busy i device) ++
        tellingCall busy l.length e :: tellingCall busy busy d ::
          m.map (tellingCall busy (busy + 1)))
      = l ++ e :: d :: m := by
  have hl : readings (l.mapIdx fun i device => tellingCall busy i device)
      = l.mapIdx fun i device => tellingCall busy i device :=
    List.filter_eq_self.mpr fun _ hc => isSome_of_mem_telling hc
  have hm : readings (m.map (tellingCall busy (busy + 1)))
      = m.map (tellingCall busy (busy + 1)) := by
    refine List.filter_eq_self.mpr fun c hc => ?_
    obtain ⟨device, -, rfl⟩ := List.mem_map.mp hc
    exact isSome_tellingCall busy _ device
  have hdevices : (l.mapIdx fun i device => tellingCall busy i device).map (·.device) = l := by
    refine List.ext_getElem (by simp) fun i _ _ => ?_
    simp [tellingCall]
  rw [devicesRead, readings_append, hl, readings_cons (isSome_tellingCall _ _ _),
    readings_cons (isSome_tellingCall _ _ _), hm, List.map_append, hdevices]
  simp [tellingCall, Function.comp_def]

/-- What call number `busy` reports after calls for `l`, without those for other devices. -/
lemma iops_alone (hd : d.length < 64) (l : List CStr) :
    let pre := l.mapIdx fun i device => tellingCall (l.length + 1) i device
    ∃ q : ℚ, q < 1 ∧ (d ∈ l → 0 < q) ∧
      (monitorGetCurrentPerformance (stateAfter .init (callsFor d pre))
        (tellingCall (l.length + 1) (l.length + 1) d)).2.map (·.iops) = some q := by
  intro pre
  have hread : readings (callsFor d pre) = callsFor d pre :=
    List.filter_eq_self.mpr fun _ hc => isSome_of_mem_telling (List.mem_filter.mp hc).1
  rw [stateAfter_eq, hread]
  cases hlast : (callsFor d pre).getLast? with
  | none =>
      refine ⟨0, by norm_num, fun hmem => ?_, ?_⟩
      · obtain ⟨i, hi, hget⟩ := List.getElem_of_mem hmem
        have hcall : tellingCall (l.length + 1) i d ∈ callsFor d pre :=
          List.mem_filter.mpr ⟨List.mem_mapIdx.mpr ⟨i, hi, by rw [hget]⟩, by simp [tellingCall]⟩
        rw [List.getLast?_eq_none_iff.mp hlast] at hcall
        exact absurd hcall List.not_mem_nil
      · rw [sample_of_ne rfl (by simp [PerfState.init])]
        rfl
  | some p =>
      have hp := List.mem_filter.mp (List.mem_of_getLast? hlast)
      obtain ⟨i, hi, rfl⟩ := List.mem_mapIdx.mp hp.1
      have hdevice : fit 64 l[i] = d := by
        have heq : l[i] = d := of_decide_eq_true hp.2
        rw [heq, fit_of_lt hd]
      have hwide : (2 : ℚ) ≤ ((l.length + 1 : ℕ) : ℚ) - i := by
        have hle : i + 2 ≤ l.length + 1 := by omega
        have hcast : ((i + 2 : ℕ) : ℚ) ≤ (l.length + 1 : ℕ) := Nat.cast_le.mpr hle
        push_cast at hcast ⊢
        linarith
      refine ⟨1 / (((l.length + 1 : ℕ) : ℚ) - i), ?_, fun _ => ?_, ?_⟩
      · rw [div_lt_one (by linarith)]
        linarith
      · exact one_div_pos.mpr (by linarith)
      · exact iops_tellingCall hdevice (by omega)

/-- In every other order there are readings for which the samples of `d` are not those of its own
calls alone. -/
lemma exists_disturbed (hd : d.length < 64) {devices : List CStr} (hu : ¬ Undisturbed d devices) :
    ∃ h, devicesRead h = devices ∧ samplesFor d h ≠ samplesFor d (callsFor d h) := by
  simp only [Undisturbed, not_forall] at hu
  obtain ⟨l, e, m, rfl, hbad⟩ := hu
  rw [not_or, not_and_or, not_not, not_not] at hbad
  obtain ⟨hne, hbad⟩ := hbad
  let busy := l.length + 1
  let pre := l.mapIdx fun i device => tellingCall busy i device
  let between := tellingCall busy l.length e
  let asked := tellingCall busy busy d
  let post := m.map (tellingCall busy (busy + 1))
  have hasked : asked.device = d := rfl
  have hcalls : callsFor d (pre ++ between :: asked :: post)
      = callsFor d pre ++ asked :: callsFor d post := by
    simp [callsFor, between, asked, tellingCall, hne]
  refine ⟨pre ++ between :: asked :: post, devicesRead_telling busy l m e, fun heq => ?_⟩
  -- the samples before are as many in both, so those of `asked` are compared
  have hlen : (samplesFrom d .init pre).length
      = (samplesFrom d .init (callsFor d pre)).length := by
    rw [length_samplesFrom, length_samplesFrom, callsFor, callsFor, List.filter_filter]
    simp
  rw [hcalls, samplesFor, samplesFor, samplesFrom_append, samplesFrom_append,
    samplesFrom_cons_ne rfl hne, samplesFrom_cons rfl hasked, samplesFrom_cons rfl hasked] at heq
  have hsame := congrArg (Option.map (·.iops)) (List.cons.inj (List.append_inj_right heq hlen)).1
  obtain ⟨q, hone, hpos, hq⟩ := iops_alone hd l
  rw [hq] at hsame
  by_cases hfit : fit 64 e = d
  · rw [iops_tellingCall hfit (Nat.lt_succ_self _)] at hsame
    simp at hsame
    linarith
  · rw [sample_of_ne rfl fun hst => hfit hst.2, Option.map_some, Option.some.injEq] at hsame
    have := hpos (hbad.resolve_left hfit)
    linarith

/-- **Samples of one device and calls for others.**  Two histories with the same calls for `d` give
`d` the same samples if nothing else is read between those calls, and nothing before them passes
for `d`.  In every other order there are readings for which a history gives `d` other samples than
its calls for `d` alone. -/
theorem samples_independent (hd : d.length < 64) :
    (∀ h₁ h₂, Undisturbed d (devicesRead h₁) → Undisturbed d (devicesRead h₂) →
      callsFor d h₁ = callsFor d h₂ → samplesFor d h₁ = samplesFor d h₂) ∧
    ∀ devices, ¬ Undisturbed d devices →
      ∃ h, devicesRead h = devices ∧ samplesFor d h ≠ samplesFor d (callsFor d h) := by
  refine ⟨fun h₁ h₂ hu₁ hu₂ hcalls => ?_, fun devices hu => exists_disturbed hd hu⟩
  rw [samplesFor_alone hd hu₁, samplesFor_alone hd hu₂, hcalls]

end Devices

/-- A call for `device` at time `t`, when it has made `ops` reads. -/
def askAt (device : CStr) (ops : UInt64) (t : ℤ) : PerfCall where
  device := device
  counters := some ⟨ops, 0, 0, 0⟩
  statsClock := t
  clock := t
  prior := ⟨0, 0, 0, 0, 0⟩

/-- A call for `sdb` before those for `sda` makes no difference. -/
theorem samples_independent_before :
    samplesFor ['s', 'd', 'a']
        [askAt ['s', 'd', 'b'] 7 1, askAt ['s', 'd', 'a'] 0 2, askAt ['s', 'd', 'a'] 10 3]
      = samplesFor ['s', 'd', 'a'] [askAt ['s', 'd', 'a'] 0 2, askAt ['s', 'd', 'a'] 10 3] := by
  refine (samples_independent (by decide)).1 _ _ ?_ ?_ (by decide)
  · exact undisturbed_append (by decide) [['s', 'd', 'b']] [['s', 'd', 'a'], ['s', 'd', 'a']]
      (by decide) (by decide)
  · exact undisturbed_append (by decide) [] [['s', 'd', 'a'], ['s', 'd', 'a']] (by decide)
      (by decide)

/-- A call for `sdb` between two calls for `sda` hides ten operations of `sda`. -/
theorem samples_depend_on_others :
    ¬ ∀ (d : CStr) (h₁ h₂ : List PerfCall), d.length < 64 → callsFor d h₁ = callsFor d h₂ →
      samplesFor d h₁ = samplesFor d h₂ := by
  intro hclaim
  have hsame := hclaim ['s', 'd', 'a']
    [askAt ['s', 'd', 'a'] 0 1, askAt ['s', 'd', 'b'] 7 2, askAt ['s', 'd', 'a'] 10 3]
    [askAt ['s', 'd', 'a'] 0 1, askAt ['s', 'd', 'a'] 10 3] (by decide) (by decide)
  exact absurd hsame (by decide +kernel)

end Storage

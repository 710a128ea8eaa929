import StorageManager.Monitor.Performance
import Mathlib.Data.List.Chain

/-!
# What the samples of a device add up to

Successive calls of `monitor_get_current_performance` for one device.  A sample gives the rate since
the call before, so the rates times the intervals should add up to the operations between the first
call and the last.

Two things stand in the way.  A call in the same second as the one before leaves the fields of
`*sample` as it found them, and still replaces the reading it would have to be compared with.  And
after a reading at a time that is not positive the next sample is zero.  `interval` is what one
sample accounts for; `accounted_eq_iff` says when nothing is missing from the sum.
-/

namespace Storage

open CString

/-- One observation of the device. -/
structure Reading where
  counters : DiskCounters
  statsClock : ℤ
  clock : ℤ
  deriving DecidableEq

/-- Reads and writes so far. -/
def Reading.ops (r : Reading) : ℕ := r.counters.reads.toNat + r.counters.writes.toNat

/-- The call for `d` that makes the observation, with what it finds in `*sample`. -/
def Reading.call (d : CStr) (x : Reading × PerformanceSample) : PerfCall where
  device := d
  counters := some x.1.counters
  statsClock := x.1.statsClock
  clock := x.1.clock
  prior := x.2

/-- The samples of successive calls for `d`. -/
def sampling (d : CStr) (st : PerfState) (h : List (Reading × PerformanceSample)) :
    List PerformanceSample :=
  (samplesFrom d st (h.map (Reading.call d))).reduceOption

/-- The operations the samples account for: each rate times the time since the sample before. -/
def totalOps : List PerformanceSample → ℚ
  | a :: b :: rest => b.iops * (b.timestamp - a.timestamp : ℤ) + totalOps (b :: rest)
  | _ => 0

/-- Clock and counters do not go back. -/
def Reading.Advances (a b : Reading) : Prop :=
  a.clock ≤ b.clock ∧ a.counters.reads ≤ b.counters.reads ∧ a.counters.writes ≤ b.counters.writes

/-! ## One sample -/

/-- The static variables after a reading. -/
def Reading.state (d : CStr) (r : Reading) : PerfState :=
  (Reading.call d (r, ⟨0, 0, 0, 0, 0⟩)).state

/-- The sample of one call. -/
def sampleAt (d : CStr) (st : PerfState) (x : Reading × PerformanceSample) : PerformanceSample :=
  ((monitorGetCurrentPerformance st (Reading.call d x)).2).getD x.2

section Samples

variable {d : CStr} {st : PerfState} {a b : Reading}

lemma sampling_cons (x : Reading × PerformanceSample) (h : List (Reading × PerformanceSample)) :
    sampling d st (x :: h) = sampleAt d st x :: sampling d (x.1.state d) h := by
  have hdev : (Reading.call d x).device = d := rfl
  have hstate : (Reading.call d x).state = x.1.state d := rfl
  rw [sampling, List.map_cons, samplesFrom_cons rfl hdev, hstate]
  rfl

lemma timestamp_sampleAt (x : Reading × PerformanceSample) :
    (sampleAt d st x).timestamp = x.1.clock := by
  by_cases hst : 0 < st.prevTime ∧ st.prevStats.device = d
  · by_cases hlt : 0 < x.1.clock - st.prevTime <;>
      simp only [sampleAt, monitorGetCurrentPerformance, monitorGetDeviceStats, Reading.call,
        Option.map_some, Option.getD_some, hst, hlt, and_self, if_true, if_false]
  · rw [sampleAt, sample_of_ne rfl hst]
    rfl

lemma sampleAt_idle (hst : ¬ 0 < st.prevTime) (x : Reading × PerformanceSample) :
    sampleAt d st x = ⟨x.1.clock, 0, 0, 0, 0⟩ := by
  rw [sampleAt, sample_of_ne rfl fun h => hst h.1]
  rfl

lemma sampleAt_same (hd : d.length < 64) (hpos : 0 < a.clock) (hle : b.clock ≤ a.clock)
    (p : PerformanceSample) :
    sampleAt d (a.state d) (b, p) = { p with timestamp := b.clock } := by
  have hsample := sample_of_same (p := Reading.call d (a, ⟨0, 0, 0, 0, 0⟩))
    (c := Reading.call d (b, p)) rfl rfl (fit_of_lt hd) hpos hle
  rw [sampleAt, Reading.state, hsample]
  rfl

lemma sampleAt_later (hd : d.length < 64) (hpos : 0 < a.clock) (hlt : a.clock < b.clock)
    (p : PerformanceSample) :
    sampleAt d (a.state d) (b, p) =
      { timestamp := b.clock
        iops := (((b.counters.reads + b.counters.writes)
          - (a.counters.reads + a.counters.writes)).toNat : ℚ) / (b.clock - a.clock : ℤ)
        throughputMbs := (((b.counters.readSectors * 512 - a.counters.readSectors * 512)
          + (b.counters.writeSectors * 512 - a.counters.writeSectors * 512)).toNat : ℚ)
            / ((b.clock - a.clock : ℤ) * 1024 * 1024)
        latencyMs := 0
        activeRequests := 0 } := by
  have hsample := sample_of_later (p := Reading.call d (a, ⟨0, 0, 0, 0, 0⟩))
    (c := Reading.call d (b, p)) rfl rfl (fit_of_lt hd) hpos hlt
  rw [sampleAt, Reading.state, hsample]
  rfl

/-- A sample depends on what was in `*sample` only when it comes in the same second as the reading
before. -/
lemma sampleAt_congr_iff (hd : d.length < 64) :
    (∀ p p', sampleAt d (a.state d) (b, p) = sampleAt d (a.state d) (b, p')) ↔
      ¬ (0 < a.clock ∧ b.clock ≤ a.clock) := by
  constructor
  · rintro h ⟨hpos, hle⟩
    have hdiff := h ⟨0, 0, 0, 0, 0⟩ ⟨0, 1, 0, 0, 0⟩
    rw [sampleAt_same hd hpos hle, sampleAt_same hd hpos hle] at hdiff
    simp at hdiff
  · intro h p p'
    by_cases hpos : 0 < a.clock
    · have hlt : a.clock < b.clock := by omega
      rw [sampleAt_later hd hpos hlt, sampleAt_later hd hpos hlt]
    · rw [sampleAt_idle hpos, sampleAt_idle hpos]

/-- The samples are the same whatever was in `*sample`. -/
def PriorFree (d : CStr) (st : PerfState) (rs : List Reading) : Prop :=
  ∀ h h', h.map Prod.fst = rs → h'.map Prod.fst = rs → sampling d st h = sampling d st h'

lemma priorFree_cons {rs : List Reading} :
    PriorFree d st (a :: rs) ↔
      (∀ p p', sampleAt d st (a, p) = sampleAt d st (a, p')) ∧ PriorFree d (a.state d) rs := by
  constructor
  · intro hfree
    have hcons : ∀ p p' h h', h.map Prod.fst = rs → h'.map Prod.fst = rs →
        sampleAt d st (a, p) :: sampling d (a.state d) h
          = sampleAt d st (a, p') :: sampling d (a.state d) h' := by
      intro p p' h h' hmap hmap'
      have hsame := hfree ((a, p) :: h) ((a, p') :: h') (by rw [List.map_cons, hmap])
        (by rw [List.map_cons, hmap'])
      rwa [sampling_cons, sampling_cons] at hsame
    have hzero :
        (rs.map fun r => (r, (⟨0, 0, 0, 0, 0⟩ : PerformanceSample))).map Prod.fst = rs := by
      simp [Function.comp_def]
    exact ⟨fun p p' => (List.cons.inj (hcons p p' _ _ hzero hzero)).1,
      fun h h' hmap hmap' =>
        (List.cons.inj (hcons ⟨0, 0, 0, 0, 0⟩ ⟨0, 0, 0, 0, 0⟩ h h' hmap hmap')).2⟩
  · rintro ⟨hone, hrest⟩ h h' hmap hmap'
    obtain ⟨⟨a₁, p⟩, t, rfl, rfl, ht⟩ := List.map_eq_cons_iff.mp hmap
    obtain ⟨⟨a₂, p'⟩, t', rfl, heq, ht'⟩ := List.map_eq_cons_iff.mp hmap'
    obtain rfl : a₂ = a₁ := heq
    rw [sampling_cons, sampling_cons, hone p p', hrest t t' ht ht']

/-- Nothing depends on what was in `*sample` exactly when the clock has moved on after every reading
at a positive time. -/
lemma priorFree_iff (hd : d.length < 64) {rs : List Reading}
    (hmono : (a :: rs).IsChain Reading.Advances) :
    PriorFree d (a.state d) rs ↔ (a :: rs).IsChain fun a b => 0 < a.clock → a.clock ≠ b.clock := by
  induction rs generalizing a with
  | nil =>
      simp only [List.isChain_singleton, iff_true]
      intro h h' hmap hmap'
      rw [List.map_eq_nil_iff.mp hmap, List.map_eq_nil_iff.mp hmap']
  | cons b rs ih =>
      obtain ⟨hab, hmono⟩ := List.isChain_cons_cons.mp hmono
      have hclock := hab.1
      have hstep : ¬ (0 < a.clock ∧ b.clock ≤ a.clock) ↔ (0 < a.clock → a.clock ≠ b.clock) := by
        omega
      rw [priorFree_cons, sampleAt_congr_iff hd, ih hmono, hstep, List.isChain_cons_cons]

end Samples

/-! ## Their sum -/

/-- The operations that the sample at `b` accounts for, after a reading at `a`. -/
def interval (a b : Reading) : ℕ :=
  if 0 < a.clock ∧ a.clock < b.clock then (b.ops - a.ops) % 2 ^ 64 else 0

/-- The operations that the samples of these readings account for. -/
def accounted : List Reading → ℕ
  | a :: b :: rest => interval a b + accounted (b :: rest)
  | _ => 0

section Sum

variable {d : CStr} {st : PerfState} {a b : Reading}

lemma Reading.Advances.ops_le (h : a.Advances b) : a.ops ≤ b.ops := by
  have hreads := UInt64.le_iff_toNat_le.mp h.2.1
  have hwrites := UInt64.le_iff_toNat_le.mp h.2.2
  simp only [Reading.ops]
  omega

/-- `ops_diff` is the number of operations in between, to 64 bits. -/
lemma opsDiff_toNat (h : a.ops ≤ b.ops) :
    ((b.counters.reads + b.counters.writes) - (a.counters.reads + a.counters.writes)).toNat
      = (b.ops - a.ops) % 2 ^ 64 := by
  simp only [Reading.ops] at h ⊢
  rw [UInt64.toNat_sub, UInt64.toNat_add, UInt64.toNat_add]
  omega

/-- A rate times its interval. -/
lemma iops_mul (hd : d.length < 64) (h : a.Advances b) (p : PerformanceSample) :
    (sampleAt d (a.state d) (b, p)).iops * (b.clock - a.clock : ℤ) = interval a b := by
  have hclock := h.1
  by_cases hpos : 0 < a.clock
  · by_cases hlt : a.clock < b.clock
    · have hne : ((b.clock - a.clock : ℤ) : ℚ) ≠ 0 := by
        rw [Int.cast_ne_zero]
        omega
      rw [sampleAt_later hd hpos hlt, interval, if_pos ⟨hpos, hlt⟩, ← opsDiff_toNat h.ops_le]
      exact div_mul_cancel₀ _ hne
    · have hzero : b.clock - a.clock = 0 := by omega
      rw [interval, if_neg fun hboth => hlt hboth.2, hzero]
      simp
  · rw [sampleAt_idle hpos, interval, if_neg fun hboth => hpos hboth.1]
    simp

/-- The sum of the rates times their intervals. -/
lemma totalOps_sampling (hd : d.length < 64) {h : List (Reading × PerformanceSample)}
    (x : Reading × PerformanceSample)
    (hmono : ((x :: h).map Prod.fst).IsChain Reading.Advances) :
    totalOps (sampling d st (x :: h)) = accounted ((x :: h).map Prod.fst) := by
  induction h generalizing x st with
  | nil =>
      have hnone : sampling d (x.1.state d) [] = [] := rfl
      rw [sampling_cons, hnone]
      simp [totalOps, accounted]
  | cons y h ih =>
      obtain ⟨hxy, hmono⟩ := List.isChain_cons_cons.mp hmono
      have hrest : totalOps (sampling d (x.1.state d) (y :: h)) =
          accounted ((y :: h).map Prod.fst) := ih y hmono
      rw [sampling_cons] at hrest
      rw [sampling_cons, sampling_cons, totalOps, hrest, timestamp_sampleAt, timestamp_sampleAt,
        iops_mul hd hxy y.2]
      simp [accounted]

lemma interval_le (a b : Reading) : interval a b ≤ b.ops - a.ops := by
  unfold interval
  split_ifs
  · exact Nat.mod_le _ _
  · omega

/-- What the samples account for is at most what was done. -/
lemma accounted_le {rs : List Reading} (hmono : (a :: rs).IsChain Reading.Advances) :
    accounted (a :: rs) + a.ops ≤ ((a :: rs).getLast (List.cons_ne_nil _ _)).ops := by
  induction rs generalizing a with
  | nil => simp [accounted]
  | cons b rs ih =>
      obtain ⟨hab, hmono⟩ := List.isChain_cons_cons.mp hmono
      have hrest := ih hmono
      have hone := interval_le a b
      have hops := hab.ops_le
      rw [accounted, List.getLast_cons_cons]
      omega

/-- It is all that was done exactly when every sample accounts for its whole interval. -/
lemma accounted_eq_iff {rs : List Reading} (hmono : (a :: rs).IsChain Reading.Advances) :
    accounted (a :: rs) + a.ops = ((a :: rs).getLast (List.cons_ne_nil _ _)).ops ↔
      (a :: rs).IsChain fun a b => interval a b = b.ops - a.ops := by
  induction rs generalizing a with
  | nil => simp [accounted]
  | cons b rs ih =>
      obtain ⟨hab, hmono⟩ := List.isChain_cons_cons.mp hmono
      have hrest := accounted_le hmono
      have hone := interval_le a b
      have hops := hab.ops_le
      rw [List.isChain_cons_cons, ← ih hmono, accounted, List.getLast_cons_cons]
      omega

/-- A sample accounts for its interval when it can: after a reading at a positive time and with
fewer than 2^64 operations; or when there was nothing to account for. -/
lemma interval_eq_iff (hab : a.Advances b) (hspaced : 0 < a.clock → a.clock ≠ b.clock) :
    interval a b = b.ops - a.ops ↔ (0 < a.clock ∧ b.ops - a.ops < 2 ^ 64) ∨ b.ops = a.ops := by
  have hops := hab.ops_le
  have hclock := hab.1
  unfold interval
  split_ifs <;> omega

end Sum

/-- The last two clock readings differ. -/
def ClockMoved (rs : List Reading) : Prop := ∃ pre a b, rs = pre ++ [a, b] ∧ a.clock ≠ b.clock

section Whole

variable {d : CStr} {first : Reading} {rest : List Reading}

lemma priorFree_init_iff (hd : d.length < 64)
    (hmono : (first :: rest).IsChain Reading.Advances) :
    PriorFree d .init (first :: rest) ↔
      (first :: rest).IsChain fun a b => 0 < a.clock → a.clock ≠ b.clock := by
  rw [priorFree_cons, priorFree_iff hd hmono, and_iff_right_iff_imp]
  intro _ p p'
  rw [sampleAt_idle (by decide), sampleAt_idle (by decide)]

/-- The samples add up when each accounts for its interval. -/
lemma totalOps_eq_iff (hd : d.length < 64) (hmono : (first :: rest).IsChain Reading.Advances) :
    (∀ h, h.map Prod.fst = first :: rest → totalOps (sampling d .init h)
        = ((first :: rest).getLast (List.cons_ne_nil _ _)).ops - (first.ops : ℚ)) ↔
      (first :: rest).IsChain fun a b => interval a b = b.ops - a.ops := by
  rw [← accounted_eq_iff hmono]
  have htotal : ∀ h, h.map Prod.fst = first :: rest →
      totalOps (sampling d .init h) = accounted (first :: rest) := by
    intro h hmap
    obtain ⟨x, t, rfl, -, -⟩ := List.map_eq_cons_iff.mp hmap
    rw [totalOps_sampling hd x (by rw [hmap]; exact hmono), hmap]
  have hcast : (accounted (first :: rest) : ℚ)
        = ((first :: rest).getLast (List.cons_ne_nil _ _)).ops - (first.ops : ℚ) ↔
      accounted (first :: rest) + first.ops
        = ((first :: rest).getLast (List.cons_ne_nil _ _)).ops := by
    rw [eq_sub_iff_add_eq, ← Nat.cast_add, Nat.cast_inj]
  rw [← hcast]
  constructor
  · intro hall
    have hzero : ((first :: rest).map fun r => (r, (⟨0, 0, 0, 0, 0⟩ : PerformanceSample))).map
        Prod.fst = first :: rest := by
      simp [Function.comp_def]
    rw [← htotal _ hzero, hall _ hzero]
  · intro heq h hmap
    rw [htotal h hmap, heq]

end Whole

/-- **No operation is lost** between samples of one device, and no field is left unset, exactly when
the clock moves on from every positive reading and, if the sum is asked for, every interval with
operations in it starts at a positive time and has fewer than 2^64 of them. -/
theorem samples_conserve_iff {d : CStr} (hd : d.length < 64) {first : Reading} {rest : List Reading}
    (hmono : (first :: rest).IsChain Reading.Advances) :
    (PriorFree d .init (first :: rest) ∧
      (ClockMoved (first :: rest) → ∀ h, h.map Prod.fst = first :: rest →
        totalOps (sampling d .init h)
          = ((first :: rest).getLast (List.cons_ne_nil _ _)).ops - (first.ops : ℚ))) ↔
    ((first :: rest).IsChain (fun a b => 0 < a.clock → a.clock ≠ b.clock) ∧
      (ClockMoved (first :: rest) → (first :: rest).IsChain fun a b =>
        (0 < a.clock ∧ b.ops - a.ops < 2 ^ 64) ∨ b.ops = a.ops)) := by
  rw [priorFree_init_iff hd hmono, totalOps_eq_iff hd hmono]
  refine and_congr_right fun hspaced => imp_congr_right fun _ => ?_
  rw [List.isChain_iff_forall_rel_of_append_cons_cons] at hspaced hmono ⊢
  rw [List.isChain_iff_forall_rel_of_append_cons_cons]
  exact ⟨fun h a b l₁ l₂ heq => (interval_eq_iff (hmono heq) (hspaced heq)).mp (h heq),
    fun h a b l₁ l₂ heq => (interval_eq_iff (hmono heq) (hspaced heq)).mpr (h heq)⟩

/-- A reading at time `t`, after `ops` reads. -/
def readingAt (ops : UInt64) (t : ℤ) : Reading := ⟨⟨ops, 0, 0, 0⟩, t, t⟩

/-- Three readings, a second apart. -/
theorem samples_conserve_spaced :
    totalOps (sampling ['s', 'd', 'a'] .init
      ([readingAt 0 5, readingAt 10 6, readingAt 30 7].map fun r => (r, ⟨0, 0, 0, 0, 0⟩))) =
        30 := by
  have hmono : [readingAt 0 5, readingAt 10 6, readingAt 30 7].IsChain Reading.Advances := by
    simp only [List.isChain_cons_cons, List.isChain_singleton, Reading.Advances]
    decide
  have hconserved := ((samples_conserve_iff (d := ['s', 'd', 'a']) (by decide) hmono).mpr
    ⟨by simp only [List.isChain_cons_cons, List.isChain_singleton]; decide,
      fun _ => by simp only [List.isChain_cons_cons, List.isChain_singleton]; decide⟩).2
    ⟨[readingAt 0 5], readingAt 10 6, readingAt 30 7, rfl, by decide⟩
  have hlast : (readingAt 30 7).ops = 30 := by decide
  have hfirst : (readingAt 0 5).ops = 0 := by decide
  rw [hconserved _ rfl]
  simp [hlast, hfirst]

/-- Two readings in one second: the ten operations between them are in no sample. -/
theorem samples_lose_operations :
    ¬ ∀ (d : CStr) (first : Reading) (rest : List Reading), d.length < 64 →
      (first :: rest).IsChain Reading.Advances →
      PriorFree d .init (first :: rest) ∧
        (ClockMoved (first :: rest) → ∀ h, h.map Prod.fst = first :: rest →
          totalOps (sampling d .init h)
            = ((first :: rest).getLast (List.cons_ne_nil _ _)).ops - (first.ops : ℚ)) := by
  intro hclaim
  have hmono : [readingAt 0 5, readingAt 10 5, readingAt 30 6].IsChain Reading.Advances := by
    simp only [List.isChain_cons_cons, List.isChain_singleton, Reading.Advances]
    decide
  have hsum := (hclaim ['s', 'd', 'a'] _ _ (by decide) hmono).2
    ⟨[readingAt 0 5], readingAt 10 5, readingAt 30 6, rfl, by decide⟩
    ([readingAt 0 5, readingAt 10 5, readingAt 30 6].map fun r => (r, ⟨0, 0, 0, 0, 0⟩)) rfl
  exact absurd hsum (by decide +kernel)

end Storage

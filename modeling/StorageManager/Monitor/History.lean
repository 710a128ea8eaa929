import StorageManager.Monitor.Performance
import Mathlib.Data.List.Sort
import Mathlib.Data.List.Count

/-!
# The monitoring history

The `performance_history` table: `monitor_save_sample` adds a row, `monitor_cleanup_old_data`
deletes the rows before a cutoff, and `monitor_get_history` selects those of a device and an
interval.

The cutoff is `time (NULL) - (keep_days * 24 * 3600)`, and the product is an `int`.  `promised` is
what should be kept, with the product taken exactly: the samples that were never too old at a
clean-up.  The table holds that as long as no row falls between the two cutoffs
(`history_kept_iff`); up to 24855 days there is nothing between them (`cutoff_eq`), and one day more
turns the product negative and the cutoff into the future.
-/

namespace Storage

open CString

/-- A row of `performance_history`. -/
structure HistoryRow where
  device : CStr
  sample : PerformanceSample
  deriving DecidableEq

/-- An `int` that wraps. -/
def wrap32 (v : ℤ) : ℤ := v.bmod (2 ^ 32)

/-- `monitor_save_sample`, that is `monitor_track_performance`. -/
def monitorSaveSample (rows : List HistoryRow) (device : CStr) (sample : PerformanceSample) :
    List HistoryRow :=
  rows ++ [⟨device, sample⟩]

/-- `cutoff` at time `now`. -/
def cutoff (keepDays now : ℤ) : ℤ := now - wrap32 (wrap32 (keepDays * 24) * 3600)

/-- `monitor_cleanup_old_data` at time `now`. -/
def monitorCleanupOldData (rows : List HistoryRow) (keepDays now : ℤ) : List HistoryRow :=
  rows.filter fun r => ¬ r.sample.timestamp < cutoff keepDays now

/-- The samples of the `SELECT` of `monitor_get_history`, in the order of the table. -/
def selected (rows : List HistoryRow) (device : CStr) (start stop : ℤ) : List PerformanceSample :=
  (rows.filter fun r => r.device = device ∧ start ≤ r.sample.timestamp ∧
    r.sample.timestamp ≤ stop).map (·.sample)

/-- `monitor_get_history` may return these samples: `ORDER BY timestamp` does not decide ties. -/
structure GetHistory (rows : List HistoryRow) (device : CStr) (start stop : ℤ)
    (samples : List PerformanceSample) : Prop where
  perm : samples.Perm (selected rows device start stop)
  sorted : samples.Pairwise fun a b => a.timestamp ≤ b.timestamp

/-- A call of `monitor_save_sample` or of `monitor_cleanup_old_data`. -/
inductive HistoryAct
  | save (device : CStr) (sample : PerformanceSample)
  | cleanup (keepDays now : ℤ)

/-- The table after a call. -/
def historyStep (rows : List HistoryRow) : HistoryAct → List HistoryRow
  | .save device sample => monitorSaveSample rows device sample
  | .cleanup keepDays now => monitorCleanupOldData rows keepDays now

/-- The table after some calls. -/
def historyAfter (acts : List HistoryAct) : List HistoryRow := acts.foldl historyStep []

/-! ## What is promised -/

/-- The sample is older than `keepDays` days at time `now`. -/
def tooOld (keepDays now : ℤ) (r : HistoryRow) : Prop := r.sample.timestamp < now - keepDays * 86400

instance (keepDays now : ℤ) (r : HistoryRow) : Decidable (tooOld keepDays now r) :=
  inferInstanceAs (Decidable (_ < _))

/-- The row is not too old at any of these clean-ups. -/
def survives (r : HistoryRow) : List HistoryAct → Bool
  | [] => true
  | .save _ _ :: acts => survives r acts
  | .cleanup keepDays now :: acts => !decide (tooOld keepDays now r) && survives r acts

/-- The samples saved that were never too old at a later clean-up. -/
def promised : List HistoryAct → List HistoryRow
  | [] => []
  | .save device sample :: acts =>
      if survives ⟨device, sample⟩ acts then ⟨device, sample⟩ :: promised acts else promised acts
  | .cleanup _ _ :: acts => promised acts

/-- Every history returned after these calls is sorted and has exactly the samples promised. -/
def HistoryKept (acts : List HistoryAct) : Prop :=
  ∀ device start stop samples, GetHistory (historyAfter acts) device start stop samples →
    samples.Pairwise (fun a b => a.timestamp ≤ b.timestamp) ∧
      samples.Perm (selected (promised acts) device start stop)

section Promised

variable {acts : List HistoryAct}

lemma survives_concat_save (r : HistoryRow) (acts : List HistoryAct) (device : CStr)
    (sample : PerformanceSample) :
    survives r (acts ++ [.save device sample]) = survives r acts := by
  induction acts with
  | nil => rfl
  | cons a acts ih => cases a <;> simp only [List.cons_append, survives, ih]

lemma survives_concat_cleanup (r : HistoryRow) (acts : List HistoryAct) (keepDays now : ℤ) :
    survives r (acts ++ [.cleanup keepDays now])
      = (survives r acts && !decide (tooOld keepDays now r)) := by
  induction acts with
  | nil => simp [survives]
  | cons a acts ih => cases a <;> simp only [List.cons_append, survives, ih, Bool.and_assoc]

lemma promised_concat_save (acts : List HistoryAct) (device : CStr) (sample : PerformanceSample) :
    promised (acts ++ [.save device sample]) = promised acts ++ [⟨device, sample⟩] := by
  induction acts with
  | nil => rfl
  | cons a acts ih =>
      cases a with
      | save device' sample' =>
          simp only [List.cons_append, promised, survives_concat_save, ih]
          split_ifs <;> rfl
      | cleanup keepDays now => exact ih

/-- A clean-up takes back the promise for what is too old. -/
lemma promised_concat_cleanup (acts : List HistoryAct) (keepDays now : ℤ) :
    promised (acts ++ [.cleanup keepDays now])
      = (promised acts).filter fun r => ¬ tooOld keepDays now r := by
  induction acts with
  | nil => rfl
  | cons a acts ih =>
      cases a with
      | save device sample =>
          simp only [List.cons_append, promised, survives_concat_cleanup, ih]
          cases survives ⟨device, sample⟩ acts with
          | false => simp
          | true =>
              by_cases hold : tooOld keepDays now ⟨device, sample⟩ <;> simp [hold]
      | cleanup keepDays' now' => exact ih

end Promised

/-! ## The histories and the table -/

/-- The samples of a device and a second tell how often a row is in the table. -/
lemma count_selected (rows : List HistoryRow) (r : HistoryRow) :
    (selected rows r.device r.sample.timestamp r.sample.timestamp).count r.sample =
      rows.count r := by
  rw [selected, List.count, List.countP_map, List.countP_filter, List.count]
  refine List.countP_congr fun x _ => ?_
  simp only [Function.comp_apply, Bool.and_eq_true, beq_iff_eq, decide_eq_true_eq]
  constructor
  · rintro ⟨hsample, hdevice, -⟩
    cases x
    cases r
    simp_all
  · rintro rfl
    exact ⟨rfl, rfl, le_rfl, le_rfl⟩

lemma exists_getHistory (rows : List HistoryRow) (device : CStr) (start stop : ℤ) :
    ∃ samples, GetHistory rows device start stop samples := by
  let le : PerformanceSample → PerformanceSample → Prop := fun a b => a.timestamp ≤ b.timestamp
  have : Std.Total le := ⟨fun a b => le_total a.timestamp b.timestamp⟩
  have : IsTrans PerformanceSample le := ⟨fun _ _ _ hab hbc => le_trans hab hbc⟩
  have : DecidableRel le := fun a b => inferInstanceAs (Decidable (a.timestamp ≤ b.timestamp))
  exact ⟨(selected rows device start stop).insertionSort le, List.perm_insertionSort _ _,
    List.pairwise_insertionSort le _⟩

/-- The histories are as promised exactly when the table is, up to the order of its rows. -/
lemma historyKept_iff_perm {acts : List HistoryAct} :
    HistoryKept acts ↔ (historyAfter acts).Perm (promised acts) := by
  constructor
  · intro hkept
    refine List.perm_iff_count.mpr fun r => ?_
    obtain ⟨samples, hsamples⟩ := exists_getHistory (historyAfter acts) r.device r.sample.timestamp
      r.sample.timestamp
    have hpromised := (hkept _ _ _ _ hsamples).2
    rw [← count_selected, ← count_selected, ← hsamples.perm.count_eq, hpromised.count_eq]
  · intro hperm device start stop samples hsamples
    exact ⟨hsamples.sorted, hsamples.perm.trans ((hperm.filter _).map _)⟩

/-- A clean-up on which the two cutoffs differ for some row is seen in the table. -/
lemma filter_perm_iff {rows : List HistoryRow} {p q : HistoryRow → Bool} :
    (rows.filter p).Perm (rows.filter q) ↔ ∀ r ∈ rows, p r = q r := by
  constructor
  · intro hperm r hr
    have hmem := hperm.mem_iff (a := r)
    simp only [List.mem_filter, hr, true_and] at hmem
    exact Bool.eq_iff_iff.mpr hmem
  · intro heq
    rw [List.filter_congr heq]

lemma historyAfter_concat (acts : List HistoryAct) (a : HistoryAct) :
    historyAfter (acts ++ [a]) = historyStep (historyAfter acts) a := by
  simp [historyAfter, List.foldl_append]

/-- At every clean-up each row of the table is on the same side of the cutoff the code computes and
of the exact one. -/
def CutoffsAgree (acts : List HistoryAct) : Prop :=
  ∀ pre keepDays now rest, acts = pre ++ .cleanup keepDays now :: rest →
    ∀ r ∈ historyAfter pre,
      (r.sample.timestamp < cutoff keepDays now ↔ r.sample.timestamp < now - keepDays * 86400)

lemma CutoffsAgree.of_append {acts acts' : List HistoryAct} (h : CutoffsAgree (acts ++ acts')) :
    CutoffsAgree acts := by
  rintro pre keepDays now rest rfl
  exact h pre keepDays now (rest ++ acts') (by simp)

/-- Then the table is what is promised, row by row. -/
lemma historyAfter_eq {acts : List HistoryAct} (h : CutoffsAgree acts) :
    historyAfter acts = promised acts := by
  induction acts using List.reverseRecOn with
  | nil => rfl
  | append_singleton acts a ih =>
      rw [historyAfter_concat]
      cases a with
      | save device sample =>
          rw [promised_concat_save, ← ih h.of_append]
          rfl
      | cleanup keepDays now =>
          rw [promised_concat_cleanup, ← ih h.of_append]
          refine List.filter_congr fun r hr => ?_
          rw [decide_eq_decide, not_iff_not]
          exact h acts keepDays now [] rfl r hr

/-- **The history keeps what it promises** after every one of these calls exactly when the two
cutoffs agree on every row at every clean-up. -/
theorem history_kept_iff (acts : List HistoryAct) :
    (∀ pre, pre <+: acts → HistoryKept pre) ↔ CutoffsAgree acts := by
  constructor
  · rintro hkept pre keepDays now rest rfl r hr
    have hbefore := historyKept_iff_perm.mp (hkept pre (List.prefix_append _ _))
    have hafter := historyKept_iff_perm.mp (hkept (pre ++ [.cleanup keepDays now]) (by simp))
    rw [historyAfter_concat, promised_concat_cleanup] at hafter
    have hsame := filter_perm_iff.mp (hafter.trans (hbefore.symm.filter _)) r hr
    rwa [decide_eq_decide, not_iff_not] at hsame
  · rintro hagree pre ⟨rest, rfl⟩
    rw [historyKept_iff_perm, historyAfter_eq hagree.of_append]

/-- Up to 24855 days the product fits. -/
lemma cutoff_eq {keepDays : ℤ} (h0 : 0 ≤ keepDays) (h : keepDays ≤ 24855) (now : ℤ) :
    cutoff keepDays now = now - keepDays * 86400 := by
  have hhours : wrap32 (keepDays * 24) = keepDays * 24 := Int.bmod_eq_of_le (by omega) (by omega)
  have hsecs : wrap32 (keepDays * 24 * 3600) = keepDays * 24 * 3600 :=
    Int.bmod_eq_of_le (by omega) (by omega)
  rw [cutoff, hhours, hsecs]
  omega

/-- With at most 24855 days at every clean-up nothing is lost. -/
theorem history_kept_of_small {acts : List HistoryAct}
    (h : ∀ keepDays now, HistoryAct.cleanup keepDays now ∈ acts → 0 ≤ keepDays ∧ keepDays ≤ 24855) :
    HistoryKept acts := by
  have hagree : CutoffsAgree acts := by
    rintro pre keepDays now rest rfl r -
    have hdays := h keepDays now (by simp)
    rw [cutoff_eq hdays.1 hdays.2]
  rw [historyKept_iff_perm, historyAfter_eq hagree]

/-- Keeping 24856 days, a sample that was saved in the same second is deleted. -/
theorem history_drops_fresh_sample :
    ¬ ∀ acts : List HistoryAct,
      (∀ keepDays now, HistoryAct.cleanup keepDays now ∈ acts → 0 ≤ keepDays ∧ 0 < now) →
      HistoryKept acts := by
  intro hclaim
  have hkept := hclaim
    [.save ['s', 'd', 'a'] ⟨1000, 0, 0, 0, 0⟩, .cleanup 24856 1000] (by
      intro keepDays now hmem
      simp only [List.mem_cons, List.not_mem_nil, or_false, reduceCtorEq, false_or,
        HistoryAct.cleanup.injEq] at hmem
      omega)
  exact absurd (historyKept_iff_perm.mp hkept) (by decide +kernel)

end Storage

import StorageManager.Backup.Retention
import Mathlib.Data.List.Sort

/-!
# Which backups a clean-up selects

`backup_cleanup_old` walks over a copy of the list and deletes by identifier.  With distinct
identifiers that is a filter of the table (`cleanup_eq_filter`): what is left are the rows of the
first `keep_count` entries.

The entries come in the order of a `SELECT`.  `SelectOrder` is the assumption on it: newest first,
and rows of one second in an order that deleting other rows does not change.  Under it the table
after a clean-up lists as the first entries of the table before, and clean-ups compose:
`cleanup_selects_newest`.
-/

namespace Storage

open CString Files Machine

/-- An order of the rows that is newest first and that deletions do not disturb. -/
structure SelectOrder (sel : List CatRow → List CatRow) : Prop where
  order : ∀ rows, ListOrder rows (sel rows)
  filter : ∀ rows (p : CatRow → Bool), sel (rows.filter p) = (sel rows).filter p

/-! ## The deletion loop -/

section Loop

variable {rows order : List CatRow}

lemma cleanupLoop_eq_filter (rows : List CatRow) (bs : List BackupInfo) :
    (cleanupLoop rows bs).1
      = rows.filter fun r => r.info.backupId ∉ bs.map (·.backupId) := by
  induction bs generalizing rows with
  | nil => simp [cleanupLoop]
  | cons b bs ih =>
      simp only [cleanupLoop, ih, List.filter_filter]
      refine List.filter_congr fun r _ => ?_
      simp only [List.map_cons, List.mem_cons, not_or, ne_eq, Bool.decide_and, Bool.and_comm]

/-- A clean-up leaves the rows of the first entries, where they are in the table. -/
lemma cleanup_eq_filter (h : IdsOk rows) (horder : ListOrder rows order) (k : ℕ)
    (junk : ℕ → CStr) :
    (backupCleanupOld rows k order junk).1 = rows.filter fun r => r ∈ order.take k := by
  have hmem : ∀ r ∈ rows, r.info.backupId ∉ ((backupList order junk).drop k).map (·.backupId) ↔
      r ∈ order.take k := by
    intro r hr
    rw [← mem_backupCleanupOld h horder k junk r, backupCleanupOld, mem_cleanupLoop]
    exact (and_iff_right hr).symm
  rw [backupCleanupOld, cleanupLoop_eq_filter]
  refine List.filter_congr fun r hr => ?_
  rw [decide_eq_decide]
  exact hmem r hr

/-- Each command is for one row. -/
lemma cleanupLoop_removed {bs : List BackupInfo} {gone : List CatRow}
    (hrows : (rows.map (·.info.backupId)).Nodup) (hgone : gone.Nodup) (hmem : ∀ r ∈ gone, r ∈ rows)
    (hids : bs.map (·.backupId) = gone.map (·.info.backupId)) :
    (cleanupLoop rows bs).2.map (·.removed) = gone.map fun r => [r] := by
  induction bs generalizing rows gone with
  | nil =>
      obtain rfl := List.map_eq_nil_iff.mp hids.symm
      rfl
  | cons b bs ih =>
      obtain ⟨r, rest, rfl, hb, hrest⟩ := List.map_eq_cons_iff.mp hids.symm
      have hb : b.backupId = r.info.backupId := hb.symm
      obtain ⟨hnot, hgone⟩ := List.nodup_cons.mp hgone
      have hr := hmem r List.mem_cons_self
      have hkeep : ∀ x ∈ rest, x ∈ rows.filter fun x => x.info.backupId ≠ b.backupId := by
        intro x hx
        have hxrows := hmem x (List.mem_cons_of_mem _ hx)
        refine List.mem_filter.mpr ⟨hxrows, decide_eq_true fun heq => hnot ?_⟩
        rwa [← List.inj_on_of_nodup_map hrows hxrows hr (heq.trans hb)]
      have hsub := hrows.sublist
        ((List.filter_sublist (p := fun x => decide (x.info.backupId ≠ b.backupId))).map _)
      have hremoved : rows.filter (fun x => x.info.backupId = b.backupId) = [r] := by
        rw [hb]
        exact filter_backupId_eq hrows hr
      rw [cleanupLoop, List.map_cons, List.map_cons, ih hsub hgone hkeep hrest.symm]
      exact congrArg (· :: _) hremoved

end Loop

/-! ## The entries that are kept -/

section Selection

variable {sel : List CatRow → List CatRow} {rows : List CatRow}

/-- The table after a clean-up lists as the first entries. -/
lemma select_cleanup (hsel : SelectOrder sel) (h : IdsOk rows) (k : ℕ) (junk : ℕ → CStr) :
    sel (backupCleanupOld rows k (sel rows) junk).1 = (sel rows).take k := by
  have horder := hsel.order rows
  have hnodup : (sel rows).Nodup := horder.1.nodup_iff.mpr h.nodup.of_map
  rw [cleanup_eq_filter h horder, hsel.filter]
  rw [← List.take_append_drop k (sel rows), List.nodup_append] at hnodup
  have htake : ((sel rows).take k).filter (fun r => r ∈ (sel rows).take k) = (sel rows).take k :=
    List.filter_eq_self.mpr fun r hr => decide_eq_true hr
  have hdrop : ((sel rows).drop k).filter (fun r => r ∈ (sel rows).take k) = [] :=
    List.filter_eq_nil_iff.mpr fun r hr hmem =>
      hnodup.2.2 r (of_decide_eq_true hmem) r hr rfl
  conv_lhs => rw [← List.take_append_drop k (sel rows)]
  rw [List.filter_append]
  simpa using congrArg₂ (· ++ ·) htake hdrop

/-- Entries past the first `k` are no newer than those among them. -/
lemma timestamp_le_of_drop {order : List CatRow} (h : ListOrder rows order) {k : ℕ} {a b : CatRow}
    (ha : a ∈ order.drop k) (hb : b ∈ order.take k) : a.info.timestamp ≤ b.info.timestamp := by
  have hsorted := h.2
  rw [← List.take_append_drop k order, List.pairwise_append] at hsorted
  exact hsorted.2.2 b hb a ha

lemma length_cleanup (hsel : SelectOrder sel) (h : IdsOk rows) (k : ℕ) (junk : ℕ → CStr) :
    (backupCleanupOld rows k (sel rows) junk).1.length = min k rows.length := by
  have hlen := congrArg List.length (select_cleanup hsel h k junk)
  rwa [List.length_take, (hsel.order _).1.length_eq, (hsel.order _).1.length_eq] at hlen

lemma IdsOk.cleanup {order : List CatRow} (h : IdsOk rows) (k : ℕ) (junk : ℕ → CStr) :
    IdsOk (backupCleanupOld rows k order junk).1 := by
  have hsub := cleanupLoop_sublist rows ((backupList order junk).drop k)
  exact ⟨fun r hr => h.length r (hsub.subset hr), h.nodup.sublist (hsub.map _)⟩

/-- Clean-ups compose to the stricter one. -/
lemma cleanup_cleanup (hsel : SelectOrder sel) (h : IdsOk rows) (j k : ℕ)
    (junk junk' junk'' : ℕ → CStr) :
    (backupCleanupOld (backupCleanupOld rows k (sel rows) junk).1 j
        (sel (backupCleanupOld rows k (sel rows) junk).1) junk').1
      = (backupCleanupOld rows (min j k) (sel rows) junk'').1 := by
  rw [cleanup_eq_filter (h.cleanup k junk) (hsel.order _), select_cleanup hsel h, List.take_take,
    cleanup_eq_filter h (hsel.order _), cleanup_eq_filter h (hsel.order _), List.filter_filter]
  refine List.filter_congr fun r _ => ?_
  rw [← Bool.decide_and, decide_eq_decide, and_iff_left_iff_imp]
  intro hr
  exact (List.take_prefix_take_left (Nat.min_le_right j k)).subset hr

/-- One command for each row past the first `k`. -/
lemma removed_cleanup (hsel : SelectOrder sel) (h : IdsOk rows) (k : ℕ) (junk : ℕ → CStr) :
    (backupCleanupOld rows k (sel rows) junk).2.map (·.removed)
      = ((sel rows).drop k).map fun r => [r] := by
  have horder := hsel.order rows
  have hlisted : ((backupList (sel rows) junk).drop k).map (·.backupId)
      = ((sel rows).drop k).map (·.info.backupId) := by
    rw [List.map_drop, List.map_drop, backupList_ids]
    intro r hr
    rw [h.length r (horder.1.subset hr)]
    decide
  refine cleanupLoop_removed h.nodup ?_ ?_ hlisted
  · exact (horder.1.nodup_iff.mpr h.nodup.of_map).sublist (List.drop_sublist _ _)
  · exact fun r hr => horder.1.subset (List.mem_of_mem_drop hr)

/-- A table that is short enough is left as it is. -/
lemma cleanup_of_length_le (hsel : SelectOrder sel) {k : ℕ} (h : rows.length ≤ k)
    (junk : ℕ → CStr) : backupCleanupOld rows k (sel rows) junk = (rows, []) := by
  have hshort : (backupList (sel rows) junk).drop k = [] := by
    rw [List.drop_eq_nil_iff, backupList, List.length_mapIdx, (hsel.order rows).1.length_eq]
    exact h
  rw [backupCleanupOld, hshort]
  rfl

end Selection

/-- **A clean-up keeps the newest rows** and nothing else, with one command for each row it
removes; clean-ups compose to the stricter one. -/
theorem cleanup_selects_newest {κ : Type*} {localtime : ℤ → Tm} {cwd : Path} {s : Vault κ}
    (h : Reach VaultInit (vaultStep localtime cwd) anyStep s) {sel : List CatRow → List CatRow}
    (hsel : SelectOrder sel) (k : ℕ) (junk : ℕ → CStr) :
    let left := (backupCleanupOld s.rows k (sel s.rows) junk).1
    let commands := (backupCleanupOld s.rows k (sel s.rows) junk).2
    left.length = min k s.rows.length ∧ left.Sublist s.rows ∧
      sel left = (sel s.rows).take (min k s.rows.length) ∧
      (∀ a ∈ s.rows, a ∉ left → ∀ b ∈ left, a.info.timestamp ≤ b.info.timestamp) ∧
      commands.map (·.removed) = ((sel s.rows).drop k).map (fun r => [r]) ∧
      commands.map (·.cmd) = ((backupList (sel s.rows) junk).drop k).map
        (fun b => fit 512 (rmText b.destPath)) ∧
      (∀ junk', backupCleanupOld left k (sel left) junk' = (left, [])) ∧
      ∀ j junk' junk'', (backupCleanupOld left j (sel left) junk').1
        = (backupCleanupOld s.rows (min j k) (sel s.rows) junk'').1 := by
  intro left commands
  have hids := idsOk_of_reach h
  have horder := hsel.order s.rows
  have hlist : sel left = (sel s.rows).take k := select_cleanup hsel hids k junk
  have hlen : left.length = min k s.rows.length := length_cleanup hsel hids k junk
  refine ⟨hlen, cleanupLoop_sublist _ _, ?_, ?_, ?_, ?_, ?_, ?_⟩
  · rw [hlist, ← horder.1.length_eq, ← List.take_take, List.take_length]
  · intro a ha hgone b hb
    have hkept := mem_backupCleanupOld hids horder k junk
    have hmem : a ∈ (sel s.rows).take k ++ (sel s.rows).drop k := by
      rw [List.take_append_drop]
      exact horder.1.symm.subset ha
    refine timestamp_le_of_drop horder ?_ ((hkept b).mp hb)
    exact (List.mem_append.mp hmem).resolve_left fun htake => hgone ((hkept a).mpr htake)
  · exact removed_cleanup hsel hids k junk
  · exact cleanupLoop_cmd _ _
  · exact cleanup_of_length_le hsel (hlen.trans_le (Nat.min_le_left _ _))
  · exact fun j junk' junk'' => cleanup_cleanup hsel hids j k junk junk' junk''

/-! ### An order of that kind -/

section Sorting

variable {α : Type*} {r : α → α → Prop} [DecidableRel r] [IsTrans α r]

lemma filter_orderedInsert (p : α → Bool) (a : α) {l : List α} (hl : l.Pairwise r) :
    (l.orderedInsert r a).filter p
      = if p a then (l.filter p).orderedInsert r a else l.filter p := by
  induction l with
  | nil => cases hp : p a <;> simp [hp]
  | cons b l ih =>
      obtain ⟨hb, hl⟩ := List.pairwise_cons.mp hl
      by_cases hab : r a b
      · -- everything after `b` comes after `a` too
        have hrest : ∀ c ∈ (b :: l).filter p, r a c := by
          intro c hc
          rcases List.mem_cons.mp (List.mem_filter.mp hc).1 with rfl | hc
          · exact hab
          · exact IsTrans.trans _ _ _ hab (hb c hc)
        have hfirst : ((b :: l).filter p).orderedInsert r a = a :: (b :: l).filter p := by
          cases hrows : (b :: l).filter p with
          | nil => rfl
          | cons c rest =>
              exact List.orderedInsert_cons_of_le r rest (hrest c (by simp [hrows]))
        rw [List.orderedInsert_cons_of_le r l hab, hfirst, List.filter_cons]
      · rw [List.orderedInsert_of_not_le r l hab, List.filter_cons, ih hl, List.filter_cons]
        cases hpa : p a <;> cases hpb : p b <;> simp [hab]

lemma filter_insertionSort [Std.Total r] (p : α → Bool) (l : List α) :
    (l.insertionSort r).filter p = (l.filter p).insertionSort r := by
  induction l with
  | nil => rfl
  | cons a l ih =>
      rw [List.insertionSort_cons, filter_orderedInsert p a (List.pairwise_insertionSort r l), ih,
        List.filter_cons]
      cases p a <;> rfl

end Sorting

/-- The order of `ORDER BY timestamp DESC`. -/
def NoOlder (a b : CatRow) : Prop := b.info.timestamp ≤ a.info.timestamp

instance : DecidableRel NoOlder := fun a b =>
  inferInstanceAs (Decidable (b.info.timestamp ≤ a.info.timestamp))

instance : IsTrans CatRow NoOlder := ⟨fun _ _ _ hab hbc => le_trans hbc hab⟩

instance : Std.Total NoOlder := ⟨fun a b => le_total b.info.timestamp a.info.timestamp⟩

/-- Newest first, and rows of one second in the order they were stored in. -/
def newestFirst (rows : List CatRow) : List CatRow := rows.insertionSort NoOlder

lemma selectOrder_newestFirst : SelectOrder newestFirst where
  order _ := ⟨List.perm_insertionSort _ _, List.pairwise_insertionSort _ _⟩
  filter rows p := (filter_insertionSort p rows).symm

/-- Of a good backup and a later one that failed, the later one is kept. -/
theorem cleanup_selects_newest_one :
    ∃ s : Vault ℕ, s.rows = [goodRow, failedRow] ∧
      newestFirst (backupCleanupOld s.rows 1 (newestFirst s.rows) fun _ => []).1
        = (newestFirst s.rows).take 1 := by
  obtain ⟨s, hreach, hrows, -⟩ := failingRun_rows
  have hnewest := cleanup_selects_newest hreach selectOrder_newestFirst 1 fun _ => []
  have hmin : min 1 s.rows.length = 1 := by rw [hrows]; rfl
  rw [hmin] at hnewest
  exact ⟨s, hrows, hnewest.2.2.1⟩

end Storage

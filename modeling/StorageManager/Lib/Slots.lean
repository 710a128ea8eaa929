import Mathlib.Data.Finset.Card
import Mathlib.Data.Fintype.Basic
import Mathlib.Tactic.Common

/-!
# Slot tables

A slot table assigns to each slot the key it holds, or nothing: `t : ι → Option κ`.  Filling a
free slot and clearing one are `Function.update`.  What a program keeps next to such a table — a
counter of the slots in use, a set of the keys that are out — follows the table exactly when each
key sits in at most one slot (`Distinct`).

* `card_used_fill`, `card_used_clear` — the counter.
* `keys_fill`, `keys_clear` — the set of keys.
* `Distinct.fill`, `Distinct.clear` — the invariant both rest on.

A table that is only ever filled from the front is the list of its keys (`addNew`); after a run it
holds the first ones that came, each once: `foldl_addNew`.

A list of slots without a gap in it counts up to its length: `perm_range_length_iff`.

A search ends at the only entry that fits (`find?_of_unique`), and a search for what an entry gives
is a search for the entry (`findSome?_ite`).

A store whose places refuse some values holds what was put there last and not refused:
`foldl_put_eq_iff`.
-/

namespace Slots

variable {ι κ : Type*}

/-- No key sits in two slots. -/
def Distinct (t : ι → Option κ) : Prop := ∀ i j k, t i = some k → t j = some k → i = j

/-- The keys in the table. -/
def keys (t : ι → Option κ) : Set κ := {k | ∃ i, t i = some k}

/-- The slots in use. -/
def used [Fintype ι] (t : ι → Option κ) : Finset ι := Finset.univ.filter fun i => (t i).isSome

lemma mem_keys {t : ι → Option κ} {k : κ} : k ∈ keys t ↔ ∃ i, t i = some k := Iff.rfl

lemma mem_used [Fintype ι] {t : ι → Option κ} {i : ι} : i ∈ used t ↔ ∃ k, t i = some k := by
  simp [used, Option.isSome_iff_exists]

variable [DecidableEq ι] {t : ι → Option κ} {i : ι} {k : κ}

/-! ## The counter -/

lemma card_used_fill [Fintype ι] (hfree : t i = none) :
    (used (Function.update t i (some k))).card = (used t).card + 1 := by
  have hset : used (Function.update t i (some k)) = insert i (used t) := by
    ext j
    by_cases hj : j = i <;> simp [used, hj]
  rw [hset, Finset.card_insert_of_notMem (by simp [used, hfree])]

lemma card_used_clear [Fintype ι] (hused : t i = some k) :
    (used (Function.update t i none)).card + 1 = (used t).card := by
  have hset : used (Function.update t i none) = (used t).erase i := by
    ext j
    by_cases hj : j = i <;> simp [used, hj]
  rw [hset, Finset.card_erase_add_one (mem_used.mpr ⟨k, hused⟩)]

/-! ## The keys -/

lemma Distinct.fill (h : Distinct t) (hnew : k ∉ keys t) :
    Distinct (Function.update t i (some k)) := by
  intro a b l ha hb
  by_cases hai : a = i
  · by_cases hbi : b = i
    · rw [hai, hbi]
    · -- the new key would already have been in slot `b`
      rw [hai, Function.update_self, Option.some.injEq] at ha
      rw [Function.update_of_ne hbi] at hb
      exact absurd ⟨b, by rw [hb, ha]⟩ hnew
  · rw [Function.update_of_ne hai] at ha
    by_cases hbi : b = i
    · rw [hbi, Function.update_self, Option.some.injEq] at hb
      exact absurd ⟨a, by rw [ha, hb]⟩ hnew
    · rw [Function.update_of_ne hbi] at hb
      exact h a b l ha hb

lemma Distinct.clear (h : Distinct t) : Distinct (Function.update t i none) := by
  have hsub : ∀ a l, Function.update t i none a = some l → t a = some l := by
    intro a l ha
    by_cases hai : a = i
    · simp [hai] at ha
    · rwa [Function.update_of_ne hai] at ha
  exact fun a b l ha hb => h a b l (hsub a l ha) (hsub b l hb)

lemma keys_fill (hfree : t i = none) : keys (Function.update t i (some k)) = insert k (keys t) := by
  ext l
  constructor
  · rintro ⟨a, ha⟩
    by_cases hai : a = i
    · rw [hai, Function.update_self, Option.some.injEq] at ha
      exact Or.inl ha.symm
    · rw [Function.update_of_ne hai] at ha
      exact Or.inr ⟨a, ha⟩
  · rintro (rfl | ⟨a, ha⟩)
    · exact ⟨i, Function.update_self _ _ _⟩
    · have hai : a ≠ i := by
        rintro rfl
        rw [hfree] at ha
        exact absurd ha (by simp)
      exact ⟨a, by rw [Function.update_of_ne hai, ha]⟩

/-- Clearing a slot removes its key, because no other slot holds it. -/
lemma keys_clear (h : Distinct t) (hused : t i = some k) :
    keys (Function.update t i none) = keys t \ {k} := by
  ext l
  constructor
  · rintro ⟨a, ha⟩
    have hai : a ≠ i := by
      rintro rfl
      simp at ha
    rw [Function.update_of_ne hai] at ha
    refine ⟨⟨a, ha⟩, ?_⟩
    rintro rfl
    exact hai (h a i l ha hused)
  · rintro ⟨⟨a, ha⟩, hne⟩
    have hai : a ≠ i := by
      rintro rfl
      rw [hused, Option.some.injEq] at ha
      exact hne ha.symm
    exact ⟨a, by rw [Function.update_of_ne hai, ha]⟩

/-! ## Filling from the front -/

section Front

variable {α : Type*} [BEq α] [LawfulBEq α]

/-- A key that is new goes behind the others while there is room. -/
def addNew {α : Type*} [DecidableEq α] (cap : ℕ) (keys : List α) (k : α) : List α :=
  if k ∉ keys ∧ keys.length < cap then keys ++ [k] else keys

lemma eraseDups_of_nodup {l : List α} (h : l.Nodup) : l.eraseDups = l := by
  induction l with
  | nil => rfl
  | cons a l ih =>
      obtain ⟨ha, hl⟩ := List.nodup_cons.mp h
      have hothers : l.filter (fun b => !b == a) = l :=
        List.filter_eq_self.mpr fun b hb => by
          simpa using fun heq : b = a => ha (heq ▸ hb)
      rw [List.eraseDups_cons, hothers, ih hl]

lemma eraseDups_append_of_nodup {l : List α} (h : l.Nodup) (m : List α) :
    (l ++ m).eraseDups = l ++ (m.removeAll l).eraseDups := by
  rw [List.eraseDups_append, eraseDups_of_nodup h]

/-- A run keeps the first keys, each once, up to the capacity. -/
lemma foldl_addNew [DecidableEq α] {cap : ℕ} {keys : List α} (hnodup : keys.Nodup)
    (hcap : keys.length ≤ cap) (l : List α) :
    l.foldl (addNew cap) keys = (keys ++ l).eraseDups.take cap := by
  induction l generalizing keys with
  | nil =>
      rw [List.foldl_nil, List.append_nil, eraseDups_of_nodup hnodup, List.take_of_length_le hcap]
  | cons k l ih =>
      rw [List.foldl_cons, addNew]
      split_ifs with hnew
      · have hnodup' : (keys ++ [k]).Nodup :=
          List.nodup_append.mpr ⟨hnodup, List.nodup_singleton k, fun a ha b hb heq => by
            rw [List.mem_singleton.mp hb] at heq
            exact hnew.1 (heq ▸ ha)⟩
        have hcap' : (keys ++ [k]).length ≤ cap := by
          rw [List.length_append, List.length_singleton]
          omega
        rw [ih hnodup' hcap', List.append_assoc, List.singleton_append]
      · rw [ih hnodup hcap]
        by_cases hmem : k ∈ keys
        · -- a key that is there already
          have hskip : (k :: l).removeAll keys = l.removeAll keys := by
            simp [List.removeAll, hmem]
          rw [eraseDups_append_of_nodup hnodup, eraseDups_append_of_nodup hnodup, hskip]
        · -- the table is full, and what comes after it is cut off
          have hfull : keys.length = cap := by
            by_contra hne
            exact hnew ⟨hmem, by omega⟩
          rw [eraseDups_append_of_nodup hnodup, eraseDups_append_of_nodup hnodup, ← hfull,
            List.take_left, List.take_left]

/-- The table ends up with `m` exactly if what came before `m` are the first keys of `m`. -/
lemma take_eraseDups_append_iff {cap : ℕ} {l m : List α} (hm : m.Nodup) (hcap : m.length ≤ cap) :
    (l ++ m).eraseDups.take cap = m ↔ l.eraseDups.take cap <+: m := by
  rw [List.eraseDups_append, List.take_append]
  constructor
  · intro h
    exact ⟨_, h⟩
  · intro h
    rcases Nat.lt_or_ge cap l.eraseDups.length with hlt | hle
    · have hlen : (l.eraseDups.take cap).length = cap := List.length_take_of_le hlt.le
      rw [show cap - l.eraseDups.length = 0 by omega, List.take_zero, List.append_nil]
      exact h.eq_of_length_le (by omega)
    · rw [List.take_of_length_le hle] at h ⊢
      obtain ⟨r, rfl⟩ := h
      -- what is left of `m` is what was not there before
      have hold : l.eraseDups.removeAll l = [] := by simp [List.removeAll]
      have hnew : r.removeAll l = r := by
        refine List.filter_eq_self.mpr fun k hk => ?_
        have hk' : k ∉ l := fun hkl =>
          (List.nodup_append.mp hm).2.2 k (List.mem_eraseDups.mpr hkl) k hk rfl
        simpa using hk'
      have hrest : (l.eraseDups ++ r).removeAll l = r := by
        rw [List.removeAll, List.filter_append, ← List.removeAll, ← List.removeAll, hold, hnew,
          List.nil_append]
      rw [hrest, eraseDups_of_nodup (List.nodup_append.mp hm).2.1, List.take_of_length_le]
      rw [List.length_append] at hcap
      omega

end Front

/-! ## Gaps -/

/-- Slots that are never chosen need not be looked at. -/
lemma filter_range_of_lt {p : ℕ → Bool} {m n : ℕ} (hmn : m ≤ n) (h : ∀ i, p i = true → i < m) :
    (List.range n).filter p = (List.range m).filter p := by
  obtain ⟨k, rfl⟩ := Nat.exists_eq_add_of_le hmn
  have hnone : ((List.range k).map (m + ·)).filter p = [] := by
    refine List.filter_eq_nil_iff.mpr fun i hi hp => ?_
    obtain ⟨j, -, rfl⟩ := List.mem_map.mp hi
    exact absurd (h _ hp) (by omega)
  rw [List.range_add, List.filter_append, hnone, List.append_nil]

/-- Slots taken once each are the first ones exactly if no slot in front of one of them is left
out. -/
lemma perm_range_length_iff {l : List ℕ} (hnodup : l.Nodup) :
    l.Perm (List.range l.length) ↔ ∀ i j, i < j → j ∈ l → i ∈ l := by
  constructor
  · intro h i j hij hj
    rw [h.mem_iff, List.mem_range] at hj ⊢
    exact hij.trans hj
  · intro h
    have hsub : l ⊆ List.range l.length := by
      intro j hj
      -- the slots up to `j` are all there
      have hbelow : List.range (j + 1) ⊆ l := by
        intro i hi
        rcases Nat.lt_succ_iff_lt_or_eq.mp (List.mem_range.mp hi) with hlt | rfl
        · exact h i j hlt hj
        · exact hj
      have hlen := (List.nodup_range.subperm hbelow).length_le
      rw [List.length_range] at hlen
      exact List.mem_range.mpr hlen
    exact (hnodup.subperm hsub).perm_of_length_le (by rw [List.length_range])

/-! ## Searching -/

section Search

variable {α β : Type*}

lemma find?_of_unique {p : α → Bool} {l : List α} {a : α} (ha : a ∈ l) (hp : p a = true)
    (hunique : ∀ b ∈ l, p b = true → b = a) : l.find? p = some a := by
  cases hfind : l.find? p with
  | none => exact absurd hp (List.find?_eq_none.mp hfind a ha)
  | some b => rw [hunique b (List.mem_of_find?_eq_some hfind) (List.find?_some hfind)]

lemma findSome?_ite (p : α → Prop) [DecidablePred p] (f : α → β) (l : List α) :
    (l.findSome? fun a => if p a then some (f a) else none) = (l.find? fun a => p a).map f := by
  induction l with
  | nil => rfl
  | cons a l ih =>
      rw [List.findSome?_cons, List.find?_cons]
      by_cases ha : p a
      · simp [ha]
      · simpa [ha] using ih

end Search

/-! ## Refused values -/

section Put

variable {κ ν ω : Type*} [DecidableEq κ] (accepts : κ → ν → Bool) (f : ω → Option (κ × ν))

/-- Putting a value to a place that may refuse it. -/
def put (st : κ → ν) (w : κ × ν) : κ → ν :=
  if accepts w.1 w.2 then Function.update st w.1 w.2 else st

/-- The value goes to this place and is not refused. -/
def Lands (k : κ) (w : ω) : Prop := ∃ v, f w = some (k, v) ∧ accepts k v = true

variable {accepts f}

lemma put_eq_iff {st : κ → ν} {w : ω} {x : κ × ν} (hw : f w = some x) {k : κ} {v : ν} :
    put accepts st x k = v ↔
      (f w = some (k, v) ∧ accepts k v = true) ∨ (¬ Lands accepts f k w ∧ st k = v) := by
  have hlands : Lands accepts f k w ↔ x.1 = k ∧ accepts x.1 x.2 = true := by
    constructor
    · rintro ⟨u, hu, hacc⟩
      rw [hw, Option.some.injEq] at hu
      subst hu
      exact ⟨rfl, hacc⟩
    · rintro ⟨rfl, hacc⟩
      exact ⟨x.2, hw, hacc⟩
  by_cases hk : x.1 = k ∧ accepts x.1 x.2 = true
  · obtain ⟨rfl, hacc⟩ := hk
    rw [put, if_pos hacc, Function.update_self, or_iff_left fun h => h.1 (hlands.mpr ⟨rfl, hacc⟩),
      hw, Option.some.injEq]
    constructor
    · rintro rfl
      exact ⟨rfl, hacc⟩
    · rintro ⟨hx, -⟩
      rw [hx]
  · have hother : put accepts st x k = st k := by
      unfold put
      split_ifs with hacc
      · exact Function.update_of_ne (fun he => hk ⟨he.symm, hacc⟩) _ _
      · rfl
    rw [hother, and_iff_right (mt hlands.mp hk), or_iff_right]
    rintro ⟨hx, hacc⟩
    exact hk (hlands.mp ⟨v, hx, hacc⟩)

/-- A place holds the last value that was put there and not refused, or what it held before. -/
lemma foldl_put_eq_iff {l : List ω} {st : κ → ν} {k : κ} {v : ν} :
    (l.filterMap f).foldl (put accepts) st k = v ↔
      (∃ pre w post, l = pre ++ w :: post ∧ (f w = some (k, v) ∧ accepts k v = true) ∧
        ∀ w' ∈ post, ¬ Lands accepts f k w') ∨
      ((∀ w ∈ l, ¬ Lands accepts f k w) ∧ st k = v) := by
  induction l generalizing st with
  | nil => simp
  | cons x l ih =>
      -- the value is put first, or somewhere in the rest
      have hsplit : (∃ pre w post, x :: l = pre ++ w :: post ∧
            (f w = some (k, v) ∧ accepts k v = true) ∧ ∀ w' ∈ post, ¬ Lands accepts f k w') ↔
          ((f x = some (k, v) ∧ accepts k v = true) ∧ ∀ w' ∈ l, ¬ Lands accepts f k w') ∨
            ∃ pre w post, l = pre ++ w :: post ∧ (f w = some (k, v) ∧ accepts k v = true) ∧
              ∀ w' ∈ post, ¬ Lands accepts f k w' := by
        constructor
        · rintro ⟨pre, w, post, heq, hw, hpost⟩
          cases pre with
          | nil =>
              obtain ⟨rfl, rfl⟩ := List.cons.inj heq
              exact Or.inl ⟨hw, hpost⟩
          | cons y pre => exact Or.inr ⟨pre, w, post, (List.cons.inj heq).2, hw, hpost⟩
        · rintro (⟨hx, hl⟩ | ⟨pre, w, post, rfl, hw, hpost⟩)
          · exact ⟨[], x, l, rfl, hx, hl⟩
          · exact ⟨x :: pre, w, post, rfl, hw, hpost⟩
      have hstep : (f x).elim st (put accepts st) k = v ↔
          (f x = some (k, v) ∧ accepts k v = true) ∨ (¬ Lands accepts f k x ∧ st k = v) := by
        cases hx : f x with
        | none => simp [Lands, hx]
        | some y =>
            rw [Option.elim_some, put_eq_iff hx, hx]
      have hfold : ((x :: l).filterMap f).foldl (put accepts) st =
          (l.filterMap f).foldl (put accepts) ((f x).elim st (put accepts st)) := by
        cases hx : f x with
        | none => rw [List.filterMap_cons_none hx, Option.elim_none]
        | some y => rw [List.filterMap_cons_some hx, List.foldl_cons, Option.elim_some]
      rw [hfold, ih, hstep, hsplit, List.forall_mem_cons, and_or_left, ← or_assoc]
      refine or_congr (or_comm.trans (or_congr_left and_comm)) ?_
      rw [and_assoc, and_left_comm]

end Put

end Slots

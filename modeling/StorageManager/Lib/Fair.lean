import StorageManager.Lib.Machine

/-!
# Fair executions

`Machine.Reach` is about what no run does.  What every run does in the end needs runs without an
end and a promise that no party is passed over forever.  An `Execution` of a machine takes one label
at each time, or none; it is `Fair` to a class of labels if, again and again, one of them is taken
or none of them could be.

* `Execution.leadsTo_of_rank` — the rule: a rank that no step raises and each step of the class
  lowers, in states where one of the class can always be taken.
* `Execution.reach` — every state of an execution is reachable.
* `Execution.ofRun` — a finite run, and then nothing: fair to what its last state refuses.
-/

namespace Machine

variable {σ α : Type*}

/-- An infinite sequence of states: at each point a step is taken, or nothing happens. -/
structure Execution (step : σ → α → Option σ) where
  state : ℕ → σ
  label : ℕ → Option α
  next : ∀ n, (label n).elim (some (state n)) (step (state n)) = some (state (n + 1))

/-- Some label of the class can be taken. -/
def Enabled (step : σ → α → Option σ) (A : α → Prop) (s : σ) : Prop :=
  ∃ a s', A a ∧ step s a = some s'

namespace Execution

variable {step : σ → α → Option σ} (x : Execution step)

/-- Again and again a label of the class is taken, or none can be. -/
def Fair (A : α → Prop) : Prop :=
  ∀ n, ∃ m, n ≤ m ∧ ((∃ a, x.label m = some a ∧ A a) ∨ ¬ Enabled step A (x.state m))

/-- Whenever `P` holds, `Q` holds then or later. -/
def LeadsTo (P Q : σ → Prop) : Prop := ∀ n, P (x.state n) → ∃ m, n ≤ m ∧ Q (x.state m)

variable {x} {P Q : σ → Prop}

lemma next_of_label {n : ℕ} {a : α} (h : x.label n = some a) :
    step (x.state n) a = some (x.state (n + 1)) := by
  simpa [h] using x.next n

lemma next_of_idle {n : ℕ} (h : x.label n = none) : x.state (n + 1) = x.state n := by
  simpa [h] using (x.next n).symm

/-- Every state of an execution is reachable. -/
theorem reach {init : σ → Prop} (h0 : init (x.state 0)) (n : ℕ) :
    Reach init step anyStep (x.state n) := by
  induction n with
  | zero => exact .start h0
  | succ n ih =>
      cases hl : x.label n with
      | none => rwa [next_of_idle hl]
      | some a => exact ih.next trivial (next_of_label hl)

/-- Until `Q` comes, `P` stays and the rank does not rise. -/
lemma persists {rank : σ → ℕ}
    (hstep : ∀ s a s', P s → step s a = some s' → Q s' ∨ (P s' ∧ rank s' ≤ rank s)) {n : ℕ}
    (hn : P (x.state n)) (k : ℕ) :
    (∃ m, n ≤ m ∧ Q (x.state m)) ∨
      (P (x.state (n + k)) ∧ rank (x.state (n + k)) ≤ rank (x.state n)) := by
  induction k with
  | zero => exact Or.inr ⟨hn, Nat.le_refl _⟩
  | succ k ih =>
      rcases ih with hQ | ⟨hP, hrank⟩
      · exact Or.inl hQ
      rw [← Nat.add_assoc]
      cases hl : x.label (n + k) with
      | none => rw [next_of_idle hl]; exact Or.inr ⟨hP, hrank⟩
      | some a =>
          rcases hstep _ _ _ hP (next_of_label hl) with hQ | ⟨hP', hrank'⟩
          · exact Or.inl ⟨n + k + 1, by omega, hQ⟩
          · exact Or.inr ⟨hP', Nat.le_trans hrank' hrank⟩

/-- **The progress rule.**  In the states of `P` a label of the class can always be taken; no step
raises the rank or leaves `P` but for `Q`, and a step of the class lowers it.  Then a fair execution
comes from `P` to `Q`. -/
theorem leadsTo_of_rank {A : α → Prop} (hfair : x.Fair A) (rank : σ → ℕ)
    (henabled : ∀ s, P s → Enabled step A s)
    (hstep : ∀ s a s', P s → step s a = some s' → Q s' ∨ (P s' ∧ rank s' ≤ rank s))
    (hlower : ∀ s a s', P s → A a → step s a = some s' → Q s' ∨ rank s' < rank s) :
    x.LeadsTo P Q := by
  intro n hn
  -- strong induction on the rank at time `n`
  induction hr : rank (x.state n) using Nat.strongRecOn generalizing n with
  | _ r ih =>
      obtain ⟨m, hnm, htaken⟩ := hfair n
      obtain ⟨k, rfl⟩ := Nat.exists_eq_add_of_le hnm
      rcases persists hstep hn k with hQ | ⟨hP, hrank⟩
      · exact hQ
      rcases htaken with ⟨a, hl, hA⟩ | hnot
      · have hnext := next_of_label hl
        rcases hstep _ _ _ hP hnext with hQ | ⟨hP', -⟩
        · exact ⟨n + k + 1, by omega, hQ⟩
        rcases hlower _ _ _ hP hA hnext with hQ | hlt
        · exact ⟨n + k + 1, by omega, hQ⟩
        · obtain ⟨j, hj, hQ⟩ := ih _ (by omega) (n + k + 1) hP' rfl
          exact ⟨j, by omega, hQ⟩
      · exact absurd (henabled _ hP) hnot

end Execution

/-! ## A run that stops -/

section OfRun

variable {step : σ → α → Option σ} {s s' : σ} {as : List α}

lemma run_take_isSome (h : run step s as = some s') (n : ℕ) :
    (run step s (as.take n)).isSome := by
  rw [← List.take_append_drop n as, run_append] at h
  obtain ⟨t, ht, -⟩ := Option.bind_eq_some_iff.mp h
  rw [ht, Option.isSome_some]

/-- The states of a run, and its last one forever after. -/
def Execution.ofRun (h : run step s as = some s') : Execution step where
  state n := (run step s (as.take n)).get (run_take_isSome h n)
  label n := as[n]?
  next n := by
    rw [Option.some_get, Option.some_get, List.take_add_one, run_append]
    obtain ⟨t, ht⟩ := Option.isSome_iff_exists.mp (run_take_isSome h n)
    cases as[n]? <;> simp [ht]

lemma Execution.ofRun_state (h : run step s as = some s') {n : ℕ} (hn : as.length ≤ n) :
    (Execution.ofRun h).state n = s' := by
  simp [Execution.ofRun, List.take_of_length_le hn, h]

/-- A run that ends where nothing of the class can be taken is fair to it. -/
theorem Execution.fair_ofRun (h : run step s as = some s') {A : α → Prop}
    (hend : ¬ Enabled step A s') : (Execution.ofRun h).Fair A := by
  intro n
  refine ⟨n + as.length, Nat.le_add_right _ _, Or.inr ?_⟩
  rwa [Execution.ofRun_state h (Nat.le_add_left _ _)]

end OfRun

end Machine

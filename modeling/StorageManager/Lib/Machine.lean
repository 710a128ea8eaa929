import Mathlib.Order.Defs.PartialOrder
import Mathlib.Tactic.Common

/-!
# Runs of a labelled machine

A machine is a partial function `step : σ → α → Option σ`: in state `s` the label `a` is either
refused (`none`) or leads to exactly one state.  Everything the program does not decide itself
(which thread runs next, what a system call returns) is part of the label, so a set of labels
is a set of interleavings and a quantifier over labels ranges over all of them.

`Reach init step allowed` collects the states a run can reach when it starts in `init` and each
of its steps is `allowed` in the state it is taken from.  With `anyStep` it is plain
reachability; with a proper condition it is "every run whose steps all meet the condition".

* `Reach.invariant` — the induction every safety result below goes through.
* `Reach.mono` — fewer allowed steps, fewer reachable states.
* `Reach.map` — a function between two machines that turns each step into a step, or into
  nothing, carries reachable states to reachable states.
* `run`, `Reach.of_run` — a concrete run as a list of labels, for exhibiting reachable states.
* `le_of_run` — what no step lowers, no run lowers.
-/

namespace Machine

variable {σ α : Type*}

/-- No restriction on the steps of a run. -/
def anyStep (_ : σ) (_ : α) : Prop := True

/-- The states reached by the runs that start in `init` and only take `allowed` steps. -/
inductive Reach (init : σ → Prop) (step : σ → α → Option σ) (allowed : σ → α → Prop) : σ → Prop
  | start {s : σ} : init s → Reach init step allowed s
  | next {s s' : σ} {a : α} :
      Reach init step allowed s → allowed s a → step s a = some s' → Reach init step allowed s'

variable {init : σ → Prop} {step : σ → α → Option σ} {allowed : σ → α → Prop}

/-- **The invariant rule.**  What holds initially and is kept by every allowed step holds in
every state reached. -/
theorem Reach.invariant {I : σ → Prop} (h0 : ∀ s, init s → I s)
    (hstep : ∀ s a s', I s → allowed s a → step s a = some s' → I s') {s : σ}
    (h : Reach init step allowed s) : I s := by
  induction h with
  | start hi => exact h0 _ hi
  | next _ ha hs ih => exact hstep _ _ _ ih ha hs

/-- Restricting the steps of a run can only lose states. -/
theorem Reach.mono {allowed' : σ → α → Prop} (hle : ∀ s a, allowed s a → allowed' s a) {s : σ}
    (h : Reach init step allowed s) : Reach init step allowed' s := by
  induction h with
  | start hi => exact .start hi
  | next _ ha hs ih => exact .next ih (hle _ _ ha) hs

/-- **The simulation rule.**  Each step of the first machine, seen through `f`, is a step of the
second or changes nothing. -/
theorem Reach.map {τ β : Type*} {init' : τ → Prop} {step' : τ → β → Option τ} (f : σ → τ)
    (h0 : ∀ s, init s → init' (f s))
    (hstep : ∀ s a s', Reach init step allowed s → step s a = some s' →
      f s' = f s ∨ ∃ b, step' (f s) b = some (f s')) {s : σ}
    (h : Reach init step allowed s) : Reach init' step' anyStep (f s) := by
  induction h with
  | start hi => exact .start (h0 _ hi)
  | next hr _ hs ih =>
      rcases hstep _ _ _ hr hs with heq | ⟨b, hb⟩
      · rwa [heq]
      · exact ih.next trivial hb

/-- The state after a list of labels, when none of them is refused. -/
def run (step : σ → α → Option σ) : σ → List α → Option σ
  | s, [] => some s
  | s, a :: as => (step s a).bind fun s' => run step s' as

@[simp] lemma run_nil (s : σ) : run step s [] = some s := rfl

@[simp] lemma run_cons (s : σ) (a : α) (as : List α) :
    run step s (a :: as) = (step s a).bind fun s' => run step s' as := rfl

lemma run_append (s : σ) (as bs : List α) :
    run step s (as ++ bs) = (run step s as).bind fun s' => run step s' bs := by
  induction as generalizing s with
  | nil => rfl
  | cons a as ih =>
      rw [List.cons_append, run_cons, run_cons, Option.bind_assoc]
      exact congrArg _ (funext fun s' => ih s')

/-- What no step lowers, no run lowers. -/
theorem le_of_run {β : Type*} [Preorder β] (f : σ → β)
    (hstep : ∀ s a s', step s a = some s' → f s ≤ f s') {s s' : σ} {as : List α}
    (hrun : run step s as = some s') : f s ≤ f s' := by
  induction as generalizing s with
  | nil => rw [run_nil, Option.some.injEq] at hrun; rw [hrun]
  | cons a as ih =>
      rw [run_cons, Option.bind_eq_some_iff] at hrun
      obtain ⟨t, hst, hrest⟩ := hrun
      exact le_trans (hstep s a t hst) (ih hrest)

/-- Every step of the run of `as` from `s` is allowed. -/
def AllowedRun (step : σ → α → Option σ) (allowed : σ → α → Prop) : σ → List α → Prop
  | _, [] => True
  | s, a :: as => allowed s a ∧
      match step s a with
      | none => True
      | some s' => AllowedRun step allowed s' as

/-- Allowed runs can be checked by running them. -/
instance AllowedRun.decidable [∀ s a, Decidable (allowed s a)] :
    ∀ (as : List α) (s : σ), Decidable (AllowedRun step allowed s as)
  | [], _ => inferInstanceAs (Decidable True)
  | a :: as, s =>
      haveI : Decidable (match step s a with
          | none => True
          | some s' => AllowedRun step allowed s' as) :=
        match step s a with
        | none => inferInstanceAs (Decidable True)
        | some s' => AllowedRun.decidable as s'
      inferInstanceAs (Decidable (_ ∧ _))

/-- A run of allowed steps stays inside `Reach`. -/
theorem Reach.of_run {s s' : σ} {as : List α} (h : Reach init step allowed s)
    (hal : AllowedRun step allowed s as) (hrun : run step s as = some s') :
    Reach init step allowed s' := by
  induction as generalizing s with
  | nil => rw [run_nil, Option.some.injEq] at hrun; subst hrun; exact h
  | cons a as ih =>
      rw [run_cons, Option.bind_eq_some_iff] at hrun
      obtain ⟨t, hst, hrest⟩ := hrun
      obtain ⟨ha, hal⟩ := hal
      rw [hst] at hal
      exact ih (h.next ha hst) hal hrest

/-- Without a restriction any run that is not refused will do. -/
theorem Reach.of_run_any {s s' : σ} {as : List α} (h : Reach init step anyStep s)
    (hrun : run step s as = some s') : Reach init step anyStep s' := by
  have hal : ∀ (as : List α) (s : σ), AllowedRun step anyStep s as := by
    intro as
    induction as with
    | nil => intro s; trivial
    | cons a as ih =>
        intro s
        refine ⟨trivial, ?_⟩
        cases step s a with
        | none => trivial
        | some s' => exact ih s'
  exact h.of_run (hal as s) hrun

end Machine

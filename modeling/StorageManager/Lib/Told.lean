import Mathlib.Tactic.Common

/-!
# Calls that answer

A caller that changes a system through calls has the answers to go by.  If it knows what each call
is meant to do, it has a picture of the system: each call that was answered with success has done
what it is meant to do, and each other call has done nothing.

`step` is what a call does and answers, `spec` what it is meant to do to the picture, if it can be
done.  A call is `Honest` about a `view` of the system if its answer is right about it in every
state that keeps an invariant, unless it is an answer that leaves open what has happened; `R` says
which answers do not.

* `told_run` — after any run of honest calls with such answers the picture is the view.
-/

namespace Told

variable {σ κ ρ α : Type*}

/-- The calls one after the other, and their answers. -/
def run (step : σ → κ → σ × ρ) (s : σ) : List κ → σ × List ρ
  | [] => (s, [])
  | k :: ks =>
      let r := step s k
      let t := run step r.1 ks
      (t.1, r.2 :: t.2)

/-- The picture after these answers; `none` if one of them told of a success that cannot be. -/
def told (ok : ρ → Bool) (spec : κ → α → Option α) (a : α) : List (κ × ρ) → Option α
  | [] => some a
  | (k, r) :: rest =>
      if ok r then (spec k a).bind fun a' => told ok spec a' rest else told ok spec a rest

/-- What an answer that is clear says about the view is what has happened to it. -/
structure Honest (step : σ → κ → σ × ρ) (ok : ρ → Bool) (spec : κ → α → Option α) (view : σ → α)
    (I : σ → Prop) (R : κ → ρ → Prop) (k : κ) : Prop where
  keeps : ∀ s, I s → R k (step s k).2 → I (step s k).1
  success : ∀ s, I s → R k (step s k).2 → ok (step s k).2 = true →
    spec k (view s) = some (view (step s k).1)
  failure : ∀ s, I s → R k (step s k).2 → ok (step s k).2 = false → view (step s k).1 = view s

variable {step : σ → κ → σ × ρ} {ok : ρ → Bool} {spec : κ → α → Option α} {view : σ → α}
  {I : σ → Prop} {R : κ → ρ → Prop}

/-- **The picture is right** after every run of honest calls whose answers are clear. -/
theorem told_run {ks : List κ} (h : ∀ k ∈ ks, Honest step ok spec view I R k) {s : σ} (hs : I s)
    (hclear : ∀ p ∈ ks.zip (run step s ks).2, R p.1 p.2) :
    I (run step s ks).1 ∧
      told ok spec (view s) (ks.zip (run step s ks).2) = some (view (run step s ks).1) := by
  induction ks generalizing s with
  | nil => exact ⟨hs, rfl⟩
  | cons k ks ih =>
      obtain ⟨hk, hrest⟩ := List.forall_mem_cons.mp h
      simp only [run, List.zip_cons_cons, List.forall_mem_cons] at hclear
      obtain ⟨hI, htold⟩ := ih hrest (hk.keeps s hs hclear.1) hclear.2
      refine ⟨hI, ?_⟩
      simp only [run, List.zip_cons_cons, told]
      cases hok : ok (step s k).2 with
      | true => simpa [hk.success s hs hclear.1 hok] using htold
      | false => simpa [hk.failure s hs hclear.1 hok] using htold

end Told

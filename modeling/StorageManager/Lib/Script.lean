import Mathlib.Data.Nat.Notation
import Mathlib.Tactic.Common

/-!
# Shell scripts under `set -e`

A script is a `Cmd` over the states `σ` of its variables and of the world.  A simple command is a
function that gives the next state and an exit status; everything a program called by the script
decides is put into that function by whoever writes the script down.  Around it stand the control
structures, and with them the rule that makes `set -e` hard to read: a command that fails ends the
script, unless it is being *tested*, and then nothing that is called from it ends the script either.
`Cmd.eval` carries that as the flag `e`.

* `Cmd.eval_keeps` — what every simple command keeps, the script keeps, however it ends.
* `Cmd.Triple` — pre- and postconditions, the latter on the way a command ends; `triple_seq`,
  `triple_ite` and so on are its rules.
-/

namespace Script

universe u

variable {σ : Type u}

/-- How a command ends: the script goes on, the function or the iteration around it is over, or the
script is. -/
inductive Outcome (σ : Type u)
  | next (s : σ) (status : ℕ)
  | cont (s : σ)
  | ret (s : σ) (status : ℕ)
  | exit (s : σ) (status : ℕ)

/-- The state a command ends in. -/
def Outcome.state : Outcome σ → σ
  | .next s _ | .cont s | .ret s _ | .exit s _ => s

/-- The exit status of a command. -/
def Outcome.status : Outcome σ → ℕ
  | .cont _ => 0
  | .next _ st | .ret _ st | .exit _ st => st

/-- `given` is a command that depends on the state it is reached in: a `case`, an expansion.  Of a
subshell that is entered in `s` and ends in `s'`, the script goes on with `leave s s'`: what was
assigned in it is gone, what was written to files is not. -/
inductive Cmd (σ : Type u) : Type u
  | run (f : σ → σ × ℕ)
  | given (c : σ → Cmd σ)
  | seq (a b : Cmd σ)
  | ite (test thn els : Cmd σ)
  | either (a b : Cmd σ)
  | cont
  | ret (status : ℕ)
  | exit (status : ℕ)
  | iteration (body : Cmd σ)
  | call (body : Cmd σ)
  | subshell (leave : σ → σ → σ) (body : Cmd σ)

namespace Cmd

/-- The end of a command with this status. -/
def settle (e : Bool) (s : σ) (status : ℕ) : Outcome σ :=
  if e = true ∧ status ≠ 0 then .exit s status else .next s status

/-- The command in the state `s`; `e` says that a failure ends the script. -/
def eval : Cmd σ → Bool → σ → Outcome σ
  | .run f, e, s => settle e (f s).1 (f s).2
  | .given c, e, s => (c s).eval e s
  | .seq a b, e, s =>
      match a.eval e s with
      | .next s _ => b.eval e s
      | o => o
  | .ite test thn els, e, s =>
      match test.eval false s with
      | .next s status => if status = 0 then thn.eval e s else els.eval e s
      | o => o
  | .either a b, e, s =>
      match a.eval false s with
      | .next s status => if status = 0 then .next s 0 else b.eval e s
      | o => o
  | .cont, _, s => .cont s
  | .ret status, _, s => .ret s status
  | .exit status, _, s => .exit s status
  | .iteration body, e, s =>
      match body.eval e s with
      | .cont s => .next s 0
      | o => o
  | .call body, e, s =>
      match body.eval e s with
      | .exit s status => .exit s status
      | o => settle e o.state o.status
  | .subshell leave body, e, s =>
      settle e (leave s (body.eval e s).state) (body.eval e s).status

/-- The state and the exit status in which a script ends that starts with `set -e`. -/
def script (c : Cmd σ) (s : σ) : σ × ℕ := ((c.eval true s).state, (c.eval true s).status)

/-- A command that succeeds and changes nothing. -/
def skip : Cmd σ := .run fun s => (s, 0)

/-- The status of a command that reports success or failure. -/
def status (b : Bool) : ℕ := if b then 0 else 1

/-- A test of the state. -/
def test (p : σ → Bool) : Cmd σ := .run fun s => (s, status (p s))

/-- Commands one after the other. -/
def block : List (Cmd σ) → Cmd σ
  | [] => skip
  | [c] => c
  | c :: cs => .seq c (block cs)

/-- `for x in xs`. -/
def each {α : Type*} (xs : List α) (body : α → Cmd σ) : Cmd σ :=
  xs.foldr (fun x rest => .seq (.iteration (body x)) rest) skip

section Eval

variable {a b c : Cmd σ} {e : Bool} {s s' : σ} {status : ℕ}

@[simp] lemma settle_zero (e : Bool) (s : σ) : settle e s 0 = .next s 0 := by simp [settle]

@[simp] lemma settle_false (s : σ) (status : ℕ) : settle false s status = .next s status := by
  simp [settle]

lemma settle_true (h : status ≠ 0) : settle true s status = .exit s status := by
  simp [settle, h]

@[simp] lemma state_settle (e : Bool) (s : σ) (status : ℕ) : (settle e s status).state = s := by
  unfold settle
  split <;> rfl

@[simp] lemma eval_skip : (skip : Cmd σ).eval e s = .next s 0 := settle_zero e s

@[simp] lemma eval_run (f : σ → σ × ℕ) : (run f).eval e s = settle e (f s).1 (f s).2 := rfl

@[simp] lemma eval_given (c : σ → Cmd σ) : (given c).eval e s = (c s).eval e s := rfl

@[simp] lemma eval_cont : (cont : Cmd σ).eval e s = .cont s := rfl

@[simp] lemma eval_ret : (ret status : Cmd σ).eval e s = .ret s status := rfl

@[simp] lemma eval_exit : (exit status : Cmd σ).eval e s = .exit s status := rfl

@[simp] lemma eval_seq : (seq a b).eval e s =
    match a.eval e s with
    | .next s _ => b.eval e s
    | o => o := rfl

@[simp] lemma eval_ite : (ite c a b).eval e s =
    match c.eval false s with
    | .next s status => if status = 0 then a.eval e s else b.eval e s
    | o => o := rfl

@[simp] lemma eval_either : (either a b).eval e s =
    match a.eval false s with
    | .next s status => if status = 0 then .next s 0 else b.eval e s
    | o => o := rfl

@[simp] lemma eval_iteration : (iteration a).eval e s =
    match a.eval e s with
    | .cont s => .next s 0
    | o => o := rfl

@[simp] lemma eval_call : (call a).eval e s =
    match a.eval e s with
    | .exit s status => .exit s status
    | o => settle e o.state o.status := rfl

@[simp] lemma eval_subshell {leave : σ → σ → σ} : (subshell leave a).eval e s =
    settle e (leave s (a.eval e s).state) (a.eval e s).status := rfl

lemma eval_seq_next (h : a.eval e s = .next s' status) : (seq a b).eval e s = b.eval e s' := by
  simp only [eval_seq, h]

lemma eval_seq_exit (h : a.eval e s = .exit s' status) :
    (seq a b).eval e s = .exit s' status := by
  simp only [eval_seq, h]

lemma eval_each_cons {α : Type*} (x : α) (xs : List α) (body : α → Cmd σ) :
    (each (x :: xs) body).eval e s = (seq (.iteration (body x)) (each xs body)).eval e s := rfl

end Eval

section Script

variable {a b : Cmd σ} {s s' : σ} {status : ℕ}

@[simp] lemma script_call : (call a).script s = a.script s := by
  simp only [script, eval_call]
  split
  · next heq => rw [heq]
  · unfold settle
    split <;> rfl

lemma script_seq_next (h : a.eval true s = .next s' status) :
    (seq a b).script s = b.script s' := by
  rw [script, eval_seq_next h, script]

lemma script_seq_exit (h : a.eval true s = .exit s' status) :
    (seq a b).script s = (s', status) := by
  rw [script, eval_seq_exit h]
  rfl

/-- The script goes on to the second command, or it ends where the first one does. -/
lemma script_seq (a b : Cmd σ) (s : σ) :
    (∃ s' status, a.eval true s = .next s' status ∧ (seq a b).script s = b.script s') ∨
      (seq a b).script s = a.script s := by
  cases h : a.eval true s with
  | next s' status => exact Or.inl ⟨s', status, rfl, script_seq_next h⟩
  | cont s' | ret s' status | exit s' status =>
      refine Or.inr ?_
      simp only [script, eval_seq, h]

end Script

/-- Every simple command of the script has the property. -/
def Within (p : (σ → σ × ℕ) → Prop) : Cmd σ → Prop
  | .run f => p f
  | .given c => ∀ s, (c s).Within p
  | .seq a b | .either a b => a.Within p ∧ b.Within p
  | .ite test thn els => test.Within p ∧ thn.Within p ∧ els.Within p
  | .cont | .ret _ | .exit _ => True
  | .iteration body | .call body => body.Within p
  | .subshell leave body => body.Within p ∧ ∀ s, p fun s' => (leave s s', 0)

lemma within_each {α : Type*} {p : (σ → σ × ℕ) → Prop} (hskip : p fun s => (s, 0)) {xs : List α}
    {body : α → Cmd σ} (h : ∀ x, (body x).Within p) : (each xs body).Within p := by
  induction xs with
  | nil => exact hskip
  | cons x xs ih => exact ⟨h x, ih⟩

/-- **The invariant rule.** -/
theorem eval_keeps {I : σ → Prop} {c : Cmd σ} (hc : c.Within fun f => ∀ s, I s → I (f s).1)
    {e : Bool} {s : σ} (hs : I s) : I (c.eval e s).state := by
  induction c generalizing e s with
  | run f =>
      rw [eval_run, state_settle]
      exact hc s hs
  | given c ih => exact ih s (hc s) hs
  | seq a b iha ihb =>
      have ha := iha hc.1 (e := e) hs
      rw [eval_seq]
      split
      · next s' st heq => rw [heq] at ha; exact ihb hc.2 ha
      · exact ha
  | ite test thn els ihtest ihthn ihels =>
      have htest := ihtest hc.1 (e := false) hs
      rw [eval_ite]
      split
      · next s' st heq =>
          rw [heq] at htest
          split_ifs
          · exact ihthn hc.2.1 htest
          · exact ihels hc.2.2 htest
      · exact htest
  | either a b iha ihb =>
      have ha := iha hc.1 (e := false) hs
      rw [eval_either]
      split
      · next s' st heq =>
          rw [heq] at ha
          split_ifs
          · exact ha
          · exact ihb hc.2 ha
      · exact ha
  | cont | ret st | exit st => exact hs
  | iteration body ih =>
      have hbody := ih hc (e := e) hs
      rw [eval_iteration]
      split
      · next s' heq => rw [heq] at hbody; exact hbody
      · exact hbody
  | call body ih =>
      have hbody := ih hc (e := e) hs
      rw [eval_call]
      split
      · next s' st heq => rw [heq] at hbody; exact hbody
      · rw [state_settle]
        exact hbody
  | subshell leave body ih =>
      rw [eval_subshell, state_settle]
      exact hc.2 s _ (ih hc.1 hs)

lemma keeps_next {I : σ → Prop} {c : Cmd σ} (hc : c.Within fun f => ∀ s, I s → I (f s).1)
    {e : Bool} {s s' : σ} {status : ℕ} (hs : I s) (h : c.eval e s = .next s' status) : I s' := by
  have hstate := eval_keeps hc (e := e) hs
  rwa [h] at hstate

lemma keeps_script {I : σ → Prop} {c : Cmd σ} (hc : c.Within fun f => ∀ s, I s → I (f s).1)
    {s : σ} (hs : I s) : I (c.script s).1 := eval_keeps hc hs

/-! ## Pre- and postconditions -/

/-- From a state with `P` the command ends with `Q`. -/
def Triple (e : Bool) (P : σ → Prop) (c : Cmd σ) (Q : Outcome σ → Prop) : Prop :=
  ∀ s, P s → Q (c.eval e s)

/-- `R` where the script goes on, `Q` where it does not. -/
def goesOn (R : σ → ℕ → Prop) (Q : Outcome σ → Prop) : Outcome σ → Prop
  | .next s status => R s status
  | o => Q o

section Triples

variable {e : Bool} {P R : σ → Prop} {a b c : Cmd σ} {Q : Outcome σ → Prop}

/-- A condition that does not depend on the state. -/
lemma triple_pure {φ : Prop} (h : φ → Triple e P c Q) : Triple e (fun s => P s ∧ φ) c Q :=
  fun s hs => h hs.2 s hs.1

lemma triple_weaken {Q' : Outcome σ → Prop} (h : Triple e P c Q) (hQ : ∀ o, Q o → Q' o) :
    Triple e P c Q' := fun s hs => hQ _ (h s hs)

lemma triple_run {f : σ → σ × ℕ} (h : ∀ s, P s → Q (settle e (f s).1 (f s).2)) :
    Triple e P (run f) Q := h

lemma triple_skip (h : ∀ s, P s → Q (.next s 0)) : Triple e P skip Q := fun s hs => by
  rw [eval_skip]
  exact h s hs

lemma triple_seq (ha : Triple e P a (goesOn (fun s _ => R s) Q)) (hb : Triple e R b Q) :
    Triple e P (seq a b) Q := by
  intro s hs
  have hfirst := ha s hs
  rw [eval_seq]
  split
  · next s' st heq =>
      rw [heq] at hfirst
      exact hb s' hfirst
  · next hne =>
      cases heq : a.eval e s with
      | next s' st => exact absurd heq (hne s' st)
      | cont s' | ret s' st | exit s' st =>
          rw [heq] at hfirst
          exact hfirst

/-- A test that does not depend on the state. -/
lemma triple_ite {p : Bool} (ha : p = true → Triple e P a Q) (hb : p = false → Triple e P b Q) :
    Triple e P (ite (test fun _ => p) a b) Q := by
  intro s hs
  cases p with
  | true => simpa [test, status] using ha rfl s hs
  | false => simpa [test, status] using hb rfl s hs

lemma triple_iteration (h : Triple e P a fun o => Q (match o with
      | .cont s => .next s 0
      | o => o)) : Triple e P (iteration a) Q := by
  intro s hs
  have hbody := h s hs
  rw [eval_iteration]
  cases heq : a.eval e s <;> rw [heq] at hbody <;> exact hbody

lemma triple_call (h : Triple e P a fun o => Q (match o with
      | .exit s status => .exit s status
      | o => settle e o.state o.status)) : Triple e P (call a) Q := by
  intro s hs
  have hbody := h s hs
  rw [eval_call]
  cases heq : a.eval e s <;> rw [heq] at hbody <;> exact hbody

lemma triple_subshell {leave : σ → σ → σ}
    (h : ∀ s₀, P s₀ → Triple e (· = s₀) a fun o => Q (settle e (leave s₀ o.state) o.status)) :
    Triple e P (subshell leave a) Q := fun s hs => h s hs s rfl

end Triples

end Cmd

end Script

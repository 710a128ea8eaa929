import StorageManager.Daemon.RunningChildren

/-!
# What `daemon_shutdown` sends

`daemon_shutdown` goes through the table twice, with SIGTERM and two seconds later with SIGKILL, and
then removes the pid file and returns, whoever is left.  SIGCHLD may empty slots under its hands the
whole time.  With a record of the signals beside the machine of `Daemon/WorkerSteps.lean` the
question is whether a child can be left that was passed over, and `shutdown_signals_running` says
no: a child that is still running when the function returns has been sent both.

The proof follows the two loops: behind slot `i` every running child below `i` has had its signal
(`Told`), because a running child is in the slot of its number (`Tracked`).
-/

namespace Storage

open CString Machine

/-- The daemon and every signal it has sent, with the place in the code that sent it. -/
structure Signalled where
  daemon : Daemon
  sent : List (KillSite × ℤ)

/-- The `kill` a step makes. -/
def Daemon.sends (s : Daemon) : DaemonAct → List (KillSite × ℤ)
  | .main _ =>
      match s.pc with
      | .kill site _ p => [(site, p)]
      | _ => []
  | _ => []

/-- A step of the daemon, with the signal it sends put on record. -/
def signalStep (s : Signalled) (a : DaemonAct) : Option Signalled :=
  (daemonStep s.daemon a).map fun d => ⟨d, s.sent ++ s.daemon.sends a⟩

/-- The daemon has started and sent nothing. -/
def signalInit (s : Signalled) : Prop := daemonInitial s.daemon ∧ s.sent = []

/-- Every running child below `n` has been sent the signal of `site`. -/
def Told (k : Kernel) (sent : List (KillSite × ℤ)) (site : KillSite) (n : ℕ) : Prop :=
  ∀ c ∈ k.children, c.exit = none → c.birth < n → (site, c.pid) ∈ sent

section Told

variable {k : Kernel} {sent : List (KillSite × ℤ)} {site : KillSite} {n : ℕ}

lemma told_zero : Told k sent site 0 := fun _ _ _ hb => absurd hb (Nat.not_lt_zero _)

lemma Told.append (h : Told k sent site n) (more : List (KillSite × ℤ)) :
    Told k (sent ++ more) site n :=
  fun c hc hrun hb => List.mem_append_left _ (h c hc hrun hb)

lemma Told.of_le (h : Told k sent site n) {m : ℕ} (hle : m ≤ n) : Told k sent site m :=
  fun c hc hrun hb => h c hc hrun (Nat.lt_of_lt_of_le hb hle)

/-- A slot whose child is gone is passed over. -/
lemma Told.skip (h : Told k sent site n)
    (hgone : ∀ c ∈ k.children, c.exit = none → c.birth ≠ n) : Told k sent site (n + 1) := by
  intro c hc hrun hb
  exact h c hc hrun (Nat.lt_of_le_of_ne (Nat.le_of_lt_succ hb) (hgone c hc hrun))

/-- The child of a slot is sent the signal. -/
lemma Told.hit (h : Told k sent site n) {p : ℤ}
    (htarget : ∀ c ∈ k.children, c.exit = none → c.birth = n → c.pid = p) :
    Told k (sent ++ [(site, p)]) site (n + 1) := by
  intro c hc hrun hb
  rcases Nat.lt_succ_iff_lt_or_eq.mp hb with hb | hb
  · exact List.mem_append_left _ (h c hc hrun hb)
  · rw [htarget c hc hrun hb]
    exact List.mem_append_right _ (List.mem_singleton_self _)

lemma Told.fewer {k' : Kernel} (h : Told k sent site n)
    (hsub : ∀ c ∈ k'.children, c.exit = none → c ∈ k.children) : Told k' sent site n :=
  fun c hc hrun hb => h c (hsub c hc hrun) hrun hb

end Told

/-- What `daemon_shutdown` has done at each of its places. -/
def ToldPc (k : Kernel) (sent : List (KillSite × ℤ)) : Pc → Prop
  | .test .term i | .arg .term i | .kill .term i _ => Told k sent .term i
  | .sleep => Told k sent .term k.births
  | .test .probe i | .arg .probe i | .kill .probe i _
  | .test .force i | .arg .force i | .kill .force i _ =>
      Told k sent .term k.births ∧ Told k sent .force i
  | .reap | .stopped => Told k sent .term k.births ∧ Told k sent .force k.births
  | _ => True

/-- Fewer running children, and the same claim. -/
lemma ToldPc.fewer {k k' : Kernel} {sent : List (KillSite × ℤ)} {pc : Pc}
    (h : ToldPc k sent pc) (hbirths : k'.births = k.births)
    (hsub : ∀ c ∈ k'.children, c.exit = none → c ∈ k.children) : ToldPc k' sent pc := by
  cases pc with
  | test site i | arg site i | kill site i p =>
      cases site with
      | monitor => trivial
      | term => exact Told.fewer h hsub
      | probe | force => exact ⟨hbirths ▸ h.1.fewer hsub, h.2.fewer hsub⟩
  | sleep =>
      rw [ToldPc, hbirths]
      exact Told.fewer h hsub
  | reap | stopped => exact ⟨hbirths ▸ h.1.fewer hsub, hbirths ▸ h.2.fewer hsub⟩
  | _ => trivial

lemma ToldPc.append {k : Kernel} {sent : List (KillSite × ℤ)} {pc : Pc} (h : ToldPc k sent pc)
    (more : List (KillSite × ℤ)) : ToldPc k (sent ++ more) pc := by
  cases pc with
  | test site i | arg site i | kill site i p =>
      cases site with
      | monitor => trivial
      | term => exact Told.append h more
      | probe | force => exact ⟨h.1.append more, h.2.append more⟩
  | sleep => exact Told.append h more
  | reap | stopped => exact ⟨h.1.append more, h.2.append more⟩
  | _ => trivial

/-- The test of a slot. -/
lemma toldPc_test {s s' : Daemon} {r : SysResult} {sent : List (KillSite × ℤ)} {site : KillSite}
    {i : ℕ} (ht : Tracked s) (hcase : s.pc = .test site i) (h : ToldPc s.kernel sent s.pc)
    (hs : mainStep s r = some s') : ToldPc s'.kernel sent s'.pc := by
  have hbirths := ht.pc
  rw [hcase] at h hbirths
  simp only [mainStep, hcase] at hs
  split_ifs at hs with hloop hpos <;> obtain rfl := Option.some.inj hs
  · cases site <;> exact h
  · have hgone := ht.gone_of_empty (KillSite.lt_of_inLoop hloop) hpos
    cases site with
    | monitor => trivial
    | term => exact Told.skip h hgone
    | probe | force => exact ⟨h.1, h.2.skip hgone⟩
  · simp only [TrackPc] at hbirths
    cases site with
    | monitor => trivial
    | term => exact Told.of_le h (by simpa [hbirths, KillSite.inLoop] using hloop)
    | probe | force => exact ⟨h.1, h.2.of_le (by simpa [hbirths, KillSite.inLoop] using hloop)⟩

/-- The call of `kill`. -/
lemma toldPc_kill {s s' : Daemon} {r : SysResult} {sent : List (KillSite × ℤ)} {site : KillSite}
    {i : ℕ} {p : ℤ} (ht : Tracked s) (hcase : s.pc = .kill site i p)
    (h : ToldPc s.kernel sent s.pc) (hs : mainStep s r = some s') :
    ToldPc s'.kernel (sent ++ [(site, p)]) s'.pc := by
  have htarget := fun c hc hrun hb => ht.kill_target (c := c) hcase hc hrun hb
  rw [hcase] at h
  simp only [mainStep, hcase, Option.some.injEq] at hs
  subst hs
  cases site with
  | monitor => cases s.kernel.kill p r.kill <;> trivial
  | term => exact Told.hit h htarget
  | probe =>
      cases hk : s.kernel.kill p r.kill with
      | ok => exact ⟨h.1.append _, h.2.append _⟩
      | esrch | other =>
          -- the probe fails only for a slot whose child is gone
          have hgone := ht.gone_of_kill hcase (r := r.kill) (by simp [hk])
          exact ⟨h.1.append _, (h.2.skip hgone).append _⟩
  | force => exact ⟨h.1.append _, h.2.hit htarget⟩

lemma toldPc_main {s s' : Daemon} {r : SysResult} {sent : List (KillSite × ℤ)} (ht : Tracked s)
    (h : ToldPc s.kernel sent s.pc) (hs : mainStep s r = some s') :
    ToldPc s'.kernel (sent ++ s.sends (.main r)) s'.pc := by
  cases hcase : s.pc with
  | ready | stopped => simp [mainStep, hcase] at hs
  | fork => rcases mainStep_fork hcase hs with rfl | ⟨pid, -, rfl⟩ <;> trivial
  | spawn w pid birth =>
      cases w <;>
        · simp only [mainStep, hcase, Option.some.injEq] at hs
          subst hs
          trivial
  | test site i =>
      simp only [Daemon.sends, hcase, List.append_nil]
      exact toldPc_test ht hcase h hs
  | arg site i =>
      rw [hcase] at h
      simp only [mainStep, hcase, Option.some.injEq] at hs
      subst hs
      simp only [Daemon.sends, hcase, List.append_nil]
      cases site <;> exact h
  | kill site i p =>
      simp only [Daemon.sends, hcase]
      exact toldPc_kill ht hcase h hs
  | failStatus i | failPid i | copy i =>
      simp only [mainStep, hcase, Option.some.injEq] at hs
      subst hs
      trivial
  | sleep =>
      rw [hcase] at h
      simp only [mainStep, hcase, Option.some.injEq] at hs
      subst hs
      simp only [Daemon.sends, hcase, List.append_nil]
      exact ⟨h, told_zero⟩
  | reap =>
      rw [hcase] at h
      simp only [mainStep, hcase] at hs
      split_ifs at hs
      obtain rfl := Option.some.inj hs
      simp only [Daemon.sends, hcase, List.append_nil]
      have hstopped : ToldPc s.kernel sent .stopped := h
      exact hstopped.fewer rfl fun c hc _ => (Kernel.mem_reap.mp hc).1

lemma toldPc_step {s s' : Daemon} {a : DaemonAct} {sent : List (KillSite × ℤ)} (ht : Tracked s)
    (h : ToldPc s.kernel sent s.pc) (hs : daemonStep s a = some s') :
    ToldPc s'.kernel (sent ++ s.sends a) s'.pc := by
  rcases daemonStep_cases hs with he | ⟨r, rfl, hr⟩ | ⟨birth, st, k, hk, rfl⟩ |
    ⟨batch, rfl, -, rfl⟩
  · rcases he.pc with hpc | hpc | hpc | hpc <;> rw [hpc]
    · trivial
    · trivial
    · trivial
    · exact told_zero
  · exact toldPc_main ht h hr
  · exact (h.fewer (Kernel.exit_some hk).2.2.1 fun c hc => Kernel.mem_exit hk hc).append _
  · have hreap : ToldPc s.kernel.reap sent s.pc :=
      h.fewer rfl fun c hc _ => (Kernel.mem_reap.mp hc).1
    exact hreap.append _

/-- **`daemon_shutdown` passes over no running child.**  Whatever exits and wherever SIGCHLD
interrupts it, a child that is still running when the function is done has been sent SIGTERM and
SIGKILL. -/
theorem shutdown_signals_running {s : Signalled} (h : Reach signalInit signalStep anyStep s)
    (hdone : s.daemon.pc = .stopped) :
    ∀ c ∈ s.daemon.kernel.children, c.exit = none →
      (.term, c.pid) ∈ s.sent ∧ (.force, c.pid) ∈ s.sent := by
  have hinv : Tracked s.daemon ∧ ToldPc s.daemon.kernel s.sent s.daemon.pc := by
    refine h.invariant (I := fun s => Tracked s.daemon ∧ ToldPc s.daemon.kernel s.sent s.daemon.pc)
      ?_ ?_
    · rintro s ⟨hinit, -⟩
      exact ⟨tracked_init hinit, by rw [hinit.2.2]; trivial⟩
    · rintro s a s' ⟨ht, htold⟩ - hs
      obtain ⟨d, hd, rfl⟩ := Option.map_eq_some_iff.mp hs
      exact ⟨ht.step hd, toldPc_step ht htold hd⟩
  obtain ⟨ht, htold⟩ := hinv
  rw [hdone] at htold
  intro c hc hrun
  have hb := ht.kernel.births_lt c hc
  exact ⟨htold.1 c hc hrun hb, htold.2 c hc hrun hb⟩

/-- A concrete state of this kind. -/
def signalBoot : Signalled := ⟨daemonBoot, []⟩

/-- A worker that survives both signals for as long as `daemon_shutdown` takes, while a second one
has gone and been reaped between the test of its slot and the SIGTERM. -/
def stubbornWorker : List DaemonAct :=
  spawnFork 101 ++ spawnWrites ++ spawnFork 102 ++ spawnWrites ++
    [.callShutdown, .main {}, .exit 0 (.exited 0), .main {}, .sigchld [(101, .exited 0)]] ++
    List.replicate 14 (.main {})

/-- The worker that is still running at the end was sent both signals. -/
theorem shutdown_signals_running_stubborn :
    ∃ s, s.daemon.pc = .stopped ∧ s.daemon.kernel.children = [⟨1, 102, none⟩] ∧
      Reach signalInit signalStep anyStep s ∧
      (.term, 102) ∈ s.sent ∧ (.force, 102) ∈ s.sent := by
  have hrun : (run signalStep signalBoot stubbornWorker).map
      (fun s => (s.daemon.pc, s.daemon.kernel.children)) = some (.stopped, [⟨1, 102, none⟩]) := by
    decide +kernel
  obtain ⟨s, hs, heq⟩ := Option.map_eq_some_iff.mp hrun
  simp only [Prod.mk.injEq] at heq
  have hreach : Reach signalInit signalStep anyStep s :=
    (Reach.start ⟨⟨rfl, rfl, rfl⟩, rfl⟩).of_run_any hs
  exact ⟨s, heq.1, heq.2, hreach,
    shutdown_signals_running hreach heq.1 ⟨1, 102, none⟩ (by simp [heq.2]) rfl⟩

end Storage

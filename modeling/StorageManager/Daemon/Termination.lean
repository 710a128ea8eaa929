import StorageManager.Daemon.Lifecycle
import StorageManager.Lib.Fair

/-!
# A termination signal ends the daemon

`Daemon/Lifecycle.lean` says what the three parties of the daemon never do.  Here is what they do in
the end, when neither the main thread nor the thread in `ipc_server_run` is passed over forever:
after SIGTERM or SIGINT the process exits, whatever the clients send and whichever signals follow.

The way there has three stages, each with a rank of its own.

**The main loop is left.**  The main thread goes once round its loop at most, and clears the
server's flag (`LoopPc.toStop`).

**The server's thread returns.**  It finishes the pass it is in, over at most 64 slots, and finds
the flag cleared (`ThreadPc.toReturn`).

**The rest of `main`.**  Nothing blocks any more (`LoopPc.toExit`).
-/

namespace Storage

open Machine

/-- The steps of the main thread until the server's flag is cleared, if the loop is left. -/
def LoopPc.toStop : LoopPc → ℕ
  | .reload => 4
  | .work => 3
  | .test => 2
  | .stop => 1
  | _ => 0

/-- The steps of the thread until it returns, if the flag is cleared. -/
def ThreadPc.toReturn : ThreadPc → ℕ
  | .selected _ => ipcMaxClients + 3
  | .serving _ left => left.length + 2
  | .top => 1
  | .returned => 0

/-- The steps of the main thread until the process exits, once the thread has returned. -/
def LoopPc.toExit : LoopPc → ℕ
  | .join => 3
  | .shutdown => 2
  | .cleanup => 1
  | _ => 0

/-- What holds of the two threads in every state: while the main thread waits for the other, the
server's flag is clear, and behind the join the other has returned. -/
structure StopInv (s : Life) : Prop where
  flag : s.main = .join → s.server.running = false
  joined : s.main.toStop = 0 → s.main ≠ .join → s.thread = .returned

section Steps

variable {s s' : Life}

/-- A handler run moves neither thread. -/
lemma daemonSignalHandler_same (s : Life) (sig : Signal) :
    (daemonSignalHandler s sig).main = s.main ∧ (daemonSignalHandler s sig).thread = s.thread ∧
      (daemonSignalHandler s sig).server = s.server := by
  cases sig <;> exact ⟨rfl, rfl, rfl⟩

lemma daemonSignalHandler_down (sig : Signal) (h : s.daemonRunning = false) :
    (daemonSignalHandler s sig).daemonRunning = false := by
  cases sig <;> first | rfl | exact h

/-- What a step of the process is a step of, before it has exited. -/
lemma lifeStep_cases {a : LifeAct} (hs : lifeStep s a = some s') :
    (∃ sig, s' = daemonSignalHandler s sig) ∨ (a = .main ∧ loopStep s = some s') ∨
      ∃ e, a = .thread e ∧ s.main ≠ .exited ∧ threadStep s e = some s' := by
  cases a with
  | signal sig =>
      simp only [lifeStep] at hs
      split_ifs at hs
      exact Or.inl ⟨sig, (Option.some.inj hs).symm⟩
  | main => exact Or.inr (Or.inl ⟨rfl, hs⟩)
  | thread e =>
      simp only [lifeStep] at hs
      split_ifs at hs with hexited
      exact Or.inr (Or.inr ⟨e, rfl, hexited, hs⟩)

lemma StopInv.main (h : StopInv s) (hs : loopStep s = some s') : StopInv s' := by
  cases hmain : s.main with
  | join =>
      simp only [loopStep, hmain] at hs
      split at hs
      · next hreturned =>
          obtain rfl := Option.some.inj hs
          exact ⟨fun hjoin => absurd hjoin (by simp), fun _ _ => hreturned⟩
      · exact absurd hs (by simp)
  | shutdown | cleanup =>
      have hreturned := h.joined (by simp [hmain, LoopPc.toStop]) (by simp [hmain])
      simp only [loopStep, hmain, Option.some.injEq] at hs
      subst hs
      exact ⟨fun hjoin => absurd hjoin (by simp), fun _ _ => hreturned⟩
  | stop =>
      simp only [loopStep, hmain, Option.some.injEq] at hs
      subst hs
      exact ⟨fun _ => rfl, fun _ hjoin => absurd rfl hjoin⟩
  | test =>
      simp only [loopStep, hmain, Option.some.injEq] at hs
      subst hs
      constructor <;> simp only <;> split_ifs <;> simp [LoopPc.toStop]
  | reload | work =>
      simp only [loopStep, hmain, Option.some.injEq] at hs
      subst hs
      exact ⟨fun hjoin => absurd hjoin (by simp),
        fun hstop => absurd hstop (by simp [LoopPc.toStop])⟩
  | exited => simp [loopStep, hmain] at hs

lemma StopInv.thread (h : StopInv s) {e : ThreadEnv} (hs : threadStep s e = some s') :
    StopInv s' := by
  obtain ⟨-, hmain, hflag⟩ := threadStep_flags hs
  constructor
  · intro hjoin
    rcases hflag with hflag | ⟨-, -, -, -, -, hflag⟩
    · exact hflag.trans (h.flag (hmain ▸ hjoin))
    · exact hflag
  · intro hstop hjoin
    -- a thread that has returned takes no step
    have hreturned := h.joined (hmain ▸ hstop) (hmain ▸ hjoin)
    simp [threadStep, hreturned] at hs

lemma stopInv_of_reach (h : Reach lifeInit lifeStep anyStep s) : StopInv s := by
  refine h.invariant ?_ fun s a s' hI _ hs => ?_
  · rintro s ⟨hmain, -, -⟩
    exact ⟨fun hjoin => absurd hjoin (by simp [hmain]),
      fun hstop => absurd hstop (by simp [hmain, LoopPc.toStop])⟩
  · rcases lifeStep_cases hs with ⟨sig, rfl⟩ | ⟨-, hs⟩ | ⟨e, -, -, hs⟩
    · obtain ⟨hmain, hthread, hserver⟩ := daemonSignalHandler_same s sig
      exact ⟨by rw [hmain, hserver]; exact hI.flag, by rw [hmain, hthread]; exact hI.joined⟩
    · exact hI.main hs
    · exact hI.thread hs

/-! ## The three stages -/

/-- With `daemon_running` at 0 each step of the main thread brings it nearer to the clearing of the
server's flag. -/
lemma toStop_main (hdown : s.daemonRunning = false) (hleft : 0 < s.main.toStop) :
    ∃ s', loopStep s = some s' ∧ s'.daemonRunning = false ∧ s'.main.toStop < s.main.toStop := by
  cases hmain : s.main with
  | reload =>
      refine ⟨{ (if s.reloadConfig then daemonReloadConfig s else s) with main := .work },
        by simp only [loopStep, hmain], ?_, by simp [LoopPc.toStop]⟩
      cases hreload : s.reloadConfig <;> simp [daemonReloadConfig, hdown]
  | work =>
      exact ⟨{ s with loopCount := s.loopCount + 1, main := .test },
        by simp only [loopStep, hmain], hdown, by simp [LoopPc.toStop]⟩
  | test =>
      exact ⟨{ s with main := .stop }, by simp [loopStep, hmain, hdown], hdown,
        by simp [LoopPc.toStop]⟩
  | stop =>
      exact ⟨{ s with main := .join, server := { s.server with running := false } },
        by simp only [loopStep, hmain], hdown, by simp [LoopPc.toStop]⟩
  | _ => simp [hmain, LoopPc.toStop] at hleft

/-- With the server's flag clear each step of the thread brings it nearer to its return. -/
lemma toReturn_thread {e : ThreadEnv} (hflag : s.server.running = false)
    (hs : threadStep s e = some s') :
    s'.server.running = false ∧ s'.main = s.main ∧ s'.thread.toReturn < s.thread.toReturn := by
  obtain ⟨-, hmain, hrun⟩ := threadStep_flags hs
  refine ⟨?_, hmain, ?_⟩
  · rcases hrun with hrun | ⟨-, -, -, -, -, hrun⟩
    · exact hrun.trans hflag
    · exact hrun
  · cases hpc : s.thread with
    | top =>
        simp only [threadStep, hpc, hflag, if_true, Option.some.injEq] at hs
        subst hs
        exact Nat.lt_succ_self 0
    | selected ready =>
        simp only [threadStep, hpc] at hs
        split_ifs at hs
        all_goals
          obtain rfl := Option.some.inj hs
          simp [ThreadPc.toReturn]
    | serving ready left =>
        cases left with
        | nil =>
            simp only [threadStep, hpc, Option.some.injEq] at hs
            subst hs
            exact Nat.lt_succ_self 1
        | cons i left =>
            simp only [threadStep, hpc, Option.some.injEq] at hs
            subst hs
            simp [ThreadPc.toReturn]
    | returned => simp [threadStep, hpc] at hs

/-- A thread that has not returned can go on: `accept` may always fail. -/
lemma threadStep_enabled (hflag : s.server.running = false) (hleft : 0 < s.thread.toReturn) :
    (threadStep s {}).isSome := by
  cases hpc : s.thread with
  | top => simp [threadStep, hpc, hflag]
  | selected ready =>
      have hnone : FreshFd s.server none := fun fd hfd => absurd hfd (by simp)
      by_cases hmem : s.server.serverFd ∈ ready
      · simp [threadStep, hpc, hmem, hnone]
      · simp [threadStep, hpc, hmem]
  | serving ready left => cases left <;> simp [threadStep, hpc]
  | returned => simp [hpc, ThreadPc.toReturn] at hleft

/-- Once the thread has returned each step of the main thread brings it nearer to the end. -/
lemma toExit_main (hreturned : s.thread = .returned) (hstop : s.main.toStop = 0)
    (hleft : s.main ≠ .exited) :
    ∃ s', loopStep s = some s' ∧ s'.thread = .returned ∧ s'.main.toStop = 0 ∧
      s'.main.toExit < s.main.toExit := by
  cases hmain : s.main with
  | join =>
      exact ⟨{ s with main := .shutdown }, by simp only [loopStep, hmain, hreturned], hreturned,
        rfl, by simp [LoopPc.toExit]⟩
  | shutdown =>
      exact ⟨{ s with main := .cleanup }, by simp only [loopStep, hmain], hreturned, rfl,
        by simp [LoopPc.toExit]⟩
  | cleanup =>
      exact ⟨{ s with server := ipcServerCleanup s.server, main := .exited },
        by simp only [loopStep, hmain], hreturned, rfl, by simp [LoopPc.toExit]⟩
  | exited => exact absurd hmain hleft
  | _ => simp [hmain, LoopPc.toStop] at hstop

end Steps

section Stages

variable {x : Execution lifeStep}

lemma leadsTo_stop (hfair : x.Fair (· = .main)) :
    x.LeadsTo (fun s => s.daemonRunning = false ∧ 0 < s.main.toStop)
      (fun s => s.main.toStop = 0) := by
  refine Execution.leadsTo_of_rank hfair (fun s => s.main.toStop) ?_ ?_ ?_
  · rintro s ⟨hdown, hleft⟩
    obtain ⟨s', hs', -⟩ := toStop_main hdown hleft
    exact ⟨.main, s', rfl, hs'⟩
  · rintro s a s' ⟨hdown, hleft⟩ hs
    rcases lifeStep_cases hs with ⟨sig, rfl⟩ | ⟨-, hs⟩ | ⟨e, -, -, hs⟩
    · right
      rw [(daemonSignalHandler_same s sig).1]
      exact ⟨⟨daemonSignalHandler_down sig hdown, hleft⟩, le_rfl⟩
    · obtain ⟨t, ht, hdown', hlt⟩ := toStop_main hdown hleft
      obtain rfl := Option.some.inj (ht.symm.trans hs)
      rcases Nat.eq_zero_or_pos t.main.toStop with hzero | hpos
      · exact Or.inl hzero
      · exact Or.inr ⟨⟨hdown', hpos⟩, hlt.le⟩
    · obtain ⟨hrun, hmain, -⟩ := threadStep_flags hs
      exact Or.inr ⟨⟨hrun.trans hdown, hmain ▸ hleft⟩, by rw [hmain]⟩
  · rintro s a s' ⟨hdown, hleft⟩ rfl hs
    obtain ⟨t, ht, -, hlt⟩ := toStop_main hdown hleft
    obtain rfl := Option.some.inj (ht.symm.trans hs)
    exact Or.inr hlt

lemma leadsTo_return (hfair : x.Fair fun a => ∃ e, a = .thread e) :
    x.LeadsTo (fun s => s.main = .join ∧ s.server.running = false ∧ 0 < s.thread.toReturn)
      (fun s => s.main = .join ∧ s.thread = .returned) := by
  have hzero : ∀ pc : ThreadPc, pc.toReturn = 0 → pc = .returned := by
    intro pc hpc
    cases pc <;> simp_all [ThreadPc.toReturn]
  refine Execution.leadsTo_of_rank hfair (fun s => s.thread.toReturn) ?_ ?_ ?_
  · rintro s ⟨hjoin, hflag, hleft⟩
    obtain ⟨s', hs'⟩ := Option.isSome_iff_exists.mp (threadStep_enabled hflag hleft)
    exact ⟨.thread {}, s', ⟨_, rfl⟩, by simp [lifeStep, hjoin, hs']⟩
  · rintro s a s' ⟨hjoin, hflag, hleft⟩ hs
    rcases lifeStep_cases hs with ⟨sig, rfl⟩ | ⟨-, hs⟩ | ⟨e, -, -, hs⟩
    · right
      obtain ⟨hmain, hthread, hserver⟩ := daemonSignalHandler_same s sig
      rw [hmain, hthread, hserver]
      exact ⟨⟨hjoin, hflag, hleft⟩, le_rfl⟩
    · -- the join waits
      simp only [loopStep, hjoin] at hs
      split at hs
      · next hreturned => simp [hreturned, ThreadPc.toReturn] at hleft
      · exact absurd hs (by simp)
    · obtain ⟨hflag', hmain, hlt⟩ := toReturn_thread hflag hs
      rcases Nat.eq_zero_or_pos s'.thread.toReturn with hz | hpos
      · exact Or.inl ⟨hmain.trans hjoin, hzero _ hz⟩
      · exact Or.inr ⟨⟨hmain.trans hjoin, hflag', hpos⟩, hlt.le⟩
  · rintro s a s' ⟨hjoin, hflag, hleft⟩ ⟨e, rfl⟩ hs
    rcases lifeStep_cases hs with ⟨sig, rfl⟩ | ⟨hmain, -⟩ | ⟨e', -, -, hs⟩
    · simp only [lifeStep, hjoin] at hs
      exact Or.inr (toReturn_thread hflag (by simpa using hs)).2.2
    · exact absurd hmain (by simp)
    · exact Or.inr (toReturn_thread hflag hs).2.2

lemma leadsTo_exit (hfair : x.Fair (· = .main)) :
    x.LeadsTo (fun s => s.thread = .returned ∧ s.main.toStop = 0 ∧ s.main ≠ .exited)
      (fun s => s.main = .exited) := by
  refine Execution.leadsTo_of_rank hfair (fun s => s.main.toExit) ?_ ?_ ?_
  · rintro s ⟨hreturned, hstop, hleft⟩
    obtain ⟨s', hs', -⟩ := toExit_main hreturned hstop hleft
    exact ⟨.main, s', rfl, hs'⟩
  · rintro s a s' ⟨hreturned, hstop, hleft⟩ hs
    rcases lifeStep_cases hs with ⟨sig, rfl⟩ | ⟨-, hs⟩ | ⟨e, -, -, hs⟩
    · right
      obtain ⟨hmain, hthread, -⟩ := daemonSignalHandler_same s sig
      rw [hmain, hthread]
      exact ⟨⟨hreturned, hstop, hleft⟩, le_rfl⟩
    · obtain ⟨t, ht, hreturned', hstop', hlt⟩ := toExit_main hreturned hstop hleft
      obtain rfl := Option.some.inj (ht.symm.trans hs)
      by_cases hend : t.main = .exited
      · exact Or.inl hend
      · exact Or.inr ⟨⟨hreturned', hstop', hend⟩, hlt.le⟩
    · simp [threadStep, hreturned] at hs
  · rintro s a s' ⟨hreturned, hstop, hleft⟩ rfl hs
    obtain ⟨t, ht, -, -, hlt⟩ := toExit_main hreturned hstop hleft
    obtain rfl := Option.some.inj (ht.symm.trans hs)
    exact Or.inr hlt

/-- **SIGTERM ends the daemon.**  In every execution from start-up that passes over neither thread
forever, a SIGTERM or SIGINT that is delivered is followed by the exit of the process. -/
theorem termination_signal_ends_daemon (h0 : lifeInit (x.state 0)) (hmain : x.Fair (· = .main))
    (hthread : x.Fair fun a => ∃ e, a = .thread e) {n : ℕ}
    (hsig : x.label n = some (.signal .term) ∨ x.label n = some (.signal .int)) :
    ∃ m, n ≤ m ∧ (x.state m).main = .exited := by
  have hdown : (x.state (n + 1)).daemonRunning = false := by
    rcases hsig with hsig | hsig
    all_goals
      have hs := Execution.next_of_label hsig
      simp only [lifeStep] at hs
      split_ifs at hs
      rw [← Option.some.inj hs]
      rfl
  have hinv := fun k => stopInv_of_reach (Execution.reach h0 k)
  -- the loop has been left already, or it will be
  obtain ⟨k, hk, hstop⟩ : ∃ k, n + 1 ≤ k ∧ (x.state k).main.toStop = 0 := by
    rcases Nat.eq_zero_or_pos (x.state (n + 1)).main.toStop with hz | hpos
    · exact ⟨n + 1, le_rfl, hz⟩
    · exact leadsTo_stop hmain (n + 1) ⟨hdown, hpos⟩
  -- the same for the join
  obtain ⟨j, hj, hstop', hreturned⟩ : ∃ j, k ≤ j ∧ (x.state j).main.toStop = 0 ∧
      (x.state j).thread = .returned := by
    by_cases hjoin : (x.state k).main = .join
    · rcases Nat.eq_zero_or_pos (x.state k).thread.toReturn with hz | hpos
      · refine ⟨k, le_rfl, hstop, ?_⟩
        cases hpc : (x.state k).thread <;> simp_all [ThreadPc.toReturn]
      · obtain ⟨j, hj, hjoin', hreturned⟩ :=
          leadsTo_return hthread k ⟨hjoin, (hinv k).flag hjoin, hpos⟩
        exact ⟨j, hj, by rw [hjoin']; rfl, hreturned⟩
    · exact ⟨k, le_rfl, hstop, (hinv k).joined hstop hjoin⟩
  by_cases hend : (x.state j).main = .exited
  · exact ⟨j, by omega, hend⟩
  · obtain ⟨m, hm, hexit⟩ := leadsTo_exit hmain j ⟨hreturned, hstop', hend⟩
    exact ⟨m, by omega, hexit⟩

end Stages

/-- A SIGTERM in the middle of a pass: the loop is left at its next test, the server thread sees the
flag cleared, and the process is gone after six more steps. -/
def termRun : List LifeAct :=
  [.signal .term, .main, .main, .thread {}, .main, .main, .main]

lemma termRun_exits : ∃ s', run lifeStep lifeBoot termRun = some s' ∧ s'.main = .exited := by
  refine ⟨(run lifeStep lifeBoot termRun).get ?_, ?_, ?_⟩
  · decide +kernel
  · rw [Option.some_get]
  · decide +kernel

/-- Nothing moves behind the exit. -/
lemma not_enabled_exited {s : Life} (h : s.main = .exited) (A : LifeAct → Prop) :
    ¬ Enabled lifeStep A s := by
  rintro ⟨a, s', -, hs⟩
  cases a <;> simp [lifeStep, loopStep, h] at hs

/-- A daemon that gets SIGTERM right after its start exits. -/
theorem termination_signal_ends_daemon_boot :
    ∃ x : Execution lifeStep, lifeInit (x.state 0) ∧ x.label 0 = some (.signal .term) ∧
      ∃ m, 0 ≤ m ∧ (x.state m).main = .exited := by
  obtain ⟨s', hrun, hexit⟩ := termRun_exits
  have hinit : lifeInit ((Execution.ofRun hrun).state 0) := ⟨rfl, rfl, 3, 0, rfl⟩
  exact ⟨.ofRun hrun, hinit, rfl, termination_signal_ends_daemon hinit
    (Execution.fair_ofRun hrun (not_enabled_exited hexit _))
    (Execution.fair_ofRun hrun (not_enabled_exited hexit _)) (Or.inl rfl)⟩

end Storage

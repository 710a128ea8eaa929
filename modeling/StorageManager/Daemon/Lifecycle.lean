import StorageManager.Ipc.Server

/-!
# The run of the daemon

After start-up the daemon is three parties: the main loop of `daemon_main.c`, the thread in
`ipc_server_run`, and the signal handler, which may run at any moment.  They share two flags.
`daemon_running` keeps the main loop going and is cleared by SIGTERM and SIGINT;
`server_state.running` keeps the thread going and is cleared by the main loop once it has left its
own, and by a SHUTDOWN request.

A SHUTDOWN request clears only the second flag.  `served_while_running` shows that nothing else can
leave the daemon running without a server; `serve_shutdown_strands` and `stranded_run` show that a
SHUTDOWN request does, and that the daemon then stays so until a termination signal comes.

The thread serves its clients one at a time here; `serve_uninterrupted` ties that to the pass of
`Ipc/Server.lean`.
-/

namespace Storage

open CString Bytes Machine

/-- The signals `daemon_setup_signals` installs the handler for. -/
inductive Signal
  | term
  | int
  | hup
  | chld
  | usr1
  deriving DecidableEq, Repr

/-- Where the main thread stands: the test of the loop, its three parts, and what follows it. -/
inductive LoopPc
  | test
  | reload
  | work
  | stop
  | join
  | shutdown
  | cleanup
  | exited
  deriving DecidableEq, Repr

/-- Where the thread in `ipc_server_run` stands; `left` are the slots the pass has yet to come
to. -/
inductive ThreadPc
  | top
  | selected (ready : List ℤ)
  | serving (ready : List ℤ) (left : List (Fin ipcMaxClients))
  | returned

/-- The flags of the daemon, the places of its main thread and of the thread of the server, and the
server. -/
structure Life where
  daemonRunning : Bool
  reloadConfig : Bool
  loopCount : ℕ
  main : LoopPc
  server : IpcServer
  thread : ThreadPc

/-- What the thread gets from the kernel: the result of `select`, of `accept` and of a `read`, and
the time. -/
structure ThreadEnv where
  ready : List ℤ := []
  accepted : Option ℤ := none
  req : Option Request := none
  now : ℤ := 0

/-- A signal is delivered, or one of the two threads takes its next step. -/
inductive LifeAct
  | signal (sig : Signal)
  | main
  | thread (e : ThreadEnv)

/-- `daemon_signal_handler`, as far as the flags go. -/
def daemonSignalHandler (s : Life) : Signal → Life
  | .term | .int => { s with daemonRunning := false }
  | .hup => { s with reloadConfig := true }
  | .chld | .usr1 => s

/-- `daemon_reload_config`, which reads no file. -/
def daemonReloadConfig (s : Life) : Life := { s with reloadConfig := false }

/-- The next part of `main`.  The workers have a model of their own in `Daemon/WorkerSteps.lean`;
here an iteration only counts. -/
def loopStep (s : Life) : Option Life :=
  match s.main with
  | .test => some { s with main := if s.daemonRunning then .reload else .stop }
  | .reload => some { (if s.reloadConfig then daemonReloadConfig s else s) with main := .work }
  | .work => some { s with loopCount := s.loopCount + 1, main := .test }
  | .stop => some { s with server := { s.server with running := false }, main := .join }
  | .join =>
      match s.thread with
      | .returned => some { s with main := .shutdown }
      | _ => none
  | .shutdown => some { s with main := .cleanup }
  | .cleanup => some { s with server := ipcServerCleanup s.server, main := .exited }
  | .exited => none

/-- The next part of `ipc_server_run`. -/
def threadStep (s : Life) (e : ThreadEnv) : Option Life :=
  match s.thread with
  | .top =>
      if s.server.running = false then some { s with thread := .returned }
      else if e.ready ⊆ s.server.readFds then
        some { s with thread := if e.ready = [] then .top else .selected e.ready }
      else none
  | .selected ready =>
      if s.server.serverFd ∈ ready then
        if FreshFd s.server e.accepted then
          some { s with
            server := (ipcAcceptClient s.server e.accepted e.now).1
            thread := .serving ready (List.finRange ipcMaxClients) }
        else none
      else some { s with thread := .serving ready (List.finRange ipcMaxClients) }
  | .serving _ [] => some { s with thread := .top }
  | .serving ready (i :: left) =>
      some { s with
        server := serveSlot s.server ready e.req e.now i
        thread := .serving ready left }
  | .returned => none

/-- A signal or a step of a thread, as long as the process has not exited. -/
def lifeStep (s : Life) : LifeAct → Option Life
  | .signal sig => if s.main = .exited then none else some (daemonSignalHandler s sig)
  | .main => loopStep s
  | .thread e => if s.main = .exited then none else threadStep s e

/-- The thread has just been created.  A signal may have come before it. -/
def lifeInit (s : Life) : Prop :=
  s.main = .test ∧ s.thread = .top ∧
    ∃ serverFd startedAt, s.server = ipcServerInit serverFd startedAt

/-- The daemon is not running without a server: when the server has stopped, the daemon is shutting
down. -/
def Reachable (s : Life) : Prop := s.server.running = false → s.daemonRunning = false

/-! ## What a request does to the server's flag -/

@[simp] lemma IpcServer.close_running (s : IpcServer) (fd : ℤ) :
    (s.close fd).running = s.running := by
  unfold IpcServer.close
  split <;> rfl

@[simp] lemma IpcServer.release_running (s : IpcServer) (i : Fin ipcMaxClients) :
    (s.release i).running = s.running := s.close_running _

lemma ipcAcceptClient_running (s : IpcServer) (r : Option ℤ) (now : ℤ) :
    (ipcAcceptClient s r now).1.running = s.running := by
  unfold ipcAcceptClient
  split
  · rfl
  · simp only
    split
    · exact IpcServer.close_running _ _
    · rfl

/-- The request in slot `i` will be served, and it is SHUTDOWN. -/
def ServesShutdown (s : IpcServer) (ready : List ℤ) (req : Option Request)
    (i : Fin ipcMaxClients) : Prop :=
  ((s.clients i).active = true ∧ (s.clients i).fd ∈ ready) ∧
    ∃ r ∈ req, CommandType.ofCode r.command = some .shutdown

instance (s : IpcServer) (ready : List ℤ) (req : Option Request) (i : Fin ipcMaxClients) :
    Decidable (ServesShutdown s ready req i) :=
  haveI : Decidable (∃ r ∈ req, CommandType.ofCode r.command = some .shutdown) :=
    decidable_of_iff ((req.any fun r => CommandType.ofCode r.command = some .shutdown) = true)
      (by cases req <;> simp)
  inferInstanceAs (Decidable (_ ∧ _))

lemma serveSlot_running_shutdown {s : IpcServer} {ready : List ℤ} {req : Option Request} {now : ℤ}
    {i : Fin ipcMaxClients} (h : ServesShutdown s ready req i) :
    (serveSlot s ready req now i).running = false := by
  obtain ⟨hserved, r, hr, hcmd⟩ := h
  obtain rfl := Option.mem_def.mp hr
  simp [serveSlot, hserved, ipcHandleRequest_running, hcmd]

lemma serveSlot_running_of_not {s : IpcServer} {ready : List ℤ} {req : Option Request} {now : ℤ}
    {i : Fin ipcMaxClients} (h : ¬ ServesShutdown s ready req i) :
    (serveSlot s ready req now i).running = s.running := by
  unfold serveSlot
  split_ifs with hserved
  · cases req with
    | none => exact s.release_running i
    | some r =>
        have hcmd : CommandType.ofCode r.command ≠ some .shutdown := fun hr =>
          h ⟨hserved, r, rfl, hr⟩
        simp [ipcHandleRequest_running, hcmd]
  · rfl

/-! ## The pass, slot by slot -/

/-- A pass that nothing interrupts is the pass of `ipc_server_run`, with what is read from each
client. -/
theorem serve_uninterrupted {s : Life} {ready : List ℤ} (reqs : Fin ipcMaxClients → Option Request)
    (now : ℤ) (hmain : s.main ≠ .exited) (left : List (Fin ipcMaxClients))
    (hpc : s.thread = .serving ready left) :
    run lifeStep s (left.map fun i => .thread { req := reqs i, now := now })
      = some { s with
          server := left.foldl (fun srv i => serveSlot srv ready (reqs i) now i) s.server
          thread := .serving ready [] } := by
  induction left generalizing s with
  | nil => simp [← hpc]
  | cons i left ih =>
      have hstep : lifeStep s (.thread { req := reqs i, now := now })
          = some { s with
              server := serveSlot s.server ready (reqs i) now i
              thread := .serving ready left } := by
        simp [lifeStep, threadStep, hmain, hpc]
      rw [List.map_cons, run_cons, hstep, Option.bind_some]
      exact ih (s := { s with
        server := serveSlot s.server ready (reqs i) now i
        thread := .serving ready left }) hmain rfl

/-! ## What each party does to the flags -/

/-- The main thread has seen `daemon_running` at 0. -/
def LoopPc.left : LoopPc → Bool
  | .test | .reload | .work => false
  | _ => true

/-- Inside the loop the main thread touches neither flag, and leaves only on `daemon_running` at
0. -/
lemma loopStep_inside {s s' : Life} (hin : s.main.left = false) (hs : loopStep s = some s') :
    s'.daemonRunning = s.daemonRunning ∧ s'.server = s.server ∧
      (s'.main.left = true → s.daemonRunning = false) := by
  cases hmain : s.main with
  | test =>
      simp only [loopStep, hmain, Option.some.injEq] at hs
      subst hs
      refine ⟨rfl, rfl, fun hleft => ?_⟩
      cases hrun : s.daemonRunning with
      | false => rfl
      | true => simp [hrun, LoopPc.left] at hleft
  | reload =>
      simp only [loopStep, hmain, Option.some.injEq] at hs
      subst hs
      split_ifs
      · exact ⟨rfl, rfl, fun hleft => absurd hleft Bool.false_ne_true⟩
      · exact ⟨rfl, rfl, fun hleft => absurd hleft Bool.false_ne_true⟩
  | work =>
      simp only [loopStep, hmain, Option.some.injEq] at hs
      subst hs
      exact ⟨rfl, rfl, fun hleft => absurd hleft Bool.false_ne_true⟩
  | _ =>
      rw [hmain] at hin
      exact absurd hin.symm Bool.false_ne_true

/-- The main thread never sets `daemon_running`. -/
lemma loopStep_daemonRunning {s s' : Life} (hs : loopStep s = some s') :
    s'.daemonRunning = s.daemonRunning := by
  cases hmain : s.main with
  | reload =>
      simp only [loopStep, hmain, Option.some.injEq] at hs
      subst hs
      split_ifs
      · rfl
      · rfl
  | join =>
      simp only [loopStep, hmain] at hs
      split at hs
      · obtain rfl := Option.some.inj hs
        rfl
      · exact absurd hs (by simp)
  | exited => simp [loopStep, hmain] at hs
  | _ =>
      simp only [loopStep, hmain, Option.some.injEq] at hs
      subst hs
      rfl

/-- The thread leaves the main thread's data alone, and clears its own flag only on a SHUTDOWN
request. -/
lemma threadStep_flags {s s' : Life} {e : ThreadEnv} (hs : threadStep s e = some s') :
    s'.daemonRunning = s.daemonRunning ∧ s'.main = s.main ∧
      (s'.server.running = s.server.running ∨ ∃ ready i left,
        s.thread = .serving ready (i :: left) ∧ ServesShutdown s.server ready e.req i ∧
          s'.server.running = false) := by
  cases hpc : s.thread with
  | top =>
      simp only [threadStep, hpc] at hs
      split_ifs at hs
      all_goals
        obtain rfl := Option.some.inj hs
        exact ⟨rfl, rfl, Or.inl rfl⟩
  | selected ready =>
      simp only [threadStep, hpc] at hs
      split_ifs at hs
      · obtain rfl := Option.some.inj hs
        exact ⟨rfl, rfl, Or.inl (ipcAcceptClient_running _ _ _)⟩
      · obtain rfl := Option.some.inj hs
        exact ⟨rfl, rfl, Or.inl rfl⟩
  | serving ready left =>
      cases left with
      | nil =>
          simp only [threadStep, hpc, Option.some.injEq] at hs
          subst hs
          exact ⟨rfl, rfl, Or.inl rfl⟩
      | cons i left =>
          simp only [threadStep, hpc, Option.some.injEq] at hs
          subst hs
          refine ⟨rfl, rfl, ?_⟩
          by_cases hshutdown : ServesShutdown s.server ready e.req i
          · exact Or.inr
              ⟨ready, i, left, rfl, hshutdown, serveSlot_running_shutdown hshutdown⟩
          · exact Or.inl (serveSlot_running_of_not hshutdown)
  | returned => simp [threadStep, hpc] at hs

/-! ## Running without a server -/

/-- A SHUTDOWN request is only served once `daemon_running` is 0. -/
def NoRemoteShutdown (s : Life) : LifeAct → Prop
  | .thread e =>
      match s.thread with
      | .serving ready (i :: _) =>
          s.daemonRunning = true → ¬ ServesShutdown s.server ready e.req i
      | _ => True
  | _ => True

instance (s : Life) (a : LifeAct) : Decidable (NoRemoteShutdown s a) := by
  unfold NoRemoteShutdown
  split
  · split <;> infer_instance
  · infer_instance

/-- The invariant: what the property says, and the main loop is only left with the flag down. -/
structure LifeInv (s : Life) : Prop where
  reachable : Reachable s
  left : s.main.left = true → s.daemonRunning = false

lemma lifeInv_init {s : Life} (h : lifeInit s) : LifeInv s := by
  obtain ⟨hmain, -, fd, t, hserver⟩ := h
  refine ⟨fun hstop => ?_, fun hleft => ?_⟩
  · rw [hserver] at hstop
    exact absurd hstop (by simp [ipcServerInit])
  · rw [hmain] at hleft
    exact absurd hleft Bool.false_ne_true

lemma LifeInv.signal {s : Life} (h : LifeInv s) (sig : Signal) :
    LifeInv (daemonSignalHandler s sig) := by
  cases sig with
  | term => exact ⟨fun _ => rfl, fun _ => rfl⟩
  | int => exact ⟨fun _ => rfl, fun _ => rfl⟩
  | hup => exact ⟨h.reachable, h.left⟩
  | chld => exact h
  | usr1 => exact h

lemma LifeInv.main {s s' : Life} (h : LifeInv s) (hs : loopStep s = some s') : LifeInv s' := by
  have hkeep := loopStep_daemonRunning hs
  cases hleft : s.main.left with
  | false =>
      obtain ⟨-, hserver, hleave⟩ := loopStep_inside hleft hs
      refine ⟨fun hstop => ?_, fun hleft' => hkeep.trans (hleave hleft')⟩
      rw [hserver] at hstop
      exact hkeep.trans (h.reachable hstop)
  | true =>
      -- the loop has been left, so the flag is 0 and stays so
      have hstopped : s'.daemonRunning = false := hkeep.trans (h.left hleft)
      exact ⟨fun _ => hstopped, fun _ => hstopped⟩

lemma LifeInv.thread {s s' : Life} {e : ThreadEnv} (h : LifeInv s)
    (hok : NoRemoteShutdown s (.thread e)) (hs : threadStep s e = some s') : LifeInv s' := by
  obtain ⟨hrun, hmain, hflag⟩ := threadStep_flags hs
  refine ⟨fun hstop => ?_, fun hleft => hrun.trans (h.left (hmain ▸ hleft))⟩
  rw [hrun]
  rcases hflag with hflag | ⟨ready, i, left, hpc, hshutdown, -⟩
  · exact h.reachable (hflag.symm.trans hstop)
  · simp only [NoRemoteShutdown, hpc] at hok
    exact Bool.eq_false_iff.mpr fun hrunning => hok hrunning hshutdown

lemma lifeInv_step {s s' : Life} {a : LifeAct} (h : LifeInv s) (hok : NoRemoteShutdown s a)
    (hs : lifeStep s a = some s') : LifeInv s' := by
  cases a with
  | signal sig =>
      simp only [lifeStep] at hs
      split_ifs at hs
      obtain rfl := Option.some.inj hs
      exact h.signal sig
  | main => exact h.main hs
  | thread e =>
      simp only [lifeStep] at hs
      split_ifs at hs
      exact h.thread hok hs

/-- **The daemon does not run without its server**, in every run in which no SHUTDOWN request is
served before a termination signal has come. -/
theorem served_while_running {s : Life} (h : Reach lifeInit lifeStep NoRemoteShutdown s) :
    Reachable s := by
  have hinv : LifeInv s :=
    h.invariant (fun _ => lifeInv_init) fun _ _ _ hI hok hs => lifeInv_step hI hok hs
  exact hinv.reachable

/-- The daemon as `main` starts it. -/
def lifeBoot : Life := ⟨true, false, 0, .test, ipcServerInit 3 0, .top⟩

/-- An orderly end: SIGTERM, the main loop leaves and stops the server. -/
def orderlyStop : List LifeAct := [.main, .signal .term, .main, .main, .main, .main]

/-- After an orderly stop the server does not serve, and the daemon does not run either. -/
theorem served_while_running_stop :
    ∃ s, s.server.running = false ∧ s.daemonRunning = false ∧
      Reach lifeInit lifeStep NoRemoteShutdown s ∧ Reachable s := by
  have hrun : (run lifeStep lifeBoot orderlyStop).map (fun s => (s.server.running, s.daemonRunning))
      = some (false, false) := by decide +kernel
  obtain ⟨s, hs, heq⟩ := Option.map_eq_some_iff.mp hrun
  rw [Prod.mk.injEq] at heq
  have hreach : Reach lifeInit lifeStep NoRemoteShutdown s :=
    (Reach.start ⟨rfl, rfl, 3, 0, rfl⟩).of_run (by decide +kernel) hs
  exact ⟨s, heq.1, heq.2, hreach, served_while_running hreach⟩

/-- A client connects in one round and sends SHUTDOWN in the next. -/
def remoteShutdown : List LifeAct :=
  [.thread { ready := [3] }, .thread { accepted := some 7 }]
    ++ (List.finRange ipcMaxClients).map (fun _ => .thread {})
    ++ [.thread {}, .thread { ready := [7] }, .thread {},
      .thread { req := some (sendCommandRequest .shutdown none 0) }]

/-- The server stops, the daemon goes on. -/
theorem shutdown_leaves_daemon_running :
    ¬ ∀ s, Reach lifeInit lifeStep anyStep s → Reachable s := by
  intro hclaim
  have hrun : (run lifeStep lifeBoot remoteShutdown).map
      (fun s => (s.server.running, s.daemonRunning)) = some (false, true) := by decide +kernel
  obtain ⟨s, hs, heq⟩ := Option.map_eq_some_iff.mp hrun
  rw [Prod.mk.injEq] at heq
  have hreach : Reach lifeInit lifeStep anyStep s :=
    (Reach.start ⟨rfl, rfl, 3, 0, rfl⟩).of_run_any hs
  have hstopped := hclaim s hreach heq.1
  rw [heq.2] at hstopped
  exact absurd hstopped (by decide)

/-! ## Until a signal comes -/

/-- The daemon goes round its loop with nobody serving the socket. -/
structure Stranded (s : Life) : Prop where
  running : s.daemonRunning = true
  stopped : s.server.running = false
  inside : s.main.left = false

/-- Serving a SHUTDOWN request while the daemon runs is what strands it. -/
theorem serve_shutdown_strands {s s' : Life} {e : ThreadEnv} {ready : List ℤ}
    {i : Fin ipcMaxClients} {left : List (Fin ipcMaxClients)}
    (h : Reach lifeInit lifeStep NoRemoteShutdown s) (hrun : s.daemonRunning = true)
    (hpc : s.thread = .serving ready (i :: left))
    (hshutdown : ServesShutdown s.server ready e.req i)
    (hs : lifeStep s (.thread e) = some s') : Stranded s' := by
  have hinv : LifeInv s :=
    h.invariant (fun _ => lifeInv_init) fun _ _ _ hI hok hs => lifeInv_step hI hok hs
  have hinside : s.main.left = false := by
    refine Bool.eq_false_iff.mpr fun hleft => ?_
    rw [hinv.left hleft] at hrun
    exact Bool.false_ne_true hrun
  simp only [lifeStep, threadStep, hpc] at hs
  split_ifs at hs
  obtain rfl := Option.some.inj hs
  exact ⟨hrun, serveSlot_running_shutdown hshutdown, hinside⟩

/-- No client command, no other signal and no work of its own brings a stranded daemon back or to
an end. -/
theorem stranded_run {s : Life}
    (h : Reach Stranded lifeStep (fun _ a => a ≠ .signal .term ∧ a ≠ .signal .int) s) :
    Stranded s := by
  refine h.invariant (fun _ h => h) fun s a s' h hok hs => ?_
  cases a with
  | signal sig =>
      simp only [lifeStep] at hs
      split_ifs at hs
      obtain rfl := Option.some.inj hs
      cases sig with
      | term => exact absurd rfl hok.1
      | int => exact absurd rfl hok.2
      | hup => exact ⟨h.running, h.stopped, h.inside⟩
      | chld => exact h
      | usr1 => exact h
  | main =>
      obtain ⟨hrun, hserver, hleave⟩ := loopStep_inside h.inside hs
      refine ⟨hrun.trans h.running, by rw [hserver]; exact h.stopped, ?_⟩
      refine Bool.eq_false_iff.mpr fun hleft => ?_
      have hstopped := hleave hleft
      rw [h.running] at hstopped
      exact Bool.false_ne_true hstopped.symm
  | thread e =>
      simp only [lifeStep] at hs
      split_ifs at hs
      obtain ⟨hrun, hmain, hflag⟩ := threadStep_flags hs
      refine ⟨hrun.trans h.running, ?_, by rw [hmain]; exact h.inside⟩
      rcases hflag with hflag | ⟨-, -, -, -, -, hflag⟩
      · exact hflag.trans h.stopped
      · exact hflag

end Storage

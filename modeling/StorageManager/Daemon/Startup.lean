import StorageManager.Daemon.PidFile
import StorageManager.Lib.Machine

/-!
# Two daemons on one machine

`main` of `daemon_main.c` claims four names every daemon shares: the socket at
`IPC_SOCKET_PATH`, the shared memory object, the semaphore and a pidfile.  It claims the first
three in `ipc_server_init`, *before* `daemon_create_pidfile` asks whether another daemon is
running, and gives them up in `ipc_server_cleanup` whether or not they are still its own.

The model runs two processes through the steps of `main`, one system call at a time and in any
order, each with its own options.  A process has a stake in what it made (`Stake`), and the run
records every step of the *other* process that takes one away.

* `refused_start_removes_names` — a start that finds a daemon running ends with the running
  daemon's socket and shared memory unlinked.
* `start_harms_running` — a start next to a daemon in its main loop costs that daemon its socket
  as soon as `unlink` is reached, refused or not.
* `running_daemon_unharmed` — when no daemon starts before the other has exited, no daemon is
  ever harmed.
-/

namespace Storage

open CString Machine

/-- The two processes. -/
inductive Side
  | a
  | b
  deriving DecidableEq, Repr

/-- The other process. -/
def Side.other : Side → Side
  | .a => .b
  | .b => .a

@[simp] lemma Side.other_other (x : Side) : x.other.other = x := by cases x <;> rfl

lemma Side.other_ne (x : Side) : x.other ≠ x := by cases x <;> decide

lemma Side.eq_other_of_ne {x y : Side} (h : x ≠ y) : x = y.other := by
  cases x <;> cases y <;> first | rfl | exact absurd rfl h

/-- `IPC_SOCKET_PATH`, `SHM_NAME` and `SEM_NAME`. -/
inductive SharedName
  | socket
  | shm
  | sem
  deriving DecidableEq, Repr

/-- What `main` gets from its command line and its surroundings: `-f`, `-p`, the file
`PID_FILE_LOCAL` denotes in its working directory, and the pid it ends up with. -/
structure StartOpts where
  foreground : Bool
  pidfile : Option CStr
  localPidfile : CStr
  pid : ℤ

/-- Where `main` stands.  `initFail` is the `unlink` on the error paths of `ipc_server_init`;
`cleanSock`, `cleanShm` and `cleanSem` are `ipc_server_cleanup`; `shutdownPid` is the
`daemon_remove_pidfile (NULL)` of `daemon_shutdown`. -/
inductive MainPc
  | socket
  | unlink
  | bind
  | listen
  | shmOpen
  | shmMap
  | shmWrite
  | semOpen
  | monitorInit
  | monitorStart
  | daemonInit
  | pidCheck
  | pidOpen
  | pidWrite (file : CStr) (ino : ℕ)
  | signals
  | thread
  | loop
  | shutdownPid
  | removePid
  | cleanSock
  | cleanShm
  | cleanSem
  | initFail
  | exited
  deriving DecidableEq, Repr

/-- The machine: what the shared names denote, which process last wrote `started_at` in each
shared memory object, the pidfiles, the pids `kill (.., 0)` finds, and for each process where it
stands, which objects it bound or opened, and which pidfile it wrote. -/
structure Host where
  opts : Side → StartOpts
  names : SharedName → Option ℕ
  fresh : ℕ
  startedBy : ℕ → Option Side
  fs : PidFs
  alive : ℤ → Bool
  pc : Side → MainPc
  held : Side → SharedName → Option ℕ
  wrote : Side → Option (CStr × ℕ)

namespace Host

/-- `x` has the object `o` under the name `n`. -/
def hold (w : Host) (x : Side) (n : SharedName) (o : ℕ) : Host :=
  { w with held := Function.update w.held x (Function.update (w.held x) n (some o)) }

/-- A new object under the name `n`, held by `x`: `bind`, or an open that creates. -/
def create (w : Host) (x : Side) (n : SharedName) : Host :=
  { w.hold x n w.fresh with
    names := Function.update w.names n (some w.fresh)
    fresh := w.fresh + 1 }

/-- `shm_open` and `sem_open` with `O_CREAT`: an existing object is opened as it is. -/
def openOrCreate (w : Host) (x : Side) (n : SharedName) : Host :=
  match w.names n with
  | some o => w.hold x n o
  | none => w.create x n

/-- `unlink`, `shm_unlink`, `sem_unlink`; `ok` is whether the call succeeds.  No caller looks. -/
def unlinkName (w : Host) (n : SharedName) (ok : Bool) : Host :=
  if ok then { w with names := Function.update w.names n none } else w

/-- The process with the pid of `x` comes or goes. -/
def setAlive (w : Host) (x : Side) (live : Bool) : Host :=
  { w with alive := Function.update w.alive (w.opts x).pid live }

/-- The process goes to this place in `main`. -/
def goto (w : Host) (x : Side) (pc : MainPc) : Host :=
  { w with pc := Function.update w.pc x pc }

end Host

/-- The next call `main` makes in process `x`: its effect, and where `main` goes from there.  `ok`
is whether the system call succeeds, and in the main loop whether `daemon_running` is still set.
`fork` in `daemon_init` leaves the work to a new process, the one with the pid of the options. -/
def mainCall (w : Host) (x : Side) (ok : Bool) : Option (Host × MainPc) :=
  match w.pc x with
  | .socket =>
      if ok then some (if (w.opts x).foreground then w.setAlive x true else w, .unlink)
      else some (w.setAlive x false, .exited)
  | .unlink => some (w.unlinkName .socket ok, .bind)
  | .bind =>
      -- `bind` fails with `EADDRINUSE` when there is a file at the path again
      if ok ∧ w.names .socket = none then some (w.create x .socket, .listen)
      else some (w, .initFail)
  | .listen => some (w, if ok then .shmOpen else .initFail)
  | .shmOpen => if ok then some (w.openOrCreate x .shm, .shmMap) else some (w, .initFail)
  | .shmMap => some (w, if ok then .shmWrite else .initFail)
  | .shmWrite =>
      match w.held x .shm with
      | none => none
      | some o => some ({ w with startedBy := Function.update w.startedBy o (some x) }, .semOpen)
  | .semOpen => some (if ok then w.openOrCreate x .sem else w, .monitorInit)
  | .monitorInit => some (w, if ok then .monitorStart else .cleanSock)
  | .monitorStart => some (w, if ok then .daemonInit else .cleanSock)
  | .daemonInit =>
      if (w.opts x).foreground then some (w, .pidCheck)
      else if ok then some (w.setAlive x true, .pidCheck)
      else some (w, .cleanSock)
  | .pidCheck =>
      some (w, if daemonIsRunning w.fs (w.opts x).localPidfile w.alive
        (pidfilePath (w.opts x).pidfile) then .cleanSock else .pidOpen)
  | .pidOpen =>
      match openPidfile w.fs (w.opts x).localPidfile (pidfilePath (w.opts x).pidfile) with
      | none => some (w, .cleanSock)
      | some (fs, file) => some ({ w with fs := fs }, .pidWrite file (fs file).ino)
  | .pidWrite file ino =>
      some ({ w with
        fs := writePidfile w.fs file ino (w.opts x).pid
        wrote := Function.update w.wrote x (some (file, ino)) }, .signals)
  | .signals => some (w, if ok then .thread else .removePid)
  | .thread => some (w, if ok then .loop else .cleanSock)
  | .loop => some (w, if ok then .loop else .shutdownPid)
  | .shutdownPid =>
      some ({ w with fs := daemonRemovePidfile w.fs (w.opts x).localPidfile none }, .removePid)
  | .removePid =>
      some ({ w with
        fs := daemonRemovePidfile w.fs (w.opts x).localPidfile (w.opts x).pidfile }, .cleanSock)
  | .cleanSock => some (w.unlinkName .socket ok, .cleanShm)
  | .cleanShm => some (w.unlinkName .shm ok, .cleanSem)
  | .cleanSem =>
      -- `status_sem` is `NULL` when `sem_open` failed
      some ((if (w.held x .sem).isSome then w.unlinkName .sem ok else w).setAlive x false, .exited)
  | .initFail => some ((w.unlinkName .socket ok).setAlive x false, .exited)
  | .exited => none

/-- One step of `main` in process `x`. -/
def mainProc (w : Host) (x : Side) (ok : Bool) : Option Host :=
  (mainCall w x ok).map fun r => r.1.goto x r.2

/-! ## Stakes -/

/-- What a running daemon has at stake: the names it bound or opened, the start time it wrote to
shared memory, and the pidfile it wrote. -/
inductive Stake
  | name (n : SharedName)
  | startedAt
  | pidfile
  deriving DecidableEq, Repr

/-- Everything a daemon has at stake. -/
def Stake.all : List Stake := [.name .socket, .name .shm, .name .sem, .startedAt, .pidfile]

/-- `x` acquired the stake and it is still in place. -/
def Host.keeps (w : Host) (x : Side) : Stake → Bool
  | .name n =>
      match w.held x n with
      | none => false
      | some o => w.names n == some o
  | .startedAt =>
      match w.held x .shm with
      | none => false
      | some o => w.startedBy o == some x
  | .pidfile =>
      match w.wrote x with
      | none => false
      | some (file, ino) => (w.fs file).content.isSome && (w.fs file).ino == ino

/-- The stakes of `x` that a step from `w` to `w'` took away. -/
def stakesLost (w w' : Host) (x : Side) : List Stake :=
  Stake.all.filter fun k => w.keeps x k && !w'.keeps x k

/-- The machine together with what each process has lost to steps of the other. -/
structure Pair where
  host : Host
  harms : Side → List Stake

/-- `y` took the machine to `w`: what that cost the other process goes on record. -/
def Pair.record (s : Pair) (y : Side) (w : Host) : Pair :=
  ⟨w, Function.update s.harms y.other (s.harms y.other ++ stakesLost s.host w y.other)⟩

/-- A step of one of the two, with what it costs the other put on record. -/
def pairStep (s : Pair) (act : Side × Bool) : Option Pair :=
  (mainProc s.host act.1 act.2).map (s.record act.1)

/-- Neither process has started.  The names may be left over from earlier daemons. -/
def pairInit (s : Pair) : Prop :=
  (∀ x, s.host.pc x = .socket) ∧ (∀ x n, s.host.held x n = none) ∧ (∀ x, s.host.wrote x = none) ∧
    (∀ n o, s.host.names n = some o → o < s.host.fresh) ∧
    (s.host.opts .a).pid ≠ (s.host.opts .b).pid ∧
    (∀ x, 0 < (s.host.opts x).pid ∧ (s.host.opts x).pid < 2 ^ 31) ∧
    (∀ x, s.host.alive (s.host.opts x).pid = false) ∧ ∀ x, s.harms x = []

/-- No daemon in its main loop has lost anything to the other process. -/
def Unharmed (s : Pair) : Prop := ∀ x, s.host.pc x = .loop → s.harms x = []

/-! ## What a step leaves alone -/

/-- `w'` agrees with `w` on where `y` stands and on what `y` has made. -/
structure Host.Spares (y : Side) (w w' : Host) : Prop where
  pc : w'.pc = w.pc
  held : w'.held y = w.held y
  wrote : w'.wrote y = w.wrote y

namespace Host.Spares

variable {y x : Side} {w w' : Host}

lemma setAlive (h : Spares y w w') (live : Bool) : Spares y w (w'.setAlive x live) :=
  ⟨h.pc, h.held, h.wrote⟩

lemma unlinkName (n : SharedName) (ok : Bool) : Spares y w (w.unlinkName n ok) := by
  cases ok <;> exact ⟨rfl, rfl, rfl⟩

lemma create (hy : y ≠ x) (n : SharedName) : Spares y w (w.create x n) :=
  ⟨rfl, Function.update_of_ne hy _ _, rfl⟩

lemma openOrCreate (hy : y ≠ x) (n : SharedName) : Spares y w (w.openOrCreate x n) := by
  unfold Host.openOrCreate
  split
  · exact ⟨rfl, Function.update_of_ne hy _ _, rfl⟩
  · exact create hy n

end Host.Spares

section Step

variable {w w' : Host} {x y : Side} {ok : Bool} {pc : MainPc}

/-- No call of `x` touches where another process stands or what it has made. -/
lemma mainCall_spares (h : mainCall w x ok = some (w', pc)) (hy : y ≠ x) : w.Spares y w' := by
  have hunlink : ∀ n, w.Spares y (w.unlinkName n ok) := fun n => .unlinkName n ok
  cases hpc : w.pc x <;> simp only [mainCall, hpc] at h <;> (repeat' split at h) <;>
    simp only [Option.some.injEq, Prod.mk.injEq, reduceCtorEq] at h <;> obtain ⟨rfl, -⟩ := h <;>
    first
    | exact ⟨rfl, rfl, rfl⟩
    | exact hunlink _
    | exact (hunlink _).setAlive _
    | exact .openOrCreate hy _
    | exact .create hy _
    | exact ⟨rfl, rfl, Function.update_of_ne hy _ _⟩

/-- No call leads back to the start. -/
lemma mainCall_started (h : mainCall w x ok = some (w', pc)) : pc ≠ .socket := by
  cases hpc : w.pc x <;> simp only [mainCall, hpc] at h <;> (repeat' split at h) <;>
    simp only [Option.some.injEq, Prod.mk.injEq, reduceCtorEq] at h <;> obtain ⟨-, rfl⟩ := h <;>
    simp

lemma mainProc_spares (h : mainProc w x ok = some w') (hy : y ≠ x) :
    w'.pc y = w.pc y ∧ w'.held y = w.held y ∧ w'.wrote y = w.wrote y := by
  obtain ⟨⟨w₁, pc⟩, hcall, rfl⟩ := Option.map_eq_some_iff.mp h
  have hspares := mainCall_spares hcall hy
  refine ⟨?_, hspares.held, hspares.wrote⟩
  simp [Host.goto, hy, hspares.pc]

lemma mainProc_started (h : mainProc w x ok = some w') : w'.pc x ≠ .socket := by
  obtain ⟨⟨w₁, pc⟩, hcall, rfl⟩ := Option.map_eq_some_iff.mp h
  simpa [Host.goto] using mainCall_started hcall

/-- A process that has exited takes no step. -/
lemma mainProc_not_exited (h : mainProc w x ok = some w') : w.pc x ≠ .exited := by
  intro hpc
  simp [mainProc, mainCall, hpc] at h

/-- When `socket` fails the process is gone and nothing else has changed. -/
lemma mainProc_no_socket (h : mainProc w x false = some w') (hpc : w.pc x = .socket) :
    w' = (w.setAlive x false).goto x .exited := by
  simpa [mainProc, mainCall, hpc] using h.symm

end Step

@[simp] lemma Pair.record_host (s : Pair) (y : Side) (w : Host) : (s.record y w).host = w := rfl

@[simp] lemma Pair.record_harms_self (s : Pair) (y : Side) (w : Host) :
    (s.record y w).harms y = s.harms y := Function.update_of_ne y.other_ne.symm _ _

@[simp] lemma Pair.record_harms_other (s : Pair) (y : Side) (w : Host) :
    (s.record y w).harms y.other = s.harms y.other ++ stakesLost s.host w y.other :=
  Function.update_self _ _ _

lemma mem_stakesLost {w w' : Host} {x : Side} {k : Stake} :
    k ∈ stakesLost w w' x ↔ w.keeps x k = true ∧ w'.keeps x k = false := by
  have hall : k ∈ Stake.all := by
    cases k with
    | name n => cases n <;> decide
    | _ => decide
  simp [stakesLost, hall]

/-- A process that has made nothing has nothing to lose. -/
lemma stakesLost_of_none {w w' : Host} {x : Side} (hheld : ∀ n, w.held x n = none)
    (hwrote : w.wrote x = none) : stakesLost w w' x = [] := by
  refine List.eq_nil_iff_forall_not_mem.mpr fun k hk => ?_
  have hkeeps := (mem_stakesLost.mp hk).1
  cases k <;> simp [Host.keeps, hheld, hwrote] at hkeeps

/-- Exiting takes nothing away from anybody. -/
lemma stakesLost_exit (w : Host) (x y : Side) :
    stakesLost w ((w.setAlive y false).goto y .exited) x = [] := by
  refine List.eq_nil_iff_forall_not_mem.mpr fun k hk => ?_
  obtain ⟨hkeeps, hlost⟩ := mem_stakesLost.mp hk
  have hsame : ((w.setAlive y false).goto y .exited).keeps x k = w.keeps x k := by cases k <;> rfl
  rw [hsame, hkeeps] at hlost
  exact absurd hlost (by decide)

/-! ## One daemon at a time -/

/-- Between `socket` and the exit. -/
def MainPc.running : MainPc → Bool
  | .socket | .exited => false
  | _ => true

/-- A daemon only gets past `socket` while the other process has not started or has exited. -/
def StartsAlone (s : Pair) (act : Side × Bool) : Prop :=
  s.host.pc act.1 = .socket → act.2 = true → (s.host.pc act.1.other).running = false

instance (s : Pair) (act : Side × Bool) : Decidable (StartsAlone s act) :=
  inferInstanceAs (Decidable (_ → _ → _))

/-- The invariant: one of the two at most is running, and no daemon that has not exited was harmed.
-/
structure AloneInv (s : Pair) : Prop where
  alone : ∀ x, (s.host.pc x).running = true → (s.host.pc x.other).running = false
  unborn : ∀ x, s.host.pc x = .socket → (∀ n, s.host.held x n = none) ∧ s.host.wrote x = none
  unharmed : ∀ x, s.host.pc x ≠ .exited → s.harms x = []

lemma aloneInv_init {s : Pair} (h : pairInit s) : AloneInv s := by
  obtain ⟨hpc, hheld, hwrote, -, -, -, -, hharms⟩ := h
  refine ⟨fun x hx => ?_, fun x _ => ⟨hheld x, hwrote x⟩, fun x _ => hharms x⟩
  rw [hpc x] at hx
  exact absurd hx (by decide)

/-- While `y.other` runs, the only thing `y` can do is fail to start. -/
lemma AloneInv.exits {s : Pair} (h : AloneInv s) {y : Side} {ok : Bool} {w : Host}
    (hok : StartsAlone s (y, ok)) (hs : mainProc s.host y ok = some w)
    (hother : (s.host.pc y.other).running = true) :
    w = (s.host.setAlive y false).goto y .exited := by
  have hy : (s.host.pc y).running = false := by simpa using h.alone y.other hother
  have hpc : s.host.pc y = .socket := by
    have hlive := mainProc_not_exited hs
    cases hpc : s.host.pc y <;> simp_all [MainPc.running]
  have hfail : ok = false := by
    by_contra hne
    have := hok hpc (by simpa using hne)
    rw [hother] at this
    exact absurd this (by decide)
  subst hfail
  exact mainProc_no_socket hs hpc

lemma aloneInv_step {s s' : Pair} {act : Side × Bool} (h : AloneInv s) (hok : StartsAlone s act)
    (hs : pairStep s act = some s') : AloneInv s' := by
  obtain ⟨y, ok⟩ := act
  obtain ⟨w, hw, rfl⟩ := Option.map_eq_some_iff.mp hs
  obtain ⟨hpc, hheld, hwrote⟩ := mainProc_spares hw y.other_ne
  have hsplit : ∀ x, x = y ∨ x = y.other := fun x =>
    (Decidable.em (x = y)).imp_right Side.eq_other_of_ne
  refine ⟨fun x hx => ?_, fun x hx => ?_, fun x hx => ?_⟩
  · rcases hsplit x with rfl | rfl
    · rw [Pair.record_host, hpc]
      by_contra hrun
      rw [Pair.record_host, h.exits hok hw (by simpa using hrun)] at hx
      simp [Host.goto, MainPc.running] at hx
    · rw [Pair.record_host, hpc] at hx
      rw [Pair.record_host, Side.other_other, h.exits hok hw hx]
      simp [Host.goto, MainPc.running]
  · rcases hsplit x with rfl | rfl
    · exact absurd hx (mainProc_started hw)
    · rw [Pair.record_host, hpc] at hx
      rw [Pair.record_host, hheld, hwrote]
      exact h.unborn _ hx
  · rcases hsplit x with rfl | rfl
    · simpa using h.unharmed x (mainProc_not_exited hw)
    · rw [Pair.record_host, hpc] at hx
      have hlost : stakesLost s.host w y.other = [] := by
        by_cases hrun : (s.host.pc y.other).running = true
        · rw [h.exits hok hw hrun]
          exact stakesLost_exit _ _ _
        · have hborn : s.host.pc y.other = .socket := by
            cases hc : s.host.pc y.other <;> simp_all [MainPc.running]
          exact stakesLost_of_none (h.unborn _ hborn).1 (h.unborn _ hborn).2
      simpa [hlost] using h.unharmed _ hx

/-- **A daemon in its main loop is unharmed**, in every state of a run in which each daemon
starts while the other is not running. -/
theorem running_daemon_unharmed {s : Pair} (h : Reach pairInit pairStep StartsAlone s) :
    Unharmed s := by
  have hinv : AloneInv s :=
    h.invariant (fun _ => aloneInv_init) fun _ _ _ hI hok hs => aloneInv_step hI hok hs
  intro x hx
  exact hinv.unharmed x (by rw [hx]; decide)

/-- Process `a` starts, serves and stops; then `b` starts. -/
def oneAfterTheOther : List (Side × Bool) :=
  List.replicate 16 (.a, true) ++ (.a, false) :: List.replicate 5 (.a, true) ++
    List.replicate 16 (.b, true)

/-- A machine with no daemon, no leftovers and default options. -/
def quietHost : Host where
  opts := fun x => ⟨true, none, pidFileLocal, match x with | .a => 100 | .b => 200⟩
  names := fun _ => none
  fresh := 0
  startedBy := fun _ => none
  fs := fun _ => ⟨none, 0, false, true, true, true, true⟩
  alive := fun _ => false
  pc := fun _ => .socket
  held := fun _ _ => none
  wrote := fun _ => none

/-- Nothing is there and nothing has been lost. -/
def quietPair : Pair := ⟨quietHost, fun _ => []⟩

lemma pairInit_quietPair : pairInit quietPair := by
  refine ⟨fun _ => rfl, fun _ _ => rfl, fun _ => rfl, fun _ _ h => ?_, by decide, ?_,
    fun _ => rfl, fun _ => rfl⟩
  · exact absurd h (by simp [quietPair, quietHost])
  · intro x
    cases x <;> decide

/-- One daemon after the other, the second of them unharmed. -/
theorem running_daemon_unharmed_restart :
    ∃ s, Reach pairInit pairStep StartsAlone s ∧ s.host.pc .a = .exited ∧ s.host.pc .b = .loop ∧
      Unharmed s := by
  have hall : AllowedRun pairStep StartsAlone quietPair oneAfterTheOther := by decide +kernel
  have hrun : (run pairStep quietPair oneAfterTheOther).map
      (fun s => (s.host.pc .a, s.host.pc .b)) = some (.exited, .loop) := by decide +kernel
  obtain ⟨s, hs, hpc⟩ := Option.map_eq_some_iff.mp hrun
  rw [Prod.mk.injEq] at hpc
  have hreach : Reach pairInit pairStep StartsAlone s :=
    (Reach.start pairInit_quietPair).of_run hall hs
  exact ⟨s, hreach, hpc.1, hpc.2, running_daemon_unharmed hreach⟩

/-! ## Starting next to a running daemon -/

/-- After `bind` and before the process unlinks the socket itself. -/
def MainPc.bound : MainPc → Bool
  | .socket | .unlink | .bind | .cleanShm | .cleanSem | .initFail | .exited => false
  | _ => true

lemma Host.keeps_create (w : Host) (x : Side) (n : SharedName) :
    (w.create x n).keeps x (.name n) = true := by
  simp [Host.keeps, Host.create, Host.hold]

lemma Host.keeps_openOrCreate (w : Host) (x : Side) {n m : SharedName} (h : m ≠ n) :
    (w.openOrCreate x n).keeps x (.name m) = w.keeps x (.name m) := by
  unfold Host.openOrCreate
  split <;> simp [Host.keeps, Host.create, Host.hold, h]

/-- A process only gets its socket from `bind`, and keeps it until it unlinks it. -/
lemma mainCall_socket {w w' : Host} {x : Side} {ok : Bool} {pc : MainPc}
    (h : mainCall w x ok = some (w', pc)) (hb : pc.bound = true) :
    w'.keeps x (.name .socket) = true ∨
      (w.pc x).bound = true ∧ w'.keeps x (.name .socket) = w.keeps x (.name .socket) := by
  cases hpc : w.pc x <;> simp only [mainCall, hpc] at h <;> (repeat' split at h) <;>
    simp only [Option.some.injEq, Prod.mk.injEq, reduceCtorEq] at h <;> obtain ⟨rfl, rfl⟩ := h <;>
    first
    | exact absurd hb (by decide)
    | exact Or.inl (Host.keeps_create _ _ _)
    | exact Or.inr ⟨rfl, rfl⟩
    | exact Or.inr ⟨rfl, Host.keeps_openOrCreate _ _ (by decide)⟩

/-- A process past its `bind` has its socket, or has lost it to the other. -/
def SocketKept (s : Pair) : Prop :=
  ∀ x, (s.host.pc x).bound = true →
    s.host.keeps x (.name .socket) = true ∨ .name .socket ∈ s.harms x

lemma socketKept_step {s s' : Pair} {act : Side × Bool} (h : SocketKept s)
    (hs : pairStep s act = some s') : SocketKept s' := by
  obtain ⟨y, ok⟩ := act
  obtain ⟨w, hw, rfl⟩ := Option.map_eq_some_iff.mp hs
  intro x hx
  rw [Pair.record_host] at hx ⊢
  by_cases hxy : x = y
  · subst hxy
    rw [Pair.record_harms_self]
    obtain ⟨⟨w₁, pc⟩, hcall, rfl⟩ := Option.map_eq_some_iff.mp hw
    have hpc : pc.bound = true := by simpa [Host.goto] using hx
    rcases mainCall_socket hcall hpc with hkeeps | ⟨hbound, hkeeps⟩
    · exact Or.inl hkeeps
    · exact (h x hbound).imp_left fun hk => hkeeps.trans hk
  · -- a step of the other process either leaves the socket or is recorded
    obtain rfl := Side.eq_other_of_ne hxy
    rw [(mainProc_spares hw y.other_ne).1] at hx
    rw [Pair.record_harms_other, List.mem_append, mem_stakesLost]
    cases hkeeps : w.keeps y.other (.name .socket) with
    | true => exact Or.inl rfl
    | false => exact Or.inr ((h _ hx).symm.imp_right fun hk => ⟨hk, rfl⟩)

lemma socketKept_of_reach {s : Pair} (h : Reach pairInit pairStep anyStep s) : SocketKept s := by
  refine h.invariant (fun s hs x hx => ?_) fun _ _ _ hI _ hs => socketKept_step hI hs
  rw [hs.1 x] at hx
  exact absurd hx (by decide)

/-- **A start next to a running daemon.**  Whatever has happened before, the second successful
call of a process that starts while the other is in its main loop leaves that daemon without its
socket. -/
theorem start_harms_running {s : Pair} (h : Reach pairInit pairStep anyStep s) {x : Side}
    (hx : s.host.pc x = .loop) (hy : s.host.pc x.other = .socket) :
    ∃ s', run pairStep s [(x.other, true), (x.other, true)] = some s' ∧ s'.host.pc x = .loop ∧
      .name .socket ∈ s'.harms x := by
  obtain ⟨w₁, hw₁, hpc₁⟩ : ∃ w, mainProc s.host x.other true = some w ∧
      w.pc x.other = .unlink := by
    simp [mainProc, mainCall, hy, Host.goto]
  obtain ⟨w₂, hw₂, hnames⟩ : ∃ w, mainProc w₁ x.other true = some w ∧ w.names .socket = none := by
    simp [mainProc, mainCall, hpc₁, Host.goto, Host.unlinkName]
  have hrun : run pairStep s [(x.other, true), (x.other, true)]
      = some ((s.record x.other w₁).record x.other w₂) := by
    simp [pairStep, hw₁, hw₂]
  have hloop : w₂.pc x = .loop := by
    rw [(mainProc_spares hw₂ x.other_ne.symm).1, (mainProc_spares hw₁ x.other_ne.symm).1, hx]
  refine ⟨_, hrun, hloop, ?_⟩
  -- the path now names nothing, so the socket is among the losses
  refine (socketKept_of_reach (h.of_run_any hrun) x (by simp [hloop, MainPc.bound])).resolve_left ?_
  simp only [Pair.record_host, Host.keeps, hnames]
  split <;> simp

/-- **A refused start.**  A process whose probe finds a daemon running removes the socket and the
shared memory name on its way out, whoever they belong to. -/
theorem refused_start_removes_names {w : Host} {y : Side} (hy : w.pc y = .pidCheck)
    (hrun : daemonIsRunning w.fs (w.opts y).localPidfile w.alive (pidfilePath (w.opts y).pidfile)
      = true) :
    ∃ w', run (fun w ok => mainProc w y ok) w [true, true, true, true] = some w' ∧
      w'.pc y = .exited ∧ w'.names .socket = none ∧ w'.names .shm = none := by
  cases hsem : (w.held y .sem).isSome <;>
    simp [mainProc, mainCall, hy, hrun, hsem, Host.goto, Host.unlinkName, Host.setAlive]

/-- `b` is started with a daemon running, finds it through the pidfile and gives up. -/
def startRefused : List (Side × Bool) :=
  List.replicate 16 (.a, true) ++ List.replicate 15 (.b, true)

/-- By then `b` has overwritten the running daemon's start time and unlinked its socket, its
shared memory and its semaphore. -/
theorem refused_start_harms_running :
    ¬ ∀ s, Reach pairInit pairStep anyStep s → Unharmed s := by
  intro hclaim
  have hrun : (run pairStep quietPair startRefused).map
      (fun s => (s.host.pc .a, s.host.pc .b, s.harms .a)) =
      some (.loop, .exited, [.name .socket, .startedAt, .name .shm, .name .sem]) := by
    decide +kernel
  obtain ⟨s, hs, hpc⟩ := Option.map_eq_some_iff.mp hrun
  simp only [Prod.mk.injEq] at hpc
  have hreach : Reach pairInit pairStep anyStep s :=
    (Reach.start pairInit_quietPair).of_run_any hs
  have hnone := hclaim s hreach .a hpc.1
  rw [hpc.2.2] at hnone
  exact absurd hnone (by decide)

end Storage

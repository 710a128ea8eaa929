import StorageManager.Ipc.Messages
import StorageManager.Lib.Machine
import StorageManager.Lib.Slots
import Mathlib.Data.Fintype.Card
import Mathlib.Data.Finset.Insert
import Mathlib.Data.List.FinRange

/-!
# The server and its client table

`ipc_server.c` keeps 64 client slots, a counter of the active ones and, behind both, the
descriptors `accept` has handed out.  Slots are filled by `ipc_accept_client`, emptied by
`ipc_disconnect_client` and by the service pass of `ipc_server_run`, and swept by
`ipc_server_cleanup`; each of the four updates flag, counter and descriptor separately.

Seen as a slot table (`IpcServer.slots`) an active slot holds its descriptor.  `FdsOk` says that
the descriptors in the table are distinct and are exactly the open ones; `release` and
`ipcAcceptClient` keep it by the rules of `Lib/Slots.lean`, and everything else is built from
those two.  `client_table_invariant` collects what follows for every run of the server.
-/

namespace Storage

open CString Bytes Machine

/-- `IPC_MAX_CLIENTS`. -/
def ipcMaxClients : ℕ := 64

/-- `client_info_t` without `pid` and `uid`, which nothing sets or reads. -/
structure Client where
  fd : ℤ
  connectedAt : ℤ
  active : Bool

/-- `ipc_server_state_t`, the start time in shared memory (`none` while `shared_status` is
`NULL`), and what the kernel knows: the client descriptors that are open, and how often `close`
was called on one that was not. -/
structure IpcServer where
  serverFd : ℤ
  running : Bool
  numClients : ℤ
  clients : Fin ipcMaxClients → Client
  startedAt : Option ℤ
  openFds : Finset ℤ
  badCloses : ℕ

/-- The state `ipc_server_init` leaves: everything zeroed, then running. -/
def ipcServerInit (serverFd startedAt : ℤ) : IpcServer where
  serverFd := serverFd
  running := true
  numClients := 0
  clients := fun _ => ⟨0, 0, false⟩
  startedAt := some startedAt
  openFds := ∅
  badCloses := 0

/-! ## Commands -/

/-- `ipc_dispatch_command`: the server, the result text and the status. -/
def ipcDispatchCommand (s : IpcServer) (cmd : UInt32) (now : ℤ) : IpcServer × CStr × StatusCode :=
  match CommandType.ofCode cmd with
  | some .status =>
      (s, fit ipcMaxPayloadSize ("Running:1 Clients:".toList ++ intText s.numClients ++
        " Uptime:".toList ++ intText (now - s.startedAt.getD 0)), .ok)
  | some .shutdown =>
      ({ s with running := false }, fit ipcMaxPayloadSize "Shutting down daemon".toList, .ok)
  | _ => (s, fit ipcMaxPayloadSize "Invalid command".toList, .invalidCommand)

/-- `ipc_handle_request`. -/
def ipcHandleRequest (s : IpcServer) (req : Request) (now : ℤ) : IpcServer × Response :=
  match ipcDispatchCommand s req.command now with
  | (s, result, .ok) =>
      let size := min (result.length + 1) ipcMaxPayloadSize
      (s, { requestId := req.requestId
            status := StatusCode.ok.code
            errorMsg := .ofBytes _ []
            dataSize := UInt32.ofNat size
            data := .ofBytes _ ((textBytes result).take size) })
  | (s, _, status) =>
      (s, { requestId := req.requestId
            status := status.code
            errorMsg := .ofBytes _ (textBytes (fit 256 "Command failed".toList))
            dataSize := 0
            data := .ofBytes _ [] })

/-- The response bears the id of its request. -/
lemma ipcHandleRequest_requestId (s : IpcServer) (req : Request) (now : ℤ) :
    (ipcHandleRequest s req now).2.requestId = req.requestId := by
  unfold ipcHandleRequest
  split <;> rfl

/-- Handling a request changes at most the running flag. -/
lemma ipcHandleRequest_server (s : IpcServer) (req : Request) (now : ℤ) :
    ∃ running, (ipcHandleRequest s req now).1 = { s with running := running } := by
  have hdispatch : ∃ running, (ipcDispatchCommand s req.command now).1
      = { s with running := running } := by
    unfold ipcDispatchCommand
    split
    · exact ⟨s.running, rfl⟩
    · exact ⟨false, rfl⟩
    · exact ⟨s.running, rfl⟩
  unfold ipcHandleRequest
  split
  · next heq => rwa [heq] at hdispatch
  · next heq => rwa [heq] at hdispatch

lemma ipcDispatchCommand_running (s : IpcServer) (cmd : UInt32) (now : ℤ) :
    (ipcDispatchCommand s cmd now).1.running
      = if CommandType.ofCode cmd = some .shutdown then false else s.running := by
  unfold ipcDispatchCommand
  split
  · next heq => simp [heq]
  · next heq => simp [heq]
  · next hother => rw [if_neg hother]

lemma ipcHandleRequest_running (s : IpcServer) (req : Request) (now : ℤ) :
    (ipcHandleRequest s req now).1.running
      = if CommandType.ofCode req.command = some .shutdown then false else s.running := by
  have hdispatch := ipcDispatchCommand_running s req.command now
  unfold ipcHandleRequest
  split
  · next heq => rwa [heq] at hdispatch
  · next heq => rwa [heq] at hdispatch

/-! ## The table -/

namespace IpcServer

/-- `close (fd)`. -/
def close (s : IpcServer) (fd : ℤ) : IpcServer :=
  if fd ∈ s.openFds then { s with openFds := s.openFds.erase fd }
  else { s with badCloses := s.badCloses + 1 }

/-- `close` on the descriptor of slot `i`, and `active = 0`. -/
def vacate (s : IpcServer) (i : Fin ipcMaxClients) : IpcServer :=
  { s.close (s.clients i).fd with
    clients := Function.update s.clients i ⟨(s.clients i).fd, (s.clients i).connectedAt, false⟩ }

/-- The same with `num_clients--`. -/
def release (s : IpcServer) (i : Fin ipcMaxClients) : IpcServer :=
  { s.vacate i with numClients := s.numClients - 1 }

/-- The first slot that is not active. -/
def freeSlot (s : IpcServer) : Option (Fin ipcMaxClients) :=
  (List.finRange ipcMaxClients).find? fun i => !(s.clients i).active

/-- The first active slot with this descriptor. -/
def slotOf (s : IpcServer) (fd : ℤ) : Option (Fin ipcMaxClients) :=
  (List.finRange ipcMaxClients).find? fun i => (s.clients i).active && (s.clients i).fd == fd

/-- A new client in slot `i`. -/
def occupy (s : IpcServer) (i : Fin ipcMaxClients) (fd now : ℤ) : IpcServer :=
  { s with
    clients := Function.update s.clients i ⟨fd, now, true⟩
    numClients := s.numClients + 1 }

/-- The descriptor an active slot holds. -/
def slots (s : IpcServer) (i : Fin ipcMaxClients) : Option ℤ :=
  if (s.clients i).active then some (s.clients i).fd else none

end IpcServer

/-- `ipc_accept_client`; `r` is the descriptor `accept` returns, `none` when it fails. -/
def ipcAcceptClient (s : IpcServer) (r : Option ℤ) (now : ℤ) : IpcServer × ℤ :=
  match r with
  | none => (s, -1)
  | some fd =>
      let s := { s with openFds := insert fd s.openFds }
      match s.freeSlot with
      | none => (s.close fd, -1)
      | some i => (s.occupy i fd now, fd)

/-- `ipc_disconnect_client`. -/
def ipcDisconnectClient (s : IpcServer) (fd : ℤ) : IpcServer :=
  match s.slotOf fd with
  | none => s
  | some i => s.release i

/-- The body of the service loop for slot `i`.  `ready` is `read_fds` after `select`; `req` is the
request `ipc_read_request` gets, `none` when it fails.  Whether the response can be written makes
no difference to the server. -/
def serveSlot (s : IpcServer) (ready : List ℤ) (req : Option Request) (now : ℤ)
    (i : Fin ipcMaxClients) : IpcServer :=
  if (s.clients i).active = true ∧ (s.clients i).fd ∈ ready then
    match req with
    | none => s.release i
    | some req => ((ipcHandleRequest s req now).1).release i
  else s

/-- The service pass of `ipc_server_run`, with what is read from each client. -/
def servePass (s : IpcServer) (ready : List ℤ) (reqs : Fin ipcMaxClients → Option Request)
    (now : ℤ) : IpcServer :=
  (List.finRange ipcMaxClients).foldl (fun s i => serveSlot s ready (reqs i) now i) s

/-- The loop of `ipc_server_cleanup`, over the slots `is`. -/
def IpcServer.sweep (s : IpcServer) (is : List (Fin ipcMaxClients)) : IpcServer :=
  is.foldl (fun s i => if (s.clients i).active then s.vacate i else s) s

/-- `ipc_server_cleanup`.  It leaves `num_clients` as it is. -/
def ipcServerCleanup (s : IpcServer) : IpcServer :=
  { ({ s with running := false } : IpcServer).sweep (List.finRange ipcMaxClients) with
    startedAt := none }

/-! ## The invariant -/

/-- The descriptors in the table are distinct, they are the open ones, and no `close` has missed. -/
structure FdsOk (s : IpcServer) : Prop where
  distinct : Slots.Distinct s.slots
  opened : (s.openFds : Set ℤ) = Slots.keys s.slots
  closes : s.badCloses = 0

/-- The invariant of the table: the descriptors are in order and `num_clients` counts the slots in
use. -/
structure ClientsOk (s : IpcServer) : Prop extends FdsOk s where
  count : s.numClients = (Slots.used s.slots).card

section Table

variable {s : IpcServer} {i : Fin ipcMaxClients}

lemma slots_of_active (h : (s.clients i).active = true) : s.slots i = some (s.clients i).fd :=
  if_pos h

lemma slots_vacate : (s.vacate i).slots = Function.update s.slots i none := by
  funext j
  by_cases hj : j = i
  · subst hj
    simp [IpcServer.slots, IpcServer.vacate]
  · simp [IpcServer.slots, IpcServer.vacate, hj]

lemma slots_release : (s.release i).slots = Function.update s.slots i none :=
  slots_vacate

lemma slots_occupy {fd now : ℤ} :
    (s.occupy i fd now).slots = Function.update s.slots i (some fd) := by
  funext j
  by_cases hj : j = i
  · subst hj
    simp [IpcServer.slots, IpcServer.occupy]
  · simp [IpcServer.slots, IpcServer.occupy, hj]

/-- Closing the descriptor of an active slot and clearing the slot belong together. -/
lemma FdsOk.vacate (h : FdsOk s) (hi : (s.clients i).active = true) : FdsOk (s.vacate i) := by
  have hslot := slots_of_active hi
  have hopen : (s.clients i).fd ∈ s.openFds := by
    rw [← Finset.mem_coe, h.opened]
    exact ⟨i, hslot⟩
  refine ⟨?_, ?_, ?_⟩
  · rw [slots_vacate]
    exact h.distinct.clear
  · rw [slots_vacate, Slots.keys_clear h.distinct hslot, ← h.opened]
    simp [IpcServer.vacate, IpcServer.close, hopen]
  · simp [IpcServer.vacate, IpcServer.close, hopen, h.closes]

lemma ClientsOk.release (h : ClientsOk s) (hi : (s.clients i).active = true) :
    ClientsOk (s.release i) := by
  have hfds := h.toFdsOk.vacate hi
  refine ⟨⟨hfds.distinct, hfds.opened, hfds.closes⟩, ?_⟩
  have hcard := Slots.card_used_clear (slots_of_active hi)
  have hcount := h.count
  rw [slots_release]
  simp only [IpcServer.release]
  omega

/-- A fresh descriptor goes to a free slot, or is closed again when there is none. -/
lemma ClientsOk.accept (h : ClientsOk s) {r : Option ℤ} {now : ℤ} (hr : ∀ fd ∈ r, fd ∉ s.openFds) :
    ClientsOk (ipcAcceptClient s r now).1 := by
  unfold ipcAcceptClient
  cases r with
  | none => exact h
  | some fd =>
      have hnew : fd ∉ s.openFds := hr fd rfl
      simp only
      split
      · -- no free slot: the descriptor has come and gone
        have hback : ({ s with openFds := insert fd s.openFds } : IpcServer).close fd = s := by
          simp [IpcServer.close, hnew]
        rwa [hback]
      · next i hfree =>
          have hi : (s.clients i).active = false := by simpa using List.find?_some hfree
          have hslot : s.slots i = none := by simp [IpcServer.slots, hi]
          have hkey : fd ∉ Slots.keys s.slots := by rwa [← h.opened, Finset.mem_coe]
          have hslots : (IpcServer.occupy { s with openFds := insert fd s.openFds } i fd now).slots
              = Function.update s.slots i (some fd) := slots_occupy
          refine ⟨⟨?_, ?_, h.closes⟩, ?_⟩
          · rw [hslots]
            exact h.distinct.fill hkey
          · rw [hslots, Slots.keys_fill hslot, ← h.opened]
            exact Finset.coe_insert _ _
          · have hcount : (IpcServer.occupy { s with openFds := insert fd s.openFds } i fd
                now).numClients = s.numClients + 1 := rfl
            rw [hslots, Slots.card_used_fill hslot, hcount, h.count]
            omega

lemma ClientsOk.disconnect (h : ClientsOk s) (fd : ℤ) : ClientsOk (ipcDisconnectClient s fd) := by
  unfold ipcDisconnectClient
  split
  · exact h
  · next i hfind =>
      have hi := List.find?_some hfind
      rw [Bool.and_eq_true] at hi
      exact h.release hi.1

lemma ClientsOk.serveSlot (h : ClientsOk s) (ready : List ℤ) (req : Option Request) (now : ℤ)
    (i : Fin ipcMaxClients) : ClientsOk (serveSlot s ready req now i) := by
  unfold Storage.serveSlot
  split_ifs with hi
  · cases req with
    | none => exact h.release hi.1
    | some req =>
        obtain ⟨running, hserver⟩ := ipcHandleRequest_server s req now
        have hstill : ClientsOk { s with running := running } :=
          ⟨⟨h.distinct, h.opened, h.closes⟩, h.count⟩
        simp only
        rw [hserver]
        exact hstill.release hi.1
  · exact h

lemma ClientsOk.servePass (h : ClientsOk s) (ready : List ℤ)
    (reqs : Fin ipcMaxClients → Option Request) (now : ℤ) :
    ClientsOk (servePass s ready reqs now) := by
  unfold Storage.servePass
  induction List.finRange ipcMaxClients generalizing s with
  | nil => exact h
  | cons i is ih => exact ih (h.serveSlot ready (reqs i) now i)

/-- A sweep over the slots `is` empties them and closes what they held. -/
lemma FdsOk.sweep (h : FdsOk s) (is : List (Fin ipcMaxClients)) :
    FdsOk (s.sweep is) ∧ ∀ j, j ∈ is ∨ s.slots j = none → (s.sweep is).slots j = none := by
  induction is generalizing s with
  | nil => exact ⟨h, fun j hj => hj.resolve_left List.not_mem_nil⟩
  | cons i is ih =>
      simp only [IpcServer.sweep, List.foldl_cons] at ih ⊢
      split_ifs with hi
      · obtain ⟨hfds, hnone⟩ := ih (h.vacate hi)
        refine ⟨hfds, fun j hj => hnone j ?_⟩
        rw [slots_vacate]
        by_cases hji : j = i
        · exact Or.inr (by rw [hji, Function.update_self])
        · rw [Function.update_of_ne hji]
          exact hj.imp_left fun hmem => (List.mem_cons.mp hmem).resolve_left hji
      · obtain ⟨hfds, hnone⟩ := ih h
        refine ⟨hfds, fun j hj => hnone j ?_⟩
        rcases hj with hj | hj
        · rcases List.mem_cons.mp hj with rfl | hj
          · exact Or.inr (if_neg hi)
          · exact Or.inl hj
        · exact Or.inr hj

lemma FdsOk.cleanup (h : FdsOk s) :
    (ipcServerCleanup s).openFds = ∅ ∧ (ipcServerCleanup s).badCloses = 0 := by
  have hstart : FdsOk { s with running := false } := ⟨h.distinct, h.opened, h.closes⟩
  obtain ⟨hfds, hnone⟩ := hstart.sweep (List.finRange ipcMaxClients)
  simp only [ipcServerCleanup]
  generalize ({ s with running := false } : IpcServer).sweep (List.finRange ipcMaxClients) = swept
    at hfds hnone
  refine ⟨?_, hfds.closes⟩
  have hkeys : Slots.keys swept.slots = ∅ := by
    refine Set.eq_empty_iff_forall_notMem.mpr ?_
    rintro fd ⟨j, hj⟩
    rw [hnone j (Or.inl (List.mem_finRange j))] at hj
    exact absurd hj (by simp)
  rw [← Finset.coe_eq_empty, hfds.opened, hkeys]

end Table

/-! ## Runs of the server -/

/-- Where the thread in `ipc_server_run` stands between two holds of `clients_mutex`. -/
inductive RunPc
  | top
  | selected (ready : List ℤ)
  | serving (ready : List ℤ)

/-- The server and the place of its thread. -/
structure IpcState where
  server : IpcServer
  pc : RunPc

/-- What can happen next: a call from another thread, or the next part of an iteration. -/
inductive IpcAct
  | accept (r : Option ℤ) (now : ℤ)
  | disconnect (fd : ℤ)
  | stop
  | select (ready : List ℤ)
  | acceptReady (r : Option ℤ) (now : ℤ)
  | serve (reqs : Fin ipcMaxClients → Option Request) (now : ℤ)

/-- `accept` returns a descriptor that is not open. -/
def FreshFd (s : IpcServer) (r : Option ℤ) : Prop :=
  ∀ fd ∈ r, fd ∉ s.openFds ∧ fd ≠ s.serverFd ∧ 0 ≤ fd

instance (s : IpcServer) (r : Option ℤ) : Decidable (FreshFd s r) :=
  inferInstanceAs (Decidable (∀ fd ∈ r, _))

/-- The set `ipc_server_run` passes to `select`. -/
def IpcServer.readFds (s : IpcServer) : List ℤ :=
  s.serverFd :: (List.finRange ipcMaxClients).filterMap s.slots

/-- One call or one part of an iteration; `accept` never returns a descriptor that is open. -/
def ipcStep (s : IpcState) : IpcAct → Option IpcState
  | .accept r now =>
      if FreshFd s.server r then some { s with server := (ipcAcceptClient s.server r now).1 }
      else none
  | .disconnect fd => some { s with server := ipcDisconnectClient s.server fd }
  | .stop => some { s with server := { s.server with running := false } }
  | .select ready =>
      match s.pc with
      | .top =>
          if s.server.running = true ∧ ready ⊆ s.server.readFds then
            some { s with pc := if ready = [] then .top else .selected ready }
          else none
      | _ => none
  | .acceptReady r now =>
      match s.pc with
      | .selected ready =>
          if s.server.serverFd ∈ ready then
            if FreshFd s.server r then
              some ⟨(ipcAcceptClient s.server r now).1, .serving ready⟩
            else none
          else some { s with pc := .serving ready }
      | _ => none
  | .serve reqs now =>
      match s.pc with
      | .serving ready => some ⟨servePass s.server ready reqs now, .top⟩
      | _ => none

/-- After `ipc_server_init`, before the first iteration. -/
def ipcInit (s : IpcState) : Prop :=
  ∃ serverFd startedAt, s = ⟨ipcServerInit serverFd startedAt, .top⟩

lemma clientsOk_init (serverFd startedAt : ℤ) : ClientsOk (ipcServerInit serverFd startedAt) := by
  have hslots : (ipcServerInit serverFd startedAt).slots = fun _ => none := rfl
  refine ⟨⟨?_, ?_, rfl⟩, ?_⟩
  · rw [hslots]
    exact fun _ _ _ h => absurd h (by simp)
  · rw [hslots]
    simp [ipcServerInit, Slots.keys]
  · rw [hslots]
    simp [ipcServerInit, Slots.used]

lemma clientsOk_step {s s' : IpcState} {a : IpcAct} (h : ClientsOk s.server)
    (hs : ipcStep s a = some s') : ClientsOk s'.server := by
  cases a with
  | accept r now =>
      simp only [ipcStep] at hs
      split_ifs at hs with hr
      rw [Option.some.injEq] at hs
      subst hs
      exact h.accept fun fd hfd => (hr fd hfd).1
  | disconnect fd =>
      rw [ipcStep, Option.some.injEq] at hs
      subst hs
      exact h.disconnect fd
  | stop =>
      rw [ipcStep, Option.some.injEq] at hs
      subst hs
      exact ⟨⟨h.distinct, h.opened, h.closes⟩, h.count⟩
  | select ready =>
      simp only [ipcStep] at hs
      split at hs
      · split_ifs at hs <;>
          · rw [Option.some.injEq] at hs
            subst hs
            exact h
      · exact absurd hs (by simp)
  | acceptReady r now =>
      simp only [ipcStep] at hs
      split at hs
      · split_ifs at hs with hserver hr
        · rw [Option.some.injEq] at hs
          subst hs
          exact h.accept fun fd hfd => (hr fd hfd).1
        · rw [Option.some.injEq] at hs
          subst hs
          exact h
      · exact absurd hs (by simp)
  | serve reqs now =>
      simp only [ipcStep] at hs
      split at hs
      · next ready hpc =>
          rw [Option.some.injEq] at hs
          subst hs
          simpa only using h.servePass ready reqs now
      · exact absurd hs (by simp)

lemma clientsOk_of_reach {s : IpcState} (h : Reach ipcInit ipcStep anyStep s) :
    ClientsOk s.server := by
  refine h.invariant ?_ fun _ _ _ hI _ hs => clientsOk_step hI hs
  rintro s ⟨serverFd, startedAt, rfl⟩
  exact clientsOk_init serverFd startedAt

/-- **The client table.**  In every state of every run the counter is the number of active slots,
no two active slots share a descriptor, the open client descriptors are those of the active slots
and no `close` has missed; and `ipc_server_cleanup` closes all of them. -/
theorem client_table_invariant {s : IpcState} (h : Reach ipcInit ipcStep anyStep s) :
    s.server.numClients
        = (Finset.univ.filter fun i => (s.server.clients i).active = true).card ∧
      0 ≤ s.server.numClients ∧ s.server.numClients ≤ ipcMaxClients ∧
      (∀ i j, (s.server.clients i).active = true → (s.server.clients j).active = true →
        (s.server.clients i).fd = (s.server.clients j).fd → i = j) ∧
      (∀ fd, fd ∈ s.server.openFds ↔
        ∃ i, (s.server.clients i).active = true ∧ (s.server.clients i).fd = fd) ∧
      s.server.badCloses = 0 ∧
      (ipcServerCleanup s.server).openFds = ∅ ∧ (ipcServerCleanup s.server).badCloses = 0 := by
  have hok := clientsOk_of_reach h
  have hslot : ∀ i fd, s.server.slots i = some fd ↔
      (s.server.clients i).active = true ∧ (s.server.clients i).fd = fd := by
    intro i fd
    cases hi : (s.server.clients i).active <;> simp [IpcServer.slots, hi]
  have hused : Slots.used s.server.slots
      = Finset.univ.filter fun i => (s.server.clients i).active = true := by
    ext i
    simp [Slots.mem_used, hslot]
  have hcount := hok.count
  have hle : (Slots.used s.server.slots).card ≤ ipcMaxClients := by
    simpa using Finset.card_le_univ (Slots.used s.server.slots)
  refine ⟨by rw [hcount, hused], by omega, by omega, ?_, ?_, hok.closes, hok.toFdsOk.cleanup⟩
  · intro i j hi hj hfd
    exact hok.distinct i j _ (slots_of_active hi) ((hslot j _).mpr ⟨hj, hfd.symm⟩)
  · intro fd
    rw [← Finset.mem_coe, hok.opened, Slots.mem_keys]
    exact exists_congr fun i => hslot i fd

/-- Two clients connect, one of them is served and its descriptor is handed out again. -/
def reuseRun : List IpcAct :=
  [.accept (some 7) 0, .accept (some 8) 0, .select [7], .acceptReady none 0,
    .serve (fun _ => none) 0, .accept (some 7) 1]

/-- A descriptor that is handed out twice is in the table once. -/
theorem client_table_invariant_reuse :
    ∃ s, Reach ipcInit ipcStep anyStep s ∧ s.server.numClients = 2 ∧ s.server.openFds = {7, 8} ∧
      (ipcServerCleanup s.server).openFds = ∅ := by
  have hrun : (run ipcStep ⟨ipcServerInit 3 0, .top⟩ reuseRun).map
      (fun s => (s.server.numClients, s.server.openFds)) = some (2, {7, 8}) := by
    decide +kernel
  obtain ⟨s, hs, hvals⟩ := Option.map_eq_some_iff.mp hrun
  rw [Prod.mk.injEq] at hvals
  have hstart : Reach ipcInit ipcStep anyStep ⟨ipcServerInit 3 0, .top⟩ := .start ⟨3, 0, rfl⟩
  have hreach := hstart.of_run_any hs
  exact ⟨s, hreach, hvals.1, hvals.2, (client_table_invariant hreach).2.2.2.2.2.2.1⟩

end Storage

import StorageManager.Ipc.Protocol

/-!
# Many clients at once

Two facts about a server with many clients, in every interleaving of their calls and however the
sockets cut the messages.

**Clients do not disturb each other.**  What is handled on a connection is that connection's
request, once; what is answered on it is that request; and what a client decodes is what it was
sent (`connections_keep_apart`).

**Clients can shut each other out.**  The server never gives up on a client that has connected and
says nothing: a slot is only given back after a `read`, and `select` reports none.  While 64 such
clients hold the table (`Held`), every later call is accepted only to be closed, and fails
(`silent_clients_shut_out`).
-/

namespace Storage

open CString Bytes Machine

/-- **No request is invented, repeated or mixed up.** -/
theorem connections_keep_apart {w : Net} (h : Reach netInit netStep anyStep w) {c : ℕ} {k : Conn}
    (hk : w.conns c = some k) :
    (k.handled = [] ∨ k.handled = [k.req]) ∧ k.responses.length ≤ 1 ∧
      (∀ resp ∈ k.responses, k.handled = [k.req] ∧ resp.requestId = k.req.requestId) ∧
      ∀ resp, k.decoded = some resp → k.responses = [resp] := by
  have hok := (netOk_of_reach h).conn c k hk
  refine ⟨?_, ?_, fun resp hresp => ?_, fun resp hdecoded => ?_⟩
  · by_cases hgot : k.serverGot = some requestSize
    · exact Or.inr (hok.whole hgot)
    · exact Or.inl (hok.short hgot).1
  · rcases hok.sent with ⟨hnil, -⟩ | ⟨resp, hresp, -⟩
    · simp [hnil]
    · simp [hresp]
  · -- a response is only sent after a whole request
    have hgot : k.serverGot = some requestSize := by
      by_contra hshort
      rw [(hok.short hshort).2.2.1] at hresp
      exact absurd hresp (by simp)
    refine ⟨hok.whole hgot, ?_⟩
    rcases hok.sent with ⟨hnil, -⟩ | ⟨resp', hresp', hid, -⟩
    · rw [hnil] at hresp
      exact absurd hresp (by simp)
    · rw [hresp', List.mem_singleton] at hresp
      rw [hresp, hid]
  · have hgot : k.clientGot = some responseSize := by
      by_contra hmissed
      rw [hok.missed hmissed] at hdecoded
      exact absurd hdecoded (by simp)
    obtain ⟨resp', hresp', hdecoded'⟩ := hok.got hgot
    rw [hresp', Option.some.inj (hdecoded.symm.trans hdecoded')]

lemma firstSlot_lt : 0 < ipcMaxClients := by decide

lemma secondSlot_lt : 1 < ipcMaxClients := by decide

/-- Two calls whose steps alternate; the second is accepted and served first, and reads its response
when the first is being served. -/
def twoCalls : List NetAct :=
  [.call 0 .status none 5, .call 1 .status none 6, .write 0 requestSize, .accept 1 8 0,
    .write 1 requestSize, .accept 0 7 0, .read 1 ⟨0, firstSlot_lt⟩ requestSize 0, .answer,
    .close, .read 0 ⟨1, secondSlot_lt⟩ requestSize 0, .answer, .recv 1 responseSize, .close,
    .recv 0 responseSize]

/-- The ids of the requests that were handled on a connection and of what its client decoded. -/
def Net.heard (w : Net) (c : ℕ) : Option (List UInt32 × List UInt32) :=
  (w.conns c).map fun k => (k.handled.map (·.requestId), k.decoded.toList.map (·.requestId))

/-- Each is answered with its own request. -/
theorem connections_keep_apart_two :
    ∃ w k k', Reach netInit netStep anyStep w ∧ w.conns 0 = some k ∧ w.conns 1 = some k' ∧
      (k.handled = [k.req] ∧ k.req.requestId = 5 ∧
        ∃ resp, k.responses = [resp] ∧ resp.requestId = 5) ∧
      (k'.handled = [k'.req] ∧ k'.req.requestId = 6 ∧
        ∃ resp, k'.responses = [resp] ∧ resp.requestId = 6) := by
  have hrun : (run netStep emptyNet twoCalls).map (fun w => [w.heard 0, w.heard 1])
      = some [some ([5], [5]), some ([6], [6])] := by decide +kernel
  obtain ⟨w, hw, hheard⟩ := Option.map_eq_some_iff.mp hrun
  have hreach := reach_emptyNet.of_run_any hw
  obtain ⟨hzero, hone, -⟩ := by simpa only [List.cons.injEq] using hheard
  have hown : ∀ {c : ℕ} {n : UInt32} {k : Conn}, w.conns c = some k →
      w.heard c = some ([n], [n]) →
      k.handled = [k.req] ∧ k.req.requestId = n ∧
        ∃ resp, k.responses = [resp] ∧ resp.requestId = n := by
    intro c n k hk hc
    obtain ⟨hhandled, -, -, hdecoded⟩ := connections_keep_apart hreach hk
    simp only [Net.heard, hk, Option.map_some, Option.some_inj, Prod.mk.injEq] at hc
    have hreq : k.handled = [k.req] := hhandled.resolve_left fun hnil => by simp [hnil] at hc
    obtain ⟨resp, hresp, hid⟩ := List.map_eq_singleton_iff.mp hc.2
    rw [hreq, List.map_singleton, List.cons.injEq] at hc
    exact ⟨hreq, hc.1.1, resp, hdecoded resp (Option.toList_eq_singleton_iff.mp hresp), hid⟩
  obtain ⟨k, hk, -⟩ := Option.map_eq_some_iff.mp hzero
  obtain ⟨k', hk', -⟩ := Option.map_eq_some_iff.mp hone
  exact ⟨w, k, k', hreach, hk, hk', hown hk hzero, hown hk' hone⟩

/-! ## A full table -/

/-- A connection that has been accepted and on which nothing was written. -/
structure Conn.Silent (k : Conn) (fd : ℤ) : Prop where
  phase : k.phase = .connected
  side : k.side = .slot fd
  toServer : k.toServer = []

/-- Every slot is taken by a client that has said nothing. -/
structure Held (silent : Fin ipcMaxClients → ℕ) (w : Net) : Prop where
  pc : w.pc = .loop
  slot : ∀ i, (w.server.clients i).active = true ∧
    ∃ k, w.conns (silent i) = some k ∧ k.Silent (w.server.clients i).fd
  owner : ∀ c k i, w.conns c = some k → k.side = .slot (w.server.clients i).fd → c = silent i

/-- The silent clients stay silent and the server is not taken down. -/
def StaysSilent (silent : Fin ipcMaxClients → ℕ) (_ : Net) : NetAct → Prop
  | .write c _ => ∀ i, c ≠ silent i
  | .cleanup => False
  | _ => True

instance (silent : Fin ipcMaxClients → ℕ) (w : Net) (a : NetAct) :
    Decidable (StaysSilent silent w a) := by
  unfold StaysSilent
  split <;> infer_instance

/-- A call that has not been served, and if it has returned, has failed. -/
structure Conn.Unserved (k : Conn) : Prop where
  side : k.side = .backlog ∨ k.side = .closed
  handled : k.handled = []
  toClient : k.toClient = []
  result : ∀ r, k.result = some r → r = sendCommandResult none

lemma Conn.unserved_start (req : Request) : (Conn.start req).Unserved :=
  ⟨Or.inl rfl, rfl, rfl, fun _ hr => absurd hr (by simp [Conn.start])⟩

lemma Conn.Unserved.write {k k' : Conn} (h : k.Unserved) {n : ℕ} (hs : k.write n = some k') :
    k'.Unserved := by
  unfold Conn.write at hs
  split_ifs at hs <;> obtain rfl := Option.some.inj hs
  · exact ⟨h.side, h.handled, h.toClient, h.result⟩
  · exact ⟨h.side, h.handled, h.toClient, fun r hr => (Option.some.inj hr).symm⟩

/-- Its `read` finds the other end closed. -/
lemma Conn.Unserved.recv {k k' : Conn} (h : k.Unserved) {n : ℕ} (hs : k.recv n = some k') :
    k'.Unserved := by
  unfold Conn.recv at hs
  split_ifs at hs
  obtain rfl := Option.some.inj hs
  refine ⟨h.side, h.handled, by simp [h.toClient], fun r hr => ?_⟩
  have hnone : clientReadResponse [] = none := if_neg (by decide)
  rw [← Option.some.inj hr, h.toClient, List.take_nil, hnone]

section Held

variable {silent : Fin ipcMaxClients → ℕ} {w w' : Net}

lemma Held.freeSlot_eq_none (h : Held silent w) (fds : Finset ℤ) :
    ({ w.server with openFds := fds } : IpcServer).freeSlot = none := by
  simp [IpcServer.freeSlot, (h.slot _).1]

/-- Only a silent client is in a slot. -/
lemma Held.eq_silent (h : Held silent w) {c : ℕ} {k : Conn} (hk : w.conns c = some k)
    {i : Fin ipcMaxClients} (hc : c = silent i) : k.Silent (w.server.clients i).fd := by
  obtain ⟨-, k', hk', hsilent⟩ := h.slot i
  rw [hc, hk', Option.some.injEq] at hk
  exact hk ▸ hsilent

/-- Another connection changes, and stays out of the table. -/
lemma Held.setConn (h : Held silent w) {c : ℕ} {k : Conn} (hc : ∀ i, c ≠ silent i)
    (hside : ∀ i, k.side ≠ .slot (w.server.clients i).fd) (server : IpcServer)
    (hclients : server.clients = w.server.clients) :
    Held silent { w.setConn c k with server := server } := by
  refine ⟨h.pc, fun i => ?_, fun c' k' i hk' hside' => ?_⟩
  · simp only [Net.setConn, hclients]
    rw [Function.update_of_ne (hc i).symm]
    exact h.slot i
  · simp only [Net.setConn, hclients] at hk' hside'
    by_cases heq : c' = c
    · rw [heq, Function.update_self] at hk'
      exact absurd (Option.some.inj hk' ▸ hside') (hside i)
    · rw [Function.update_of_ne heq] at hk'
      exact h.owner c' k' i hk' hside'

/-- With the table full a new client is closed at once. -/
lemma Held.ipcAcceptClient (h : Held silent w) (fd now : ℤ) :
    (ipcAcceptClient w.server (some fd) now).2 = -1 ∧
      (ipcAcceptClient w.server (some fd) now).1.clients = w.server.clients := by
  have hclose : ∀ s : IpcServer, (s.close fd).clients = s.clients := by
    intro s
    unfold IpcServer.close
    split <;> rfl
  simp only [Storage.ipcAcceptClient, h.freeSlot_eq_none, hclose, and_self]

/-- **A full table of silent clients stays as it is**, and a call that was not served is not
served. -/
lemma Held.step (h : Held silent w) {a : NetAct} (ha : StaysSilent silent w a)
    (hs : netStep w a = some w') {c : ℕ} (hc : ∀ k, w.conns c = some k → k.Unserved) :
    Held silent w' ∧ ∀ k, w'.conns c = some k → k.Unserved := by
  -- what becomes of `c` when one connection is replaced by another that is not served either
  have hset : ∀ (c' : ℕ) (k' : Conn) (server : IpcServer), (c' = c → k'.Unserved) →
      ∀ k, ({ w.setConn c' k' with server := server } : Net).conns c = some k → k.Unserved := by
    intro c' k' server hk' k hk
    by_cases heq : c' = c
    · subst heq
      simp only [Net.setConn, Function.update_self, Option.some.injEq] at hk
      exact hk ▸ hk' rfl
    · simp only [Net.setConn, Function.update_of_ne (Ne.symm heq)] at hk
      exact hc k hk
  cases a with
  | call c' cmd payload now =>
      simp only [netStep] at hs
      split_ifs at hs with hpre
      obtain rfl := Option.some.inj hs
      refine ⟨h.setConn (fun i heq => ?_) (by simp [Conn.start]) w.server rfl,
        hset c' _ w.server fun _ => Conn.unserved_start _⟩
      obtain ⟨-, k, hk, -⟩ := h.slot i
      exact absurd (heq ▸ hpre.1) (by simp [hk])
  | write c' n =>
      obtain ⟨k, hk, hwrite⟩ := Option.bind_eq_some_iff.mp hs
      obtain ⟨k', hk', rfl⟩ := Option.map_eq_some_iff.mp hwrite
      have hside : k'.side = k.side := by
        unfold Conn.write at hk'
        split_ifs at hk' <;> rw [← Option.some.inj hk']
      refine ⟨h.setConn ha (fun i hslot => ?_) w.server rfl,
        hset c' _ w.server fun heq => (hc k (heq ▸ hk)).write hk'⟩
      exact ha i (h.owner c' k i hk (hside ▸ hslot))
  | recv c' n =>
      obtain ⟨k, hk, hrecv⟩ := Option.bind_eq_some_iff.mp hs
      obtain ⟨k', hk', rfl⟩ := Option.map_eq_some_iff.mp hrecv
      have hpre : k.phase = .waiting ∧ k'.side = k.side := by
        unfold Conn.recv at hk'
        split_ifs at hk' with hpre
        rw [← Option.some.inj hk']
        exact ⟨hpre.1, rfl⟩
      have hnot : ∀ i, c' ≠ silent i := fun i heq =>
        absurd ((h.eq_silent hk heq).phase.symm.trans hpre.1) (by simp)
      refine ⟨h.setConn hnot (fun i hslot => ?_) w.server rfl,
        hset c' _ w.server fun heq => (hc k (heq ▸ hk)).recv hk'⟩
      exact hnot i (h.owner c' k i hk (hpre.2 ▸ hslot))
  | accept c' fd now =>
      obtain ⟨hret, hclients⟩ := h.ipcAcceptClient fd now
      simp only [netStep, h.pc, hret, if_true] at hs
      split at hs
      · next k _ hk =>
          split_ifs at hs with hpre
          obtain rfl := Option.some.inj hs
          have hnot : ∀ i, c' ≠ silent i := fun i heq =>
            absurd ((h.eq_silent hk heq).side.symm.trans hpre.1) (by simp)
          refine ⟨h.setConn hnot (by simp [Conn.onSide]) _ hclients, hset c' _ _ fun heq => ?_⟩
          obtain ⟨-, hhandled, htoClient, hresult⟩ := hc k (heq ▸ hk)
          exact ⟨Or.inr rfl, hhandled, htoClient, hresult⟩
      · exact absurd hs (by simp)
  | read c' i n now =>
      simp only [netStep, h.pc] at hs
      split at hs
      · next k _ hk =>
          split_ifs at hs with hpre
          -- the client in the slot has written nothing and not closed: there is nothing to read
          have hsilent := h.eq_silent hk (h.owner c' k i hk hpre.2.1)
          have hread := hpre.2.2
          simp [Conn.Readable, hsilent.toServer, hsilent.phase] at hread
          omega
      · exact absurd hs (by simp)
  | answer => simp [netStep, h.pc] at hs
  | close => simp [netStep, h.pc] at hs
  | stop =>
      rw [netStep, Option.some.injEq] at hs
      subst hs
      exact ⟨⟨h.pc, h.slot, h.owner⟩, hc⟩
  | cleanup => exact ha.elim

/-- **Silent clients shut everybody else out.**  As long as the clients that hold the 64 slots stay
silent, in whatever order the rest of the world acts, no call made after that has its request
handled, and each one that returns has failed. -/
theorem silent_clients_shut_out {c : ℕ} {k : Conn}
    (h : Reach (fun w => Held silent w ∧ w.conns c = none) netStep (StaysSilent silent) w)
    (hk : w.conns c = some k) : k.handled = [] ∧ ∀ r, k.result = some r → r.ret = -1 := by
  have hinv : Held silent w ∧ ∀ k, w.conns c = some k → k.Unserved := by
    refine h.invariant (I := fun w => Held silent w ∧ ∀ k, w.conns c = some k → k.Unserved) ?_ ?_
    · rintro w ⟨hheld, hnone⟩
      exact ⟨hheld, fun k hk => absurd hk (by simp [hnone])⟩
    · rintro w a w' ⟨hheld, hc⟩ ha hs
      exact hheld.step ha hs hc
  have hunserved := hinv.2 k hk
  refine ⟨hunserved.handled, fun r hr => ?_⟩
  rw [hunserved.result r hr]
  rfl

end Held

/-- 64 clients have connected and been accepted, and have said nothing. -/
def crowdedNet : Net where
  server := { ipcServerInit 3 0 with
    numClients := 64
    clients := fun i => ⟨10 + i, 0, true⟩
    openFds := (Finset.range 64).image fun i : ℕ => 10 + (i : ℤ) }
  pc := .loop
  listening := true
  conns := fun c => if c < 64 then
    some ((Conn.start (sendCommandRequest .status none 0)).onSide (.slot (10 + c))) else none

lemma crowdedNet_held : Held (fun i => i) crowdedNet := by
  refine ⟨rfl, fun i => ⟨rfl, _, if_pos i.isLt, rfl, rfl, rfl⟩, fun c k i hk hside => ?_⟩
  simp only [crowdedNet] at hk hside
  split_ifs at hk
  rw [← Option.some.inj hk] at hside
  simp only [Conn.onSide, ConnSide.slot.injEq] at hside
  omega

/-- One more call: its request is written before the server turns it away. -/
def oneMoreCall : List NetAct :=
  [.call 100 .status none 0, .write 100 requestSize, .accept 100 200 0, .recv 100 0]

/-- The call comes back with -1 although its request was written. -/
theorem silent_clients_shut_out_one_more :
    ∃ w k r, run netStep crowdedNet oneMoreCall = some w ∧ w.conns 100 = some k ∧
      k.handled = [] ∧ k.result = some r ∧ r.ret = -1 := by
  have hrun : ((run netStep crowdedNet oneMoreCall).bind fun w => (w.conns 100).bind fun k =>
      k.result.map fun r => r.ret) = some (-1) := by
    decide +kernel
  obtain ⟨w, hw, hrun⟩ := Option.bind_eq_some_iff.mp hrun
  obtain ⟨k, hk, hrun⟩ := Option.bind_eq_some_iff.mp hrun
  obtain ⟨r, hr, -⟩ := Option.map_eq_some_iff.mp hrun
  have hall : AllowedRun netStep (StaysSilent fun i => i) crowdedNet oneMoreCall := by
    decide +kernel
  have hreach : Reach (fun w => Held (fun i => i) w ∧ w.conns 100 = none) netStep
      (StaysSilent fun i => i) w :=
    (Reach.start ⟨crowdedNet_held, rfl⟩).of_run hall hw
  obtain ⟨hhandled, hret⟩ := silent_clients_shut_out hreach hk
  exact ⟨w, k, r, hw, hk, hhandled, hr, hret r hr⟩

end Storage

import StorageManager.Ipc.Server

/-!
# One request, one response

`send_command` connects, writes a `request_t` and reads a `response_t`; the server accepts, reads
the request, answers and closes.  The socket is a stream: a `read` delivers some bytes of what has
arrived, at least one unless the other end is closed, and neither end asks for the rest.

The model runs any number of calls of `send_command` against one server, the steps of the calls
and of the server in any order, with the size each `read` delivers in the label.  A connection
records what was handled, what was answered and what the two reads delivered, and `ConnOk` is
what that record satisfies whatever the sizes are: nothing is handled twice, an answer carries the
id of its request, and a client that got a whole response got the one that was sent.

* `answered_iff` — a call is answered as it should be exactly when both reads delivered
  everything they asked for.
* `serve_connection` — the server's steps for one connection are the body of the service loop.
* `run_whole` — a call that meets no other, from end to end.
-/

namespace Storage

open CString Bytes Machine

/-- Where a call of `send_command` stands.  `failed` is a write that was cut short. -/
inductive CallPhase
  | connected
  | waiting
  | failed
  | returned
  deriving DecidableEq, Repr

/-- What the server has of a connection. -/
inductive ConnSide
  | backlog
  | slot (fd : ℤ)
  | busy
  | closed
  deriving DecidableEq, Repr

/-- A connection: the call, the bytes under way in each direction, and the record. -/
structure Conn where
  req : Request
  phase : CallPhase
  side : ConnSide
  toServer : List Byte
  toClient : List Byte
  handled : List Request
  responses : List Response
  serverGot : Option ℕ
  clientGot : Option ℕ
  decoded : Option Response
  result : Option SendResult

namespace Conn

/-- `connect_to_daemon` has succeeded. -/
def start (req : Request) : Conn where
  req := req
  phase := .connected
  side := .backlog
  toServer := []
  toClient := []
  handled := []
  responses := []
  serverGot := none
  clientGot := none
  decoded := none
  result := none

/-- The `write` of `send_command`, of which the socket takes `n` bytes. -/
def write (k : Conn) (n : ℕ) : Option Conn :=
  if k.phase = .connected ∧ n ≤ requestSize ∧ (k.side = .closed → n = 0) then
    if n = requestSize then some { k with phase := .waiting, toServer := k.req.encode }
    else some { k with
      phase := .failed
      toServer := k.req.encode.take n
      result := some (sendCommandResult none) }
  else none

/-- A `read` of the server can deliver `n` bytes; 0 is the end of the stream. -/
def Readable (k : Conn) (n : ℕ) : Prop :=
  (1 ≤ n ∧ n ≤ k.toServer.length ∧ n ≤ requestSize) ∨
    (n = 0 ∧ k.toServer = [] ∧ (k.phase = .failed ∨ k.phase = .returned))

/-- A `read` of the client can deliver `n` bytes. -/
def Receivable (k : Conn) (n : ℕ) : Prop :=
  (1 ≤ n ∧ n ≤ k.toClient.length ∧ n ≤ responseSize) ∨
    (n = 0 ∧ k.toClient = [] ∧ k.side = .closed)

instance (k : Conn) (n : ℕ) : Decidable (k.Readable n) := inferInstanceAs (Decidable (_ ∨ _))

instance (k : Conn) (n : ℕ) : Decidable (k.Receivable n) := inferInstanceAs (Decidable (_ ∨ _))

/-- The server has read `n` bytes and handles `req`, if they make a request. -/
def afterRead (k : Conn) (n : ℕ) (req : Option Request) : Conn :=
  { k with
    side := .busy
    toServer := k.toServer.drop n
    handled := k.handled ++ req.toList
    serverGot := some n }

/-- `ipc_send_response`; it fails when the client has closed its end. -/
def deliver (k : Conn) (resp : Response) : Conn :=
  if k.phase = .failed ∨ k.phase = .returned then k
  else { k with toClient := k.toClient ++ resp.encode, responses := k.responses ++ [resp] }

/-- The end of `send_command`, whose `read` delivers `n` bytes. -/
def recv (k : Conn) (n : ℕ) : Option Conn :=
  if k.phase = .waiting ∧ k.Receivable n then
    let decoded := clientReadResponse (k.toClient.take n)
    some { k with
      phase := .returned
      toClient := k.toClient.drop n
      clientGot := some n
      decoded := decoded
      result := some (sendCommandResult decoded) }
  else none

/-- The connection is here on the server's side. -/
def onSide (k : Conn) (side : ConnSide) : Conn := { k with side := side }

end Conn

/-- Where the server stands in its service of a connection. -/
inductive ServePc
  | loop
  | answer (c : ℕ) (i : Fin ipcMaxClients) (resp : Response)
  | closing (c : ℕ) (i : Fin ipcMaxClients)

/-- The server, where it stands, whether its socket is open, and the connections by number. -/
structure Net where
  server : IpcServer
  pc : ServePc
  listening : Bool
  conns : ℕ → Option Conn

/-- The steps of the clients (`call`, `write`, `recv`) and of the server. -/
inductive NetAct
  | call (c : ℕ) (cmd : CommandType) (payload : Option CStr) (now : ℤ)
  | write (c n : ℕ)
  | recv (c n : ℕ)
  | accept (c : ℕ) (fd now : ℤ)
  | read (c : ℕ) (i : Fin ipcMaxClients) (n : ℕ) (now : ℤ)
  | answer
  | close
  | stop
  | cleanup

/-- The connection is now `k`. -/
def Net.setConn (w : Net) (c : ℕ) (k : Conn) : Net :=
  { w with conns := Function.update w.conns c (some k) }

/-- The `ipc_read_request` and `ipc_handle_request` for the connection `k` in slot `i`. -/
def Net.serve (w : Net) (c : ℕ) (k : Conn) (i : Fin ipcMaxClients) (n : ℕ) (now : ℤ) : Net :=
  match ipcReadRequest (k.toServer.take n) with
  | none => { w.setConn c (k.afterRead n none) with pc := .closing c i }
  | some req =>
      { w.setConn c (k.afterRead n (some req)) with
        server := (ipcHandleRequest w.server req now).1
        pc := .answer c i (ipcHandleRequest w.server req now).2 }

/-- One step of a call, of the server thread, or of the thread that stops the server. -/
def netStep (w : Net) : NetAct → Option Net
  | .call c cmd payload now =>
      if w.conns c = none ∧ w.listening = true then
        some (w.setConn c (.start (sendCommandRequest cmd payload now)))
      else none
  | .write c n => (w.conns c).bind fun k => (k.write n).map (w.setConn c)
  | .recv c n => (w.conns c).bind fun k => (k.recv n).map (w.setConn c)
  | .accept c fd now =>
      match w.pc, w.conns c with
      | .loop, some k =>
          if k.side = .backlog ∧ w.listening = true ∧ FreshFd w.server (some fd) then
            let r := ipcAcceptClient w.server (some fd) now
            some { w.setConn c (k.onSide (if r.2 = -1 then .closed else .slot fd)) with
              server := r.1 }
          else none
      | _, _ => none
  | .read c i n now =>
      match w.pc, w.conns c with
      | .loop, some k =>
          if (w.server.clients i).active = true ∧ k.side = .slot (w.server.clients i).fd ∧
              k.Readable n then
            some (w.serve c k i n now)
          else none
      | _, _ => none
  | .answer =>
      match w.pc with
      | .answer c i resp =>
          (w.conns c).map fun k => { w.setConn c (k.deliver resp) with pc := .closing c i }
      | _ => none
  | .close =>
      match w.pc with
      | .closing c i =>
          (w.conns c).map fun k =>
            { w.setConn c (k.onSide .closed) with server := w.server.release i, pc := .loop }
      | _ => none
  | .stop => some { w with server := { w.server with running := false } }
  | .cleanup =>
      match w.pc with
      | .loop =>
          if w.server.running = false then
            some { w with
              server := ipcServerCleanup w.server
              listening := false
              conns := fun c => (w.conns c).map (·.onSide .closed) }
          else none
      | _ => none

/-- The server has just been initialised, and nobody has called. -/
def netInit (w : Net) : Prop :=
  (∃ serverFd startedAt, w.server = ipcServerInit serverFd startedAt) ∧ w.pc = .loop ∧
    w.listening = true ∧ ∀ c, w.conns c = none

/-- The request was handled once, the client was sent one response with the id of the request, and
`send_command` decoded that response and returned what it says. -/
def Answered (k : Conn) : Prop :=
  k.handled = [k.req] ∧ ∃ resp, k.responses = [resp] ∧ resp.requestId = k.req.requestId ∧
    k.decoded = some resp ∧
    ∃ r, k.result = some r ∧ (r.ret = 0 ↔ resp.status = StatusCode.ok.code)

/-! ## What a connection's record satisfies -/

/-- `p` is the response the server is about to write to this connection, if it is. -/
structure ConnOk (p : Option Response) (k : Conn) : Prop where
  stream : k.serverGot = none → ∃ m, k.toServer = k.req.encode.take m
  unread : ∀ fd, k.side = .backlog ∨ k.side = .slot fd → k.serverGot = none
  short : k.serverGot ≠ some requestSize →
    k.handled = [] ∧ p = none ∧ k.responses = [] ∧ k.toClient = []
  whole : k.serverGot = some requestSize → k.handled = [k.req]
  pending : ∀ resp ∈ p, resp.requestId = k.req.requestId ∧ k.responses = [] ∧ k.toClient = []
  sent : (k.responses = [] ∧ k.toClient = []) ∨
    ∃ resp, k.responses = [resp] ∧ resp.requestId = k.req.requestId ∧
      (k.clientGot = none → k.toClient = resp.encode)
  phase : k.phase ≠ .returned → k.clientGot = none
  got : k.clientGot = some responseSize → ∃ resp, k.responses = [resp] ∧ k.decoded = some resp
  missed : k.clientGot ≠ some responseSize → k.decoded = none
  result : k.phase = .returned → k.result = some (sendCommandResult k.decoded)

/-- The response the server is about to write to connection `c`. -/
def ServePc.pending (c : ℕ) : ServePc → Option Response
  | .answer c' _ resp => if c' = c then some resp else none
  | _ => none

lemma connOk_start (req : Request) : ConnOk none (.start req) where
  stream := fun _ => ⟨0, by simp [Conn.start]⟩
  unread := fun _ _ => rfl
  short := fun _ => ⟨rfl, rfl, rfl, rfl⟩
  whole := fun h => absurd h (by simp [Conn.start])
  pending := fun _ h => absurd h (by simp)
  sent := Or.inl ⟨rfl, rfl⟩
  phase := fun _ => rfl
  got := fun h => absurd h (by simp [Conn.start])
  missed := fun _ => rfl
  result := fun h => absurd h (by simp [Conn.start])

section Steps

variable {p : Option Response} {k k' : Conn}

/-- Only the bytes on the way to the server and the phase change; a connection whose request is
still being written has not been answered. -/
lemma ConnOk.write (h : ConnOk p k) {n : ℕ} (hs : k.write n = some k') : ConnOk p k' := by
  unfold Conn.write at hs
  split_ifs at hs with hpre hn
  · rw [Option.some.injEq] at hs
    subst hs
    have hgot : k.clientGot = none := h.phase (by rw [hpre.1]; decide)
    exact { h with
      stream := fun _ => ⟨requestSize, by rw [← k.req.length_encode, List.take_length]⟩
      phase := fun _ => hgot
      result := fun hr => absurd hr (by simp) }
  · rw [Option.some.injEq] at hs
    subst hs
    have hgot : k.clientGot = none := h.phase (by rw [hpre.1]; decide)
    exact { h with
      stream := fun _ => ⟨n, rfl⟩
      phase := fun _ => hgot
      result := fun hr => absurd hr (by simp) }

lemma ConnOk.onSide (h : ConnOk p k) {side : ConnSide}
    (hside : ∀ fd, side = .backlog ∨ side = .slot fd → k.serverGot = none) :
    ConnOk p (k.onSide side) :=
  { h with unread := hside }

/-- A `read` that returns everything it asked for delivers the request; any other delivers none. -/
lemma ConnOk.readRequest (h : ConnOk p k) {n : ℕ} (hnone : k.serverGot = none)
    (hread : k.Readable n) :
    ipcReadRequest (k.toServer.take n) = if n = requestSize then some k.req else none := by
  obtain ⟨m, hm⟩ := h.stream hnone
  have hlen : k.toServer.length = min m requestSize := by
    rw [hm, List.length_take, k.req.length_encode]
  have hn : n ≤ k.toServer.length := by
    rcases hread with hread | hread <;> omega
  split_ifs with hfull
  · -- the socket holds the whole image, so `m` cuts nothing off
    have hall : k.toServer.take n = k.req.encode := by
      rw [hm, List.take_take, List.take_of_length_le]
      rw [k.req.length_encode]
      omega
    rw [hall, request_roundtrip]
  · rw [ipcReadRequest, if_neg]
    rw [List.length_take]
    omega

/-- The one `read` of the server. -/
lemma ConnOk.afterRead (h : ConnOk p k) {n : ℕ} (hnone : k.serverGot = none)
    (hread : k.Readable n) {q : Option Response}
    (hq : ∀ resp ∈ q, n = requestSize ∧ resp.requestId = k.req.requestId) :
    ConnOk q (k.afterRead n (ipcReadRequest (k.toServer.take n))) := by
  have hreq := h.readRequest hnone hread
  obtain ⟨hhandled, -, hresp, hclient⟩ := h.short (by rw [hnone]; simp)
  exact {
    stream := fun hgot => absurd hgot (by simp [Conn.afterRead])
    unread := fun fd hside => absurd hside (by simp [Conn.afterRead])
    short := by
      intro hgot
      have hn : n ≠ requestSize := by simpa [Conn.afterRead] using hgot
      have hqnone : q = none := Option.eq_none_iff_forall_not_mem.mpr fun r hr => hn (hq r hr).1
      rw [hreq, if_neg hn]
      exact ⟨by simpa [Conn.afterRead] using hhandled, hqnone, hresp, hclient⟩
    whole := by
      intro hgot
      have hn : n = requestSize := by simpa [Conn.afterRead] using hgot
      rw [hreq, if_pos hn]
      simp [Conn.afterRead, hhandled]
    pending := fun resp hr => ⟨(hq resp hr).2, hresp, hclient⟩
    sent := Or.inl ⟨hresp, hclient⟩
    phase := h.phase
    got := h.got
    missed := h.missed
    result := h.result }

/-- Writing the response the server had pending. -/
lemma ConnOk.deliver {resp : Response} (h : ConnOk (some resp) k) :
    ConnOk none (k.deliver resp) := by
  have hwhole : k.serverGot = some requestSize := by
    by_contra hne
    exact absurd (h.short hne).2.1 (by simp)
  obtain ⟨hid, hresp, hclient⟩ := h.pending resp rfl
  unfold Conn.deliver
  split_ifs with hgone
  · exact { h with
      short := fun hne => absurd hwhole hne
      pending := fun r hr => absurd hr (by simp) }
  · have hgot : k.clientGot = none := h.phase fun hp => hgone (Or.inr hp)
    exact { h with
      short := fun hne => absurd hwhole hne
      pending := fun r hr => absurd hr (by simp)
      sent := Or.inr ⟨resp, by simp [hresp], hid, fun _ => by simp [hclient]⟩
      got := fun hg => absurd hg (by simp [hgot]) }

/-- The one `read` of the client. -/
lemma ConnOk.recv (h : ConnOk p k) {n : ℕ} (hs : k.recv n = some k') : ConnOk p k' := by
  unfold Conn.recv at hs
  split_ifs at hs with hpre
  rw [Option.some.injEq] at hs
  subst hs
  obtain ⟨hwait, hrecv⟩ := hpre
  have hgot : k.clientGot = none := h.phase (by rw [hwait]; decide)
  -- what there is to read is nothing, or the one response
  have hbytes : k.toClient = [] ∨ ∃ resp, k.responses = [resp] ∧ k.toClient = resp.encode := by
    rcases h.sent with ⟨-, hnone⟩ | ⟨resp, hresp, -, henc⟩
    · exact Or.inl hnone
    · exact Or.inr ⟨resp, hresp, henc hgot⟩
  have hn : n ≤ k.toClient.length := by
    rcases hrecv with hrecv | hrecv <;> omega
  exact { h with
    short := by
      intro hne
      obtain ⟨hhandled, hp, hresp, hclient⟩ := h.short hne
      exact ⟨hhandled, hp, hresp, by simp [hclient]⟩
    pending := by
      intro resp hr
      obtain ⟨hid, hresp, hclient⟩ := h.pending resp hr
      exact ⟨hid, hresp, by simp [hclient]⟩
    sent := by
      rcases h.sent with ⟨hresp, hclient⟩ | ⟨resp, hresp, hid, -⟩
      · exact Or.inl ⟨hresp, by simp [hclient]⟩
      · exact Or.inr ⟨resp, hresp, hid, fun hg => absurd hg (by simp)⟩
    phase := fun hr => absurd rfl hr
    got := by
      intro hg
      rw [Option.some.injEq] at hg
      subst hg
      rcases hbytes with hnil | ⟨resp, hresp, henc⟩
      · rw [hnil] at hn
        exact absurd hn (by decide)
      · refine ⟨resp, hresp, ?_⟩
        rw [henc, ← resp.length_encode, List.take_length, response_roundtrip]
    missed := by
      intro hg
      rw [clientReadResponse, if_neg]
      rw [List.length_take, Nat.min_eq_left hn]
      exact fun heq => hg (by rw [heq])
    result := fun _ => rfl }

end Steps

/-! ## Every run -/

/-- The invariant: every connection is in order, and the server owes an answer only to one that
exists. -/
structure NetOk (w : Net) : Prop where
  conn : ∀ c k, w.conns c = some k → ConnOk (w.pc.pending c) k
  unused : ∀ c, w.conns c = none → w.pc.pending c = none

/-- A step that puts `k` in the place of connection `c`. -/
lemma NetOk.setConn {w : Net} (h : NetOk w) {c : ℕ} {k : Conn} (server : IpcServer) (pc : ServePc)
    (hk : ConnOk (pc.pending c) k) (hpc : ∀ c', c' ≠ c → pc.pending c' = w.pc.pending c') :
    NetOk { w.setConn c k with server := server, pc := pc } := by
  constructor
  · intro c' k' hk'
    by_cases hc : c' = c
    · subst hc
      have heq : k = k' := by simpa [Net.setConn] using hk'
      rwa [← heq]
    · rw [hpc c' hc]
      exact h.conn c' k' (by simpa [Net.setConn, hc] using hk')
  · intro c' hk'
    have hc : c' ≠ c := by
      rintro rfl
      simp [Net.setConn] at hk'
    rw [hpc c' hc]
    exact h.unused c' (by simpa [Net.setConn, hc] using hk')

lemma netOk_serve {w : Net} (h : NetOk w) {c : ℕ} {k : Conn} {i : Fin ipcMaxClients} {n : ℕ}
    {now : ℤ} (hpc : w.pc = .loop) (hk : w.conns c = some k) (hnone : k.serverGot = none)
    (hread : k.Readable n) : NetOk (w.serve c k i n now) := by
  have hok : ConnOk none k := by simpa [hpc, ServePc.pending] using h.conn c k hk
  have hreq := hok.readRequest hnone hread
  have hafter := fun q hq => hok.afterRead (q := q) hnone hread hq
  unfold Net.serve
  split
  · next heq =>
      rw [heq] at hafter
      exact h.setConn _ _ (hafter none fun r hr => absurd hr (by simp))
        fun c' _ => by simp [ServePc.pending, hpc]
  · next req heq =>
      rw [heq] at hafter hreq
      have hfull : n = requestSize ∧ req = k.req := by
        split_ifs at hreq with hn
        exact ⟨hn, Option.some.inj hreq⟩
      refine h.setConn _ _ ?_ fun c' hc => by simp [ServePc.pending, hpc, hc.symm]
      refine hafter _ fun resp hr => ⟨hfull.1, ?_⟩
      have hresp : (ipcHandleRequest w.server req now).2 = resp := by
        simpa [ServePc.pending] using hr
      rw [← hresp, ipcHandleRequest_requestId, hfull.2]

lemma netOk_accept {w w' : Net} {c : ℕ} {fd now : ℤ} (h : NetOk w)
    (hs : netStep w (.accept c fd now) = some w') : NetOk w' := by
  simp only [netStep] at hs
  split at hs
  · next k hpc hk =>
      split at hs
      case isFalse => exact absurd hs (by simp)
      case isTrue hpre =>
      rw [Option.some.injEq] at hs
      subst hs
      have hok := h.conn c k hk
      exact h.setConn _ w.pc (hok.onSide fun _ _ => hok.unread 0 (Or.inl hpre.1)) fun _ _ => rfl
  · exact absurd hs (by simp)

lemma netOk_read {w w' : Net} {c n : ℕ} {i : Fin ipcMaxClients} {now : ℤ} (h : NetOk w)
    (hs : netStep w (.read c i n now) = some w') : NetOk w' := by
  simp only [netStep] at hs
  split at hs
  · next k hpc hk =>
      split_ifs at hs with hpre
      rw [Option.some.injEq] at hs
      subst hs
      exact netOk_serve h hpc hk ((h.conn c k hk).unread _ (Or.inr hpre.2.1)) hpre.2.2
  · exact absurd hs (by simp)

lemma netOk_answer {w w' : Net} (h : NetOk w) (hs : netStep w .answer = some w') : NetOk w' := by
  simp only [netStep] at hs
  split at hs
  · next c i resp hpc =>
      obtain ⟨k, hk, rfl⟩ := Option.map_eq_some_iff.mp hs
      have hok : ConnOk (some resp) k := by simpa [hpc, ServePc.pending] using h.conn c k hk
      exact h.setConn w.server _ hok.deliver
        fun c' hc => by simp [ServePc.pending, hpc, hc.symm]
  · exact absurd hs (by simp)

lemma netOk_close {w w' : Net} (h : NetOk w) (hs : netStep w .close = some w') : NetOk w' := by
  simp only [netStep] at hs
  split at hs
  · next c i hpc =>
      obtain ⟨k, hk, rfl⟩ := Option.map_eq_some_iff.mp hs
      have hok : ConnOk none k := by simpa [hpc, ServePc.pending] using h.conn c k hk
      exact h.setConn _ _ (hok.onSide fun _ hside => absurd hside (by simp))
        fun c' _ => by simp [ServePc.pending, hpc]
  · exact absurd hs (by simp)

lemma netOk_cleanup {w w' : Net} (h : NetOk w) (hs : netStep w .cleanup = some w') :
    NetOk w' := by
  simp only [netStep] at hs
  split at hs
  · split_ifs at hs
    rw [Option.some.injEq] at hs
    subst hs
    refine ⟨fun c k' hk' => ?_, fun c hk' => h.unused c (Option.map_eq_none_iff.mp hk')⟩
    obtain ⟨k, hk, rfl⟩ := Option.map_eq_some_iff.mp hk'
    exact (h.conn c k hk).onSide fun _ hside => absurd hside (by simp)
  · exact absurd hs (by simp)

lemma netOk_step {w w' : Net} {a : NetAct} (h : NetOk w) (hs : netStep w a = some w') :
    NetOk w' := by
  cases a with
  | call c cmd payload now =>
      simp only [netStep] at hs
      split_ifs at hs with hpre
      rw [Option.some.injEq] at hs
      subst hs
      refine h.setConn w.server w.pc ?_ fun _ _ => rfl
      rw [h.unused c hpre.1]
      exact connOk_start _
  | write c n =>
      obtain ⟨k, hk, hwrite⟩ := Option.bind_eq_some_iff.mp hs
      obtain ⟨k', hk', rfl⟩ := Option.map_eq_some_iff.mp hwrite
      exact h.setConn w.server w.pc ((h.conn c k hk).write hk') fun _ _ => rfl
  | recv c n =>
      obtain ⟨k, hk, hrecv⟩ := Option.bind_eq_some_iff.mp hs
      obtain ⟨k', hk', rfl⟩ := Option.map_eq_some_iff.mp hrecv
      exact h.setConn w.server w.pc ((h.conn c k hk).recv hk') fun _ _ => rfl
  | accept c fd now => exact netOk_accept h hs
  | read c i n now => exact netOk_read h hs
  | answer => exact netOk_answer h hs
  | close => exact netOk_close h hs
  | stop =>
      rw [netStep, Option.some.injEq] at hs
      subst hs
      exact ⟨h.conn, h.unused⟩
  | cleanup => exact netOk_cleanup h hs

lemma netOk_of_reach {w : Net} (h : Reach netInit netStep anyStep w) : NetOk w := by
  refine h.invariant ?_ fun _ _ _ hI _ hs => netOk_step hI hs
  rintro w ⟨-, hpc, -, hnone⟩
  exact ⟨fun c k hk => absurd hk (by simp [hnone]), fun c _ => by simp [hpc, ServePc.pending]⟩

/-- Whatever the segmentation, no request is handled twice and no client is answered twice. -/
theorem handled_at_most_once {w : Net} (h : Reach netInit netStep anyStep w) {c : ℕ} {k : Conn}
    (hk : w.conns c = some k) : k.handled.length ≤ 1 ∧ k.responses.length ≤ 1 := by
  have hok := (netOk_of_reach h).conn c k hk
  constructor
  · by_cases hgot : k.serverGot = some requestSize
    · simp [hok.whole hgot]
    · simp [(hok.short hgot).1]
  · rcases hok.sent with ⟨hnil, -⟩ | ⟨resp, hresp, -⟩
    · simp [hnil]
    · simp [hresp]

/-- **What a call depends on.**  A call of `send_command` that wrote its whole request and has
returned was answered as it should be exactly when the server's one `read` delivered all of the
request and the client's one `read` all of the response. -/
theorem answered_iff {w : Net} (h : Reach netInit netStep anyStep w) {c : ℕ} {k : Conn}
    (hk : w.conns c = some k) (hret : k.phase = .returned) :
    Answered k ↔ k.serverGot = some requestSize ∧ k.clientGot = some responseSize := by
  have hok := (netOk_of_reach h).conn c k hk
  constructor
  · rintro ⟨hhandled, resp, -, -, hdecoded, -⟩
    constructor
    · by_contra hne
      rw [(hok.short hne).1] at hhandled
      exact absurd hhandled (by simp)
    · by_contra hne
      rw [hok.missed hne] at hdecoded
      exact absurd hdecoded (by simp)
  · rintro ⟨hserver, hclient⟩
    obtain ⟨resp, hresp, hdecoded⟩ := hok.got hclient
    have hid : resp.requestId = k.req.requestId := by
      rcases hok.sent with ⟨hnil, -⟩ | ⟨resp', hresp', hid, -⟩
      · rw [hresp] at hnil
        exact absurd hnil (by simp)
      · rw [hresp, List.cons.injEq] at hresp'
        rw [hresp'.1, hid]
    refine ⟨hok.whole hserver, resp, hresp, hid, hdecoded, _, hok.result hret, ?_⟩
    rw [hdecoded]
    exact sendCommandResult_ret resp

/-- The server's steps for one connection, uninterrupted, do to the server what the body of the
service loop does. -/
theorem serve_connection {w : Net} {c n : ℕ} {k : Conn} {i : Fin ipcMaxClients} {now : ℤ}
    (hpc : w.pc = .loop) (hk : w.conns c = some k) (hi : (w.server.clients i).active = true)
    (hside : k.side = .slot (w.server.clients i).fd) (hread : k.Readable n) :
    ∃ acts w', run netStep w (.read c i n now :: acts) = some w' ∧ w'.pc = .loop ∧
      w'.server = serveSlot w.server [(w.server.clients i).fd] (ipcReadRequest (k.toServer.take n))
        now i := by
  have hstep : netStep w (.read c i n now) = some (w.serve c k i n now) := by
    simp [netStep, hpc, hk, hi, hside, hread]
  cases hreq : ipcReadRequest (k.toServer.take n) with
  | none =>
      refine ⟨[.close], ?_⟩
      rw [run_cons, hstep]
      simp [Net.serve, hreq, netStep, Net.setConn, serveSlot, hi]
  | some req =>
      refine ⟨[.answer, .close], ?_⟩
      rw [run_cons, hstep]
      simp [Net.serve, hreq, netStep, Net.setConn, serveSlot, hi]

/-! ## A call from end to end -/

section Call

variable {w : Net} {c : ℕ} {i : Fin ipcMaxClients} {fd now served : ℤ} {cmd : CommandType}
  {payload : Option CStr}

lemma ipcAcceptClient_of_free {s : IpcServer} (hfree : s.freeSlot = some i) (fd now : ℤ) :
    ipcAcceptClient s (some fd) now =
      (IpcServer.occupy { s with openFds := insert fd s.openFds } i fd now, fd) := by
  have hsame : ({ s with openFds := insert fd s.openFds } : IpcServer).freeSlot = some i := hfree
  simp only [ipcAcceptClient, hsame]

/-- A call whose request waits in the slot with descriptor `fd`. -/
def Conn.requested (req : Request) (fd : ℤ) : Conn :=
  { Conn.start req with phase := .waiting, side := .slot fd, toServer := req.encode }

/-- The system when the request is in the socket and the connection has been accepted. -/
def Net.connected (w : Net) (c : ℕ) (req : Request) (fd now : ℤ) : Net :=
  { w.setConn c (.requested req fd) with server := (ipcAcceptClient w.server (some fd) now).1 }

lemma run_connect (hpc : w.pc = .loop) (hnew : w.conns c = none) (hlisten : w.listening = true)
    (hfd : FreshFd w.server (some fd)) (hfree : w.server.freeSlot = some i) :
    run netStep w [.call c cmd payload now, .write c requestSize, .accept c fd now] =
      some (w.connected c (sendCommandRequest cmd payload now) fd now) := by
  have hpos : fd ≠ -1 := by
    have hnonneg := (hfd fd rfl).2.2
    omega
  have haccept := ipcAcceptClient_of_free hfree fd now
  simp [netStep, Net.connected, Conn.requested, Net.setConn, Conn.write, Conn.start, Conn.onSide,
    hpc, hnew, hlisten, hfd, haccept, hpos]

/-- The service of a connection whose request has arrived, and the end of its call. -/
lemma run_serve {k : Conn} {req : Request} (hpc : w.pc = .loop) (hk : w.conns c = some k)
    (hi : (w.server.clients i).active = true) (hside : k.side = .slot (w.server.clients i).fd)
    (hwaits : k.phase = .waiting) (hreq : k.toServer = req.encode) (hclient : k.toClient = []) :
    ∃ w' k', run netStep w [.read c i requestSize served, .answer, .close, .recv c responseSize] =
        some w' ∧ w'.conns c = some k' ∧
      (k'.phase = .returned ∧ k'.serverGot = some requestSize ∧
        k'.clientGot = some responseSize) ∧
      k'.result = some (sendCommandResult (some (ipcHandleRequest w.server req served).2)) ∧
      w'.server = (ipcHandleRequest w.server req served).1.release i := by
  have hlen : k.toServer.length = requestSize := hreq ▸ req.length_encode
  have hread : k.Readable requestSize := Or.inl ⟨by decide, hlen.ge, le_rfl⟩
  have hgot : ipcReadRequest (k.toServer.take requestSize) = some req := by
    rw [← hlen, List.take_length, hreq, request_roundtrip]
  generalize hresp : ipcHandleRequest w.server req served = handled
  obtain ⟨s', resp⟩ := handled
  have hrecv : clientReadResponse (resp.encode.take responseSize) = some resp := by
    rw [← resp.length_encode, List.take_length, response_roundtrip]
  have hreceive (k' : Conn) (hto : k'.toClient = resp.encode) : k'.Receivable responseSize :=
    Or.inl ⟨by decide, by rw [hto, resp.length_encode], le_rfl⟩
  simp [netStep, Net.serve, Net.setConn, Conn.afterRead, Conn.deliver, Conn.onSide, Conn.recv,
    hpc, hk, hi, hside, hread, hgot, hresp, hwaits, hclient, hreceive, hrecv]

/-- A call that meets no other, with reads that deliver everything, from end to end. -/
lemma run_whole (hpc : w.pc = .loop) (hnew : w.conns c = none) (hlisten : w.listening = true)
    (hfd : FreshFd w.server (some fd)) (hfree : w.server.freeSlot = some i) (cmd : CommandType)
    (payload : Option CStr) (now served : ℤ) :
    ∃ w' k, run netStep w ([.call c cmd payload now, .write c requestSize, .accept c fd now] ++
        [.read c i requestSize served, .answer, .close, .recv c responseSize]) = some w' ∧
      w'.conns c = some k ∧
      (k.phase = .returned ∧ k.serverGot = some requestSize ∧
        k.clientGot = some responseSize) ∧
      k.result = some (sendCommandResult (some
        (ipcHandleRequest (ipcAcceptClient w.server (some fd) now).1
          (sendCommandRequest cmd payload now) served).2)) ∧
      w'.server = (ipcHandleRequest (ipcAcceptClient w.server (some fd) now).1
        (sendCommandRequest cmd payload now) served).1.release i := by
  rw [run_append, run_connect hpc hnew hlisten hfd hfree, Option.bind_some]
  generalize hw : w.connected c (sendCommandRequest cmd payload now) fd now = waiting
  have hloop : waiting.pc = .loop := by rw [← hw, Net.connected, Net.setConn, hpc]
  have hconn : waiting.conns c = some (.requested (sendCommandRequest cmd payload now) fd) := by
    rw [← hw]
    exact Function.update_self _ _ _
  have haccepted : waiting.server = (ipcAcceptClient w.server (some fd) now).1 := by
    rw [← hw, Net.connected]
  have hslot : waiting.server.clients i = ⟨fd, now, true⟩ := by
    rw [haccepted, ipcAcceptClient_of_free hfree fd now]
    exact Function.update_self _ _ _
  rw [← haccepted]
  exact run_serve hloop hconn (by rw [hslot]) (by rw [hslot]; rfl) rfl rfl rfl

end Call

/-- A concrete state after the initialisation. -/
def emptyNet : Net := ⟨ipcServerInit 3 0, .loop, true, fun _ => none⟩

lemma reach_emptyNet : Reach netInit netStep anyStep emptyNet :=
  .start ⟨⟨3, 0, rfl⟩, rfl, rfl, fun _ => rfl⟩

/-- A call that is served with whole reads. -/
def wholeReads : List NetAct :=
  [.call 0 .status none 0, .write 0 requestSize, .accept 0 7 0,
    .read 0 ⟨0, by decide⟩ requestSize 0, .answer, .close, .recv 0 responseSize]

/-- With whole reads the call is answered. -/
theorem answered_iff_whole :
    ∃ w k, Reach netInit netStep anyStep w ∧ w.conns 0 = some k ∧ k.phase = .returned ∧
      Answered k := by
  have hfd : FreshFd emptyNet.server (some 7) := by decide
  have hfree : emptyNet.server.freeSlot = some ⟨0, by decide⟩ := rfl
  obtain ⟨w, k, hrun, hk, ⟨hret, hreads⟩, -⟩ := run_whole rfl rfl rfl hfd hfree .status none 0 0
  have hwhole : run netStep emptyNet wholeReads = some w := hrun
  have hreach := reach_emptyNet.of_run_any hwhole
  exact ⟨w, k, hreach, hk, hret, (answered_iff hreach hk hret).mpr hreads⟩

/-- The same call, with the request arriving in two segments. -/
def shortRead : List NetAct :=
  [.call 0 .status none 0, .write 0 requestSize, .accept 0 7 0,
    .read 0 ⟨0, by decide⟩ 4096 0, .close, .recv 0 0]

/-- The server drops the request after the first segment and `send_command` reports failure. -/
theorem short_read_unanswered :
    ¬ ∀ w, Reach netInit netStep anyStep w → ∀ c k, w.conns c = some k → k.phase = .returned →
      Answered k := by
  intro hclaim
  have hrun : ((run netStep emptyNet shortRead).bind (·.conns 0)).map
      (fun k => (k.phase, k.handled.length)) = some (.returned, 0) := by
    decide +kernel
  obtain ⟨k, hk, hvals⟩ := Option.map_eq_some_iff.mp hrun
  obtain ⟨w, hw, hk⟩ := Option.bind_eq_some_iff.mp hk
  simp only [Prod.mk.injEq] at hvals
  have hanswered := hclaim w (reach_emptyNet.of_run_any hw) 0 k hk hvals.1
  rw [hanswered.1] at hvals
  exact absurd hvals.2 (by simp)

end Storage

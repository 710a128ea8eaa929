import StorageManager.Ipc.Protocol

/-!
# What client and server make of a request

An exchange is a call of `send_command` for which the socket delivers everything: the request is
built, read and handled, and the response is read and printed.

* `requestOk_iff` — the encoder of the client.  It clamps the size of the payload after it has cut
  it to 32 bits, so a payload of 4 GiB is sent as a short one, or without a terminator.
* `ipcHandleRequest_responseOk`, `sendCommandResult_handle` — the server's encoder and the client's
  decoder, which are right for every request.
* `exchange_agrees_iff` — the whole.
* `exchange_of_run` — the steps of a call in `Ipc/Protocol.lean`, with whole reads, are an exchange.
-/

namespace Storage

open CString Bytes Machine

/-- A finished call: what was sent, what was answered, the server afterwards and the end of
`send_command`. -/
structure Exchange where
  request : Request
  response : Response
  server : IpcServer
  result : SendResult

/-- A call at time `now` that is handled at time `served`. -/
def exchange (s : IpcServer) (cmd : UInt32) (payload : Option CStr) (now served : ℤ) :
    Option Exchange :=
  let sent := clientRequest cmd payload now
  (ipcReadRequest sent.encode).map fun req =>
    let handled := ipcHandleRequest s req served
    { request := sent
      response := handled.2
      server := handled.1
      result := sendCommandResult (clientReadResponse handled.2.encode) }

/-- Every byte of the payload that there is room for, terminated. -/
structure RequestOk (payload : Option CStr) (req : Request) : Prop where
  version : req.version = 1
  size : req.payloadSize.toNat ≤ ipcMaxPayloadSize
  payload : req.payload.Holds ((textBytes (payload.getD [])).take (ipcMaxPayloadSize - 1))

/-- A result of `data_size - 1` characters, or an error with a text. -/
def ResponseOk (req : Request) (resp : Response) : Prop :=
  resp.requestId = req.requestId ∧
    ((resp.status = StatusCode.ok.code ∧ 1 ≤ resp.dataSize.toNat ∧
        resp.dataSize.toNat ≤ ipcMaxPayloadSize ∧
        ∃ t, resp.data.Holds t ∧ t.length = resp.dataSize.toNat - 1) ∨
      (resp.status ≠ StatusCode.ok.code ∧ resp.dataSize = 0 ∧
        ∃ t, t ≠ [] ∧ resp.errorMsg.Holds t))

/-- The client prints the result `text` of the dispatcher, or the error, and returns 0 for the
former. -/
def ResultOk (text : CStr) (resp : Response) (r : SendResult) : Prop :=
  (resp.status = StatusCode.ok.code → r.out = textBytes (text ++ ['\n']) ∧ r.err = []) ∧
    (resp.status ≠ StatusCode.ok.code →
      r.out = [] ∧ r.err = textBytes "Error: ".toList ++ resp.errorMsg.text ++ textBytes ['\n']) ∧
    (r.ret = 0 ↔ resp.status = StatusCode.ok.code)

/-- Only a shutdown changes the server, and nothing but the running flag. -/
def ServerOk (cmd : UInt32) (s s' : IpcServer) : Prop :=
  (cmd ≠ CommandType.shutdown.code → s' = s) ∧ ∃ running, s' = { s with running := running }

/-- Both ends do what the other expects. -/
def ExchangeAgrees (s : IpcServer) (cmd : UInt32) (payload : Option CStr) (now served : ℤ) : Prop :=
  ∃ e, exchange s cmd payload now served = some e ∧ RequestOk payload e.request ∧
    ResponseOk e.request e.response ∧
    ResultOk (ipcDispatchCommand s cmd served).2.1 e.response e.result ∧ ServerOk cmd s e.server

/-! ## Texts as bytes -/

lemma textBytes_append (s t : CStr) : textBytes (s ++ t) = textBytes s ++ textBytes t :=
  List.map_append

@[simp] lemma length_textBytes (s : CStr) : (textBytes s).length = s.length := List.length_map _

lemma textBytes_take (s : CStr) (n : ℕ) : textBytes (s.take n) = (textBytes s).take n :=
  List.map_take

lemma zero_notMem_append {s t : CStr} (hs : 0 ∉ textBytes s) (ht : 0 ∉ textBytes t) :
    0 ∉ textBytes (s ++ t) := by
  rw [textBytes_append]
  exact fun h => (List.mem_append.mp h).elim hs ht

lemma zero_notMem_decimal (n : ℕ) : 0 ∉ textBytes (decimal n) := by
  intro h
  obtain ⟨c, hc, hbyte⟩ := List.mem_map.mp h
  have hdigit := isDigit_of_mem_decimal hc
  have hval : c.toNat % 256 = 0 := by simpa using congrArg UInt8.toNat hbyte
  rw [Char.isDigit, Bool.and_eq_true, decide_eq_true_eq, decide_eq_true_eq] at hdigit
  have hlow : 48 ≤ c.toNat := hdigit.1
  have hhigh : c.toNat ≤ 57 := hdigit.2
  omega

lemma zero_notMem_intText (i : ℤ) : 0 ∉ textBytes (intText i) := by
  cases i with
  | ofNat n => exact zero_notMem_decimal n
  | negSucc n =>
      have hsign : 0 ∉ textBytes ['-'] := by decide
      exact zero_notMem_append hsign (zero_notMem_decimal (n + 1))

/-! ## The request -/

section Request

variable {cmd : UInt32} {payload : Option CStr} {now : ℤ}

lemma clientRequest_payloadSize (p : CStr) :
    (clientRequest cmd (some p) now).payloadSize = clientPayloadSize p := rfl

lemma clientRequest_payload (p : CStr) :
    (clientRequest cmd (some p) now).payload =
      .ofBytes _ ((textBytes p).take (clientPayloadSize p - 1).toNat) := rfl

lemma clientPayloadSize_toNat (p : CStr) :
    (clientPayloadSize p).toNat = min ((p.length + 1) % 2 ^ 32) ipcMaxPayloadSize := by
  have hsize : (UInt32.ofNat (p.length + 1)).toNat = (p.length + 1) % 2 ^ 32 := UInt32.toNat_ofNat'
  have hmax : (UInt32.ofNat ipcMaxPayloadSize).toNat = ipcMaxPayloadSize := by decide
  rw [clientPayloadSize]
  split_ifs with h
  · rw [hmax]
    omega
  · rw [hsize]
    omega

/-- The bound of the `strncpy`. -/
lemma toNat_sub_one (size : UInt32) :
    (size - 1).toNat = if size.toNat = 0 then 2 ^ 32 - 1 else size.toNat - 1 := by
  have hlt := size.toNat_lt
  rw [UInt32.toNat_sub]
  have hone : (1 : UInt32).toNat = 1 := rfl
  rw [hone]
  split_ifs <;> omega

/-- The length and the clamped size agree unless the length was cut to less than the clamp. -/
def SizeFits (payload : Option CStr) : Prop :=
  ∀ p ∈ payload, p.length + 1 < 2 ^ 32 ∨ ipcMaxPayloadSize ≤ (p.length + 1) % 2 ^ 32

lemma sizeFits_some {p : CStr} :
    SizeFits (some p) ↔ p.length + 1 < 2 ^ 32 ∨ ipcMaxPayloadSize ≤ (p.length + 1) % 2 ^ 32 := by
  simp [SizeFits]

/-- What is sent is the start of the payload, with a terminator, exactly if its size fits. -/
lemma requestOk_iff (hp : ∀ p ∈ payload, 0 ∉ textBytes p) :
    RequestOk payload (clientRequest cmd payload now) ↔ SizeFits payload := by
  cases payload with
  | none =>
      refine iff_of_true ⟨rfl, Nat.zero_le _, ?_⟩ fun p h => absurd h (by simp)
      exact (Buf.ofBytes_holds_iff List.not_mem_nil).mpr ⟨by decide, rfl⟩
  | some p =>
      have hsize := clientPayloadSize_toNat p
      have hmax : ipcMaxPayloadSize = 8192 := rfl
      have hzero : 0 ∉ (textBytes p).take (clientPayloadSize p - 1).toNat := fun h =>
        hp p rfl (List.mem_of_mem_take h)
      have hpayload : (clientRequest cmd (some p) now).payload.Holds
          ((textBytes p).take (ipcMaxPayloadSize - 1)) ↔ SizeFits (some p) := by
        rw [sizeFits_some, clientRequest_payload, Buf.ofBytes_holds_iff hzero,
          List.take_eq_take_iff, List.length_take, length_textBytes, toNat_sub_one, hsize, hmax]
        split_ifs <;> omega
      refine ⟨fun h => hpayload.mp h.payload, fun h => ⟨rfl, ?_, hpayload.mpr h⟩⟩
      exact hsize.trans_le (min_le_right _ _)

end Request

/-! ## The response -/

section Response

variable (s : IpcServer) (req : Request) (cmd : UInt32) (now : ℤ)

/-- What the dispatcher hands to the encoder: a C string that fits the array. -/
lemma ipcDispatchCommand_text :
    0 ∉ textBytes (ipcDispatchCommand s cmd now).2.1 ∧
      (ipcDispatchCommand s cmd now).2.1.length < ipcMaxPayloadSize := by
  have hfit {t : CStr} (ht : 0 ∉ textBytes t) :
      0 ∉ textBytes (fit ipcMaxPayloadSize t) ∧
        (fit ipcMaxPayloadSize t).length < ipcMaxPayloadSize := by
    refine ⟨fun h => ht ?_, length_fit_lt (by decide) t⟩
    rw [fit, textBytes_take] at h
    exact List.mem_of_mem_take h
  unfold ipcDispatchCommand
  split
  · refine hfit ?_
    refine zero_notMem_append (zero_notMem_append (zero_notMem_append ?_ ?_) ?_) ?_
    · decide +kernel
    · exact zero_notMem_intText _
    · decide +kernel
    · exact zero_notMem_intText _
  · exact hfit (by decide +kernel)
  · exact hfit (by decide +kernel)

/-- The text of every error. -/
def failedText : CStr := "Command failed".toList

lemma failedText_holds :
    (Buf.ofBytes 256 (textBytes (fit 256 failedText))).Holds (textBytes failedText) := by
  decide +kernel

lemma StatusCode.code_eq_ok_iff (c : StatusCode) : c.code = StatusCode.ok.code ↔ c = .ok := by
  cases c <;> decide

/-- The response in its two forms: the text of the dispatcher, or the text of all errors. -/
lemma ipcHandleRequest_cases :
    ((ipcHandleRequest s req now).2.status = StatusCode.ok.code ∧
      (ipcHandleRequest s req now).2.dataSize.toNat =
        (ipcDispatchCommand s req.command now).2.1.length + 1 ∧
      (ipcHandleRequest s req now).2.data.Holds
        (textBytes (ipcDispatchCommand s req.command now).2.1)) ∨
    ((ipcHandleRequest s req now).2.status ≠ StatusCode.ok.code ∧
      (ipcHandleRequest s req now).2.dataSize = 0 ∧
      (ipcHandleRequest s req now).2.errorMsg.Holds (textBytes failedText)) := by
  obtain ⟨hzero, hlen⟩ := ipcDispatchCommand_text s req.command now
  unfold ipcHandleRequest
  generalize ipcDispatchCommand s req.command now = d at hzero hlen ⊢
  obtain ⟨s', text, status⟩ := d
  have hmax : ipcMaxPayloadSize = 8192 := rfl
  dsimp only at hzero hlen
  by_cases hok : status = .ok
  · subst hok
    have hsize : min (text.length + 1) ipcMaxPayloadSize = text.length + 1 := by omega
    have htake : (textBytes text).take (text.length + 1) = textBytes text :=
      List.take_of_length_le (by rw [length_textBytes]; omega)
    refine Or.inl ⟨rfl, ?_, ?_⟩
    · simp only [hsize, UInt32.toNat_ofNat']
      omega
    · simp only [hsize, htake]
      exact (Buf.ofBytes_holds_iff hzero).mpr ⟨by rwa [length_textBytes], rfl⟩
  · have hcode : status.code ≠ StatusCode.ok.code := mt (StatusCode.code_eq_ok_iff status).mp hok
    cases status with
    | ok => exact absurd rfl hok
    | _ => exact Or.inr ⟨hcode, rfl, failedText_holds⟩

lemma ipcHandleRequest_responseOk : ResponseOk req (ipcHandleRequest s req now).2 := by
  refine ⟨ipcHandleRequest_requestId s req now, ?_⟩
  have hlen := (ipcDispatchCommand_text s req.command now).2
  rcases ipcHandleRequest_cases s req now with ⟨hstatus, hsize, hdata⟩ | ⟨hstatus, hsize, herror⟩
  · refine Or.inl ⟨hstatus, by omega, by omega, _, hdata, ?_⟩
    rw [length_textBytes, hsize, Nat.add_sub_cancel]
  · exact Or.inr ⟨hstatus, hsize, _, by decide, herror⟩

/-- What the client says of the response it gets. -/
lemma sendCommandResult_handle :
    ResultOk (ipcDispatchCommand s req.command now).2.1 (ipcHandleRequest s req now).2
      (sendCommandResult (some (ipcHandleRequest s req now).2)) := by
  have hlen := (ipcDispatchCommand_text s req.command now).2
  refine ⟨fun hok => ?_, fun herr => ?_, sendCommandResult_ret _⟩
  · rcases ipcHandleRequest_cases s req now with ⟨_, hsize, hdata⟩ | ⟨hstatus, _⟩
    · rw [sendCommandResult, if_pos hok, if_pos ⟨by omega, by omega⟩, hdata.1, textBytes_append]
      exact ⟨rfl, rfl⟩
    · exact absurd hok hstatus
  · rw [sendCommandResult, if_neg herr]
    exact ⟨rfl, rfl⟩

lemma ipcHandleRequest_serverOk : ServerOk req.command s (ipcHandleRequest s req now).1 := by
  refine ⟨fun hcmd => ?_, ipcHandleRequest_server s req now⟩
  obtain ⟨running, hserver⟩ := ipcHandleRequest_server s req now
  have hsame := ipcHandleRequest_running s req now
  rw [if_neg (mt CommandType.ofCode_eq_some_iff.mp hcmd), hserver] at hsame
  dsimp only at hsame
  rw [hserver, hsame]

end Response

/-! ## The exchange -/

section Whole

variable {s : IpcServer} {cmd : UInt32} {payload : Option CStr} {now served : ℤ}

/-- Nothing is lost on the way, in either direction. -/
lemma exchange_eq (s : IpcServer) (cmd : UInt32) (payload : Option CStr) (now served : ℤ) :
    exchange s cmd payload now served =
      some ⟨clientRequest cmd payload now,
        (ipcHandleRequest s (clientRequest cmd payload now) served).2,
        (ipcHandleRequest s (clientRequest cmd payload now) served).1,
        sendCommandResult
          (some (ipcHandleRequest s (clientRequest cmd payload now) served).2)⟩ := by
  simp only [exchange, request_roundtrip, response_roundtrip, Option.map_some]

lemma exchangeAgrees_iff_request :
    ExchangeAgrees s cmd payload now served ↔
      RequestOk payload (clientRequest cmd payload now) := by
  rw [ExchangeAgrees, exchange_eq]
  constructor
  · rintro ⟨e, he, hrequest, -⟩
    rw [Option.some.injEq] at he
    subst he
    exact hrequest
  · intro hrequest
    exact ⟨_, rfl, hrequest, ipcHandleRequest_responseOk s _ served,
      sendCommandResult_handle s (clientRequest cmd payload now) served,
      ipcHandleRequest_serverOk s (clientRequest cmd payload now) served⟩

/-- **Client and server.**  For every command and every payload that is a C string, an exchange goes
as it should exactly if the size of the payload was not cut to less than the clamp. -/
theorem exchange_agrees_iff (hp : ∀ p ∈ payload, 0 ∉ textBytes p) :
    ExchangeAgrees s cmd payload now served ↔ SizeFits payload :=
  exchangeAgrees_iff_request.trans (requestOk_iff hp)

end Whole

/-- A status request with a short payload. -/
theorem exchange_agrees_status :
    (∀ p ∈ some "all".toList, 0 ∉ textBytes p) ∧
      ExchangeAgrees (ipcServerInit 3 0) CommandType.status.code (some "all".toList) 5 6 := by
  have hp : ∀ p ∈ some "all".toList, 0 ∉ textBytes p :=
    fun _ hp => Option.some.inj hp ▸ by decide +kernel
  exact ⟨hp, (exchange_agrees_iff hp).mpr (sizeFits_some.mpr (Or.inl (by decide)))⟩

/-- `2^32` characters. -/
def longPayload : CStr := List.replicate (2 ^ 32) 'a'

lemma zero_notMem_longPayload : 0 ∉ textBytes longPayload := by
  intro h
  obtain ⟨c, hc, hbyte⟩ := List.mem_map.mp h
  rw [List.eq_of_mem_replicate hc] at hbyte
  exact absurd hbyte (by decide)

/-- The long payload has the size 1 and arrives empty. -/
theorem exchange_loses_payload :
    (∀ p ∈ some longPayload, 0 ∉ textBytes p) ∧
      (clientRequest CommandType.status.code (some longPayload) 0).payloadSize = 1 ∧
      (clientRequest CommandType.status.code (some longPayload) 0).payload.text = [] ∧
      ¬ ExchangeAgrees (ipcServerInit 3 0) CommandType.status.code (some longPayload) 0 0 := by
  have hp : ∀ p ∈ some longPayload, 0 ∉ textBytes p :=
    fun _ hp => Option.some.inj hp ▸ zero_notMem_longPayload
  have hlen : longPayload.length = 2 ^ 32 := List.length_replicate
  have hsize : clientPayloadSize longPayload = 1 := by
    rw [← UInt32.toNat_inj, clientPayloadSize_toNat, hlen]
    decide
  have hcut : ((1 : UInt32) - 1).toNat = 0 := rfl
  rw [clientRequest_payloadSize, clientRequest_payload, hsize, hcut, List.take_zero]
  refine ⟨hp, rfl, Buf.text_ofBytes List.not_mem_nil, fun h => ?_⟩
  have hfits := sizeFits_some.mp ((requestOk_iff hp).mp (exchangeAgrees_iff_request.mp h))
  rw [hlen] at hfits
  exact absurd hfits (by decide)

/-! ## The steps of a call -/

section Steps

variable {w : Net} {c : ℕ} {i : Fin ipcMaxClients} {fd now served : ℤ} {cmd : CommandType}
  {payload : Option CStr}

/-- A call that meets no other, and whose reads deliver everything, is an exchange with the server
that has just accepted it. -/
theorem exchange_of_run (hpc : w.pc = .loop) (hnew : w.conns c = none)
    (hlisten : w.listening = true) (hfd : FreshFd w.server (some fd))
    (hfree : w.server.freeSlot = some i) :
    ∃ w' k e, run netStep w ([.call c cmd payload now, .write c requestSize, .accept c fd now] ++
        [.read c i requestSize served, .answer, .close, .recv c responseSize]) = some w' ∧
      w'.conns c = some k ∧
      exchange (ipcAcceptClient w.server (some fd) now).1 cmd.code payload now served = some e ∧
      k.result = some e.result ∧ w'.server = e.server.release i := by
  obtain ⟨w', k, hrun, hk, -, hresult, hserver⟩ :=
    run_whole hpc hnew hlisten hfd hfree cmd payload now served
  exact ⟨w', k, _, hrun, hk, exchange_eq _ _ _ _ _, hresult, hserver⟩

end Steps

end Storage

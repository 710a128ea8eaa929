import StorageManager.Lib.Bytes
import StorageManager.Lib.CString

/-!
# Requests and responses

`request_t` and `response_t` of `ipc_server.h`, their image on the socket, and the two ends that
produce and consume them: `send_command` of the command line tool and `ipc_read_request` of the
server.  Both ends transfer a structure with one `read` and accept it only when that call returned
the whole of it, so `ipcReadRequest` and `clientReadResponse` are partial in the bytes they get.

`request_roundtrip` and `response_roundtrip` say that a structure that arrives whole is the one
that was sent.
-/

namespace Storage

open CString Bytes

/-- `IPC_PROTOCOL_VERSION`. -/
def ipcProtocolVersion : UInt32 := 1

/-- `IPC_MAX_PAYLOAD_SIZE`. -/
def ipcMaxPayloadSize : ℕ := 8192

/-- `command_type_t`. -/
inductive CommandType
  | status
  | raidCreate
  | raidStatus
  | raidAddDisk
  | raidRemoveDisk
  | raidFailDisk
  | lvmPvCreate
  | lvmVgCreate
  | lvmLvCreate
  | lvmLvExtend
  | lvmSnapshot
  | fsCreate
  | fsMount
  | fsUnmount
  | fsCheck
  | backupCreate
  | backupList
  | backupRestore
  | monitorStats
  | monitorStart
  | monitorStop
  | perfBenchmark
  | perfTune
  | shutdown
  deriving DecidableEq, Repr

namespace CommandType

/-- The enumerators in the order of the header, which gives their values. -/
def all : List CommandType :=
  [.status, .raidCreate, .raidStatus, .raidAddDisk, .raidRemoveDisk, .raidFailDisk, .lvmPvCreate,
    .lvmVgCreate, .lvmLvCreate, .lvmLvExtend, .lvmSnapshot, .fsCreate, .fsMount, .fsUnmount,
    .fsCheck, .backupCreate, .backupList, .backupRestore, .monitorStats, .monitorStart,
    .monitorStop, .perfBenchmark, .perfTune, .shutdown]

/-- The value of the enumerator. -/
def code (c : CommandType) : UInt32 := UInt32.ofNat (all.idxOf c)

/-- The enumerator a received value stands for.  Nothing checks a value before it is used. -/
def ofCode (n : UInt32) : Option CommandType := all[n.toNat]?

lemma ofCode_code (c : CommandType) : ofCode c.code = some c := by
  cases c <;> decide

/-- An enumerator has one value. -/
lemma ofCode_eq_some_iff {n : UInt32} {c : CommandType} : ofCode n = some c ↔ n = c.code := by
  constructor
  · intro h
    obtain ⟨hlt, hget⟩ := List.getElem?_eq_some_iff.mp h
    have hnodup : all.Nodup := by decide
    rw [code, ← hget, hnodup.idxOf_getElem, UInt32.ofNat_toNat]
  · rintro rfl
    exact ofCode_code c

end CommandType

/-- `status_code_t`. -/
inductive StatusCode
  | ok
  | error
  | invalidCommand
  | permissionDenied
  | deviceNotFound
  | operationFailed
  | busy
  | timeout
  deriving DecidableEq, Repr

/-- The value of the enumerator. -/
def StatusCode.code : StatusCode → Int32
  | .ok => 0
  | .error => -1
  | .invalidCommand => -2
  | .permissionDenied => -3
  | .deviceNotFound => -4
  | .operationFailed => -5
  | .busy => -6
  | .timeout => -7

/-- `request_t`.  The command is the received value, whether or not it is an enumerator. -/
structure Request where
  version : UInt32
  requestId : UInt32
  command : UInt32
  payloadSize : UInt32
  payload : Buf ipcMaxPayloadSize

/-- `response_t`. -/
structure Response where
  requestId : UInt32
  status : Int32
  errorMsg : Buf 256
  dataSize : UInt32
  data : Buf ipcMaxPayloadSize

/-- `sizeof (request_t)`. -/
def requestSize : ℕ := 16 + ipcMaxPayloadSize

/-- `sizeof (response_t)`. -/
def responseSize : ℕ := 12 + 256 + ipcMaxPayloadSize

/-! ## On the socket -/

/-- The bytes of a `request_t` as they are written to the socket. -/
def Request.encode (r : Request) : List Byte :=
  wordBytes r.version ++ (wordBytes r.requestId ++ (wordBytes r.command ++
    (wordBytes r.payloadSize ++ (r.payload.toList ++ []))))

/-- The `request_t` that is read from them. -/
def Request.decode (bs : List Byte) : Request :=
  let (version, bs) := readWord bs
  let (requestId, bs) := readWord bs
  let (command, bs) := readWord bs
  let (payloadSize, bs) := readWord bs
  let (payload, _) := readBuf ipcMaxPayloadSize bs
  ⟨version, requestId, command, payloadSize, payload⟩

/-- The bytes of a `response_t` as they are written to the socket. -/
def Response.encode (r : Response) : List Byte :=
  wordBytes r.requestId ++ (wordBytes r.status.toUInt32 ++ (r.errorMsg.toList ++
    (wordBytes r.dataSize ++ (r.data.toList ++ []))))

/-- The `response_t` that is read from them. -/
def Response.decode (bs : List Byte) : Response :=
  let (requestId, bs) := readWord bs
  let (status, bs) := readWord bs
  let (errorMsg, bs) := readBuf 256 bs
  let (dataSize, bs) := readWord bs
  let (data, _) := readBuf ipcMaxPayloadSize bs
  ⟨requestId, .ofUInt32 status, errorMsg, dataSize, data⟩

lemma Request.length_encode (r : Request) : r.encode.length = requestSize := by
  simp only [Request.encode, List.length_append, length_wordBytes, List.Vector.toList_length,
    List.length_nil, requestSize]
  omega

lemma Response.length_encode (r : Response) : r.encode.length = responseSize := by
  simp only [Response.encode, List.length_append, length_wordBytes, List.Vector.toList_length,
    List.length_nil, responseSize]
  omega

lemma Request.decode_encode (r : Request) : Request.decode r.encode = r := by
  simp only [Request.decode, Request.encode, readWord_wordBytes, readBuf_toList]

lemma Response.decode_encode (r : Response) : Response.decode r.encode = r := by
  simp only [Response.decode, Response.encode, readWord_wordBytes, readBuf_toList]

/-- `ipc_read_request`, given what its one `read` delivered. -/
def ipcReadRequest (bs : List Byte) : Option Request :=
  if bs.length = requestSize then some (.decode bs) else none

/-- The `read` of `send_command`, given what it delivered. -/
def clientReadResponse (bs : List Byte) : Option Response :=
  if bs.length = responseSize then some (.decode bs) else none

/-- The server reads the request that the client has written. -/
theorem request_roundtrip (r : Request) : ipcReadRequest r.encode = some r := by
  rw [ipcReadRequest, if_pos r.length_encode, r.decode_encode]

/-- The client reads the response that the server has written. -/
theorem response_roundtrip (r : Response) : clientReadResponse r.encode = some r := by
  rw [clientReadResponse, if_pos r.length_encode, r.decode_encode]

/-! ## The client -/

/-- A text as the bytes of its characters. -/
def textBytes (s : CStr) : List Byte := s.map fun c => UInt8.ofNat c.toNat

/-- `payload_size` in `send_command`: the length goes to 32 bits before it is compared. -/
def clientPayloadSize (payload : CStr) : UInt32 :=
  let size := UInt32.ofNat (payload.length + 1)
  if ipcMaxPayloadSize < size.toNat then UInt32.ofNat ipcMaxPayloadSize else size

/-- The request `send_command` makes at time `now`, for any value of `cmd`.  The bound of the
`strncpy` is unsigned, too: with a `payload_size` of 0 it writes to the end of the array and on. -/
def clientRequest (cmd : UInt32) (payload : Option CStr) (now : ℤ) : Request :=
  let size := (payload.map clientPayloadSize).getD 0
  { version := ipcProtocolVersion
    requestId := UInt32.ofInt now
    command := cmd
    payloadSize := size
    payload := .ofBytes _ ((textBytes (payload.getD [])).take (size - 1).toNat) }

/-- The request for one of the commands. -/
def sendCommandRequest (cmd : CommandType) (payload : Option CStr) (now : ℤ) : Request :=
  clientRequest cmd.code payload now

/-- What `send_command` returns, and what it prints about the response. -/
structure SendResult where
  ret : ℤ
  out : List Byte
  err : List Byte
  deriving DecidableEq

/-- The end of `send_command`; `none` is a `read` that did not return a whole response. -/
def sendCommandResult : Option Response → SendResult
  | none => ⟨-1, [], []⟩
  | some r =>
      if r.status = StatusCode.ok.code then
        if 0 < r.dataSize.toNat ∧ r.dataSize.toNat ≤ ipcMaxPayloadSize then
          ⟨0, r.data.text ++ textBytes ['\n'], []⟩
        else ⟨0, textBytes "OK\n".toList, []⟩
      else ⟨-1, [], textBytes "Error: ".toList ++ r.errorMsg.text ++ textBytes ['\n']⟩

lemma sendCommandResult_ret (r : Response) :
    (sendCommandResult (some r)).ret = 0 ↔ r.status = StatusCode.ok.code := by
  simp only [sendCommandResult]
  split_ifs with h <;> simp [h]

end Storage

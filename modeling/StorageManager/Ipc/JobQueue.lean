import StorageManager.Ipc.Messages
import StorageManager.Lib.Machine

/-!
# The job queue

`ipc_mq_send_job` and `ipc_mq_receive_job` pass a `job_message_t` through a System V message queue
that every process finds under the same key.  A job goes out with its priority as the message type
and comes back by `msgrcv` with type 0, which is the oldest message whatever its type is.

The model runs any number of processes that open the queue, send, receive and remove it, their
calls in any order.  A call that has to sleep is a step that cannot be taken yet.  Beside the
system it keeps, per queue identifier, the jobs whose sending was reported to have succeeded, the
jobs that were handed out, and which identifiers were removed.

* `jobs_received_in_order` — what was handed out is what was sent first, in that order and byte
  for byte; the rest waits in the queue, unless somebody removed it.
-/

namespace Storage

open Bytes Machine

/-- `job_message_t`. -/
structure JobMessage where
  command : UInt32
  params : Buf 512
  priority : Int32
  queuedAt : Int64

/-- `sizeof (job_message_t)`. -/
def jobSize : ℕ := 528

namespace JobMessage

/-- The bytes of a `job_message_t`, member by member. -/
def encode (j : JobMessage) : List Byte :=
  wordBytes j.command ++ (j.params.toList ++ (wordBytes j.priority.toUInt32 ++
    (dwordBytes j.queuedAt.toUInt64 ++ [])))

/-- The members that `msgrcv` fills from the bytes. -/
def decode (bs : List Byte) : JobMessage :=
  let (command, bs) := readWord bs
  let (params, bs) := readBuf 512 bs
  let (priority, bs) := readWord bs
  let (queuedAt, _) := readDword bs
  ⟨command, params, .ofUInt32 priority, .ofUInt64 queuedAt⟩

lemma length_encode (j : JobMessage) : j.encode.length = jobSize := by
  simp only [encode, List.length_append, length_wordBytes, length_dwordBytes,
    List.Vector.toList_length, List.length_nil, jobSize]

lemma decode_encode (j : JobMessage) : decode j.encode = j := by
  simp only [decode, encode, readWord_wordBytes, readBuf_toList, readDword_dwordBytes]

end JobMessage

/-! ## The kernel's queue -/

/-- A message as `msgsnd` takes it. -/
structure SysvMsg where
  type : ℤ
  text : List Byte

/-- A queue of the kernel: its identifier and its messages, the oldest first. -/
structure MsgQueue where
  id : ℕ
  messages : List SysvMsg

/-- The queue under the key of `ftok ("/tmp", 'S')`, the identifiers given out so far, and
`msg_queue_id` of each process. -/
structure JobSystem where
  queue : Option MsgQueue
  ids : ℕ
  queueId : ℕ → ℤ

namespace JobSystem

/-- `msg_queue_id` of process `p` is set. -/
def setId (s : JobSystem) (p : ℕ) (id : ℤ) : JobSystem :=
  { s with queueId := Function.update s.queueId p id }

/-- The queue has these messages. -/
def setMessages (s : JobSystem) (q : MsgQueue) (ms : List SysvMsg) : JobSystem :=
  { s with queue := some { q with messages := ms } }

/-- The queue with this identifier, if it is still there. -/
def lookup (s : JobSystem) (id : ℤ) : Option MsgQueue := s.queue.filter fun q => (q.id : ℤ) = id

/-- `msgget (key, IPC_CREAT)`. -/
def msgget (s : JobSystem) : JobSystem × ℤ :=
  match s.queue with
  | some q => (s, q.id)
  | none => ({ s with queue := some ⟨s.ids, []⟩, ids := s.ids + 1 }, s.ids)

/-- `msgsnd` without `IPC_NOWAIT`, on queues of `qbytes` bytes; `none` is a caller that sleeps, and
`signal` interrupts one that would. -/
def msgsnd (s : JobSystem) (qbytes : ℕ) (id : ℤ) (m : SysvMsg) (signal : Bool) :
    Option (JobSystem × ℤ) :=
  if m.type < 1 then some (s, -1)
  else
    match s.lookup id with
    | none => some (s, -1)
    | some q =>
        if (q.messages.map (·.text.length)).sum + m.text.length ≤ qbytes then
          some (s.setMessages q (q.messages ++ [m]), 0)
        else if signal then some (s, -1)
        else none

/-- `msgrcv` with type 0.  A message that is longer than asked for stays in the queue. -/
def msgrcv (s : JobSystem) (id : ℤ) (size : ℕ) (nowait signal : Bool) :
    Option (JobSystem × Option (List Byte)) :=
  match s.lookup id with
  | none => some (s, none)
  | some q =>
      match q.messages with
      | [] => if nowait || signal then some (s, none) else none
      | m :: ms => if size < m.text.length then some (s, none)
          else some (s.setMessages q ms, some m.text)

/-- `msgctl (id, IPC_RMID)`. -/
def msgctlRmid (s : JobSystem) (id : ℤ) : JobSystem :=
  match s.lookup id with
  | none => s
  | some _ => { s with queue := none }

end JobSystem

/-! ## The functions of the server -/

/-- `ipc_mq_init`; `ftok` and `get` are whether the two calls succeed.  A `msgget` that fails
leaves -1 in `msg_queue_id`. -/
def ipcMqInit (s : JobSystem) (p : ℕ) (ftok get : Bool) : JobSystem × ℤ :=
  if ftok then
    if get then (s.msgget.1.setId p s.msgget.2, 0) else (s.setId p (-1), -1)
  else (s, -1)

/-- `ipc_mq_cleanup`. -/
def ipcMqCleanup (s : JobSystem) (p : ℕ) : JobSystem :=
  if 0 ≤ s.queueId p then (s.msgctlRmid (s.queueId p)).setId p (-1) else s

/-- `ipc_mq_send_job`. -/
def ipcMqSendJob (s : JobSystem) (qbytes p : ℕ) (job : JobMessage) (signal : Bool) :
    Option (JobSystem × ℤ) :=
  if s.queueId p < 0 then some (s, -1)
  else s.msgsnd qbytes (s.queueId p) ⟨job.priority.toInt, job.encode⟩ signal

/-- `ipc_mq_receive_job`; `none` for the job is a return value of -1. -/
def ipcMqReceiveJob (s : JobSystem) (p : ℕ) (wait signal : Bool) :
    Option (JobSystem × Option JobMessage) :=
  if s.queueId p < 0 then some (s, none)
  else (s.msgrcv (s.queueId p) jobSize (!wait) signal).map fun r => (r.1, r.2.map .decode)

/-! ## Runs -/

/-- The system with its record: per identifier the jobs accepted and the jobs handed out, and the
identifiers that were removed. -/
structure JobRun where
  sys : JobSystem
  sent : ℤ → List JobMessage
  received : ℤ → List JobMessage
  removed : List ℤ

/-- A call of one of the four functions by process `p`; the Booleans are what the system calls in it
come to. -/
inductive JobAct
  | init (p : ℕ) (ftok get : Bool)
  | cleanup (p : ℕ)
  | send (p : ℕ) (job : JobMessage) (signal : Bool)
  | receive (p : ℕ) (wait signal : Bool)

/-- `l` with the entry of `id` extended. -/
def extend (l : ℤ → List JobMessage) (id : ℤ) (js : List JobMessage) : ℤ → List JobMessage :=
  Function.update l id (l id ++ js)

@[simp] lemma extend_nil (l : ℤ → List JobMessage) (id : ℤ) : extend l id [] = l := by
  simp [extend]

lemma extend_self (l : ℤ → List JobMessage) (id : ℤ) (js : List JobMessage) :
    extend l id js id = l id ++ js := Function.update_self _ _ _

lemma extend_of_ne {l : ℤ → List JobMessage} {id id' : ℤ} {js : List JobMessage} (h : id' ≠ id) :
    extend l id js id' = l id' := Function.update_of_ne h _ _

/-- One call, with the jobs it accepts or hands out put on record. -/
def jobStep (qbytes : ℕ) (s : JobRun) : JobAct → Option JobRun
  | .init p ftok get => some { s with sys := (ipcMqInit s.sys p ftok get).1 }
  | .cleanup p => some { s with
      sys := ipcMqCleanup s.sys p
      removed := s.sys.queueId p :: s.removed }
  | .send p job signal =>
      (ipcMqSendJob s.sys qbytes p job signal).map fun (r : JobSystem × ℤ) => { s with
        sys := r.1
        sent := extend s.sent (s.sys.queueId p) (if r.2 = 0 then [job] else []) }
  | .receive p wait signal =>
      (ipcMqReceiveJob s.sys p wait signal).map fun r => { s with
        sys := r.1
        received := extend s.received (s.sys.queueId p) r.2.toList }

/-- Before any process has opened the queue. -/
def jobInit (s : JobRun) : Prop :=
  s.sys = ⟨none, 0, fun _ => -1⟩ ∧ (∀ id, s.sent id = [] ∧ s.received id = []) ∧ s.removed = []

/-- The jobs that wait in the queue with this identifier. -/
def JobSystem.waiting (s : JobSystem) (id : ℤ) : List JobMessage :=
  match s.lookup id with
  | none => []
  | some q => q.messages.map (JobMessage.decode ·.text)

/-! ## What the calls can do -/

section Calls

variable {s s' : JobSystem} {q : MsgQueue} {id : ℤ}

lemma lookup_eq_some : s.lookup id = some q ↔ s.queue = some q ∧ (q.id : ℤ) = id := by
  simp [JobSystem.lookup, Option.filter_eq_some_iff]

lemma waiting_of_queue (hq : s.queue = some q) (id : ℤ) :
    s.waiting id = if (q.id : ℤ) = id then q.messages.map (JobMessage.decode ·.text) else [] := by
  unfold JobSystem.waiting JobSystem.lookup
  rw [hq]
  by_cases hid : (q.id : ℤ) = id <;> simp [Option.filter, hid]

lemma waiting_of_gone (hq : s.queue = none) (id : ℤ) : s.waiting id = [] := by
  simp [JobSystem.waiting, JobSystem.lookup, hq]

lemma msgget_of_queue (hq : s.queue = some q) : s.msgget = (s, (q.id : ℤ)) := by
  simp only [JobSystem.msgget, hq]

lemma msgget_of_gone (hq : s.queue = none) :
    s.msgget = ({ s with queue := some ⟨s.ids, []⟩, ids := s.ids + 1 }, (s.ids : ℤ)) := by
  simp only [JobSystem.msgget, hq]

/-- A send either puts the message behind the others and returns 0, or returns -1 and does
nothing. -/
lemma msgsnd_cases {qbytes : ℕ} {m : SysvMsg} {signal : Bool} {r : ℤ}
    (h : s.msgsnd qbytes id m signal = some (s', r)) :
    (r = -1 ∧ s' = s) ∨
      ∃ q, s.lookup id = some q ∧ 1 ≤ m.type ∧ r = 0 ∧
        s' = s.setMessages q (q.messages ++ [m]) := by
  unfold JobSystem.msgsnd at h
  by_cases htype : m.type < 1
  · simp_all
  rw [if_neg htype] at h
  cases hq : s.lookup id with
  | none => simp_all
  | some q =>
      simp only [hq] at h
      split_ifs at h
      · simp only [Option.some.injEq, Prod.mk.injEq] at h
        exact Or.inr ⟨q, rfl, by omega, h.2.symm, h.1.symm⟩
      · simp_all

/-- A receive either takes the oldest message, or returns -1 and does nothing. -/
lemma msgrcv_cases {size : ℕ} {nowait signal : Bool} {r : Option (List Byte)}
    (h : s.msgrcv id size nowait signal = some (s', r)) :
    (r = none ∧ s' = s) ∨
      ∃ q m ms, s.lookup id = some q ∧ q.messages = m :: ms ∧ r = some m.text ∧
        s' = s.setMessages q ms := by
  unfold JobSystem.msgrcv at h
  cases hq : s.lookup id with
  | none => simp_all
  | some q =>
      simp only [hq] at h
      cases hms : q.messages with
      | nil =>
          simp only [hms] at h
          split_ifs at h
          simp_all
      | cons m ms =>
          simp only [hms] at h
          split_ifs at h
          · simp_all
          · simp only [Option.some.injEq, Prod.mk.injEq] at h
            exact Or.inr ⟨q, m, ms, rfl, hms, h.2.symm, h.1.symm⟩

/-- Whatever identifier the process holds, no queue has it afterwards, and no other queue goes. -/
lemma ipcMqCleanup_queue (s : JobSystem) (p : ℕ) :
    (ipcMqCleanup s p).queue = s.queue.filter fun q => (q.id : ℤ) ≠ s.queueId p := by
  unfold ipcMqCleanup JobSystem.msgctlRmid JobSystem.lookup
  cases hq : s.queue with
  | none => split_ifs <;> simp [JobSystem.setId, hq]
  | some q =>
      by_cases hid : (q.id : ℤ) = s.queueId p
      · rw [if_pos (by omega)]
        simp [JobSystem.setId, Option.filter, hid]
      · split_ifs <;> simp [JobSystem.setId, Option.filter, hq, hid]

lemma ipcMqCleanup_ids (s : JobSystem) (p : ℕ) : (ipcMqCleanup s p).ids = s.ids := by
  unfold ipcMqCleanup JobSystem.msgctlRmid
  split_ifs
  · cases s.lookup (s.queueId p) <;> rfl
  · rfl

lemma ipcMqCleanup_queueId_le (s : JobSystem) (p p' : ℕ) :
    (ipcMqCleanup s p).queueId p' = s.queueId p' ∨ (ipcMqCleanup s p).queueId p' = -1 := by
  unfold ipcMqCleanup JobSystem.msgctlRmid
  split_ifs
  · by_cases hp : p' = p
    · exact Or.inr (by simp [JobSystem.setId, hp])
    · left
      cases s.lookup (s.queueId p) <;> simp [JobSystem.setId, hp]
  · exact Or.inl rfl

end Calls

/-! ## Every run -/

/-- The invariant: per identifier, the jobs accepted are those handed out followed by those waiting,
as long as the queue is there. -/
structure JobsOk (s : JobRun) : Prop where
  live : ∀ q, s.sys.queue = some q → q.id < s.sys.ids ∧ (q.id : ℤ) ∉ s.removed
  known : ∀ p, s.sys.queueId p < s.sys.ids
  fresh : ∀ n, s.sys.ids ≤ n → (n : ℤ) ∉ s.removed ∧ s.sent n = [] ∧ s.received n = []
  account : ∀ id, ∃ rest, s.sent id = s.received id ++ rest ∧
    (id ∉ s.removed → rest = s.sys.waiting id)
  priority : ∀ id, ∀ job ∈ s.sent id, 1 ≤ job.priority.toInt

namespace JobsOk

variable {s : JobRun} {p : ℕ} {q : MsgQueue}

/-- Opening the queue again changes nothing but the identifier the process holds. -/
lemma setId (h : JobsOk s) {id : ℤ} (hid : id < s.sys.ids) :
    JobsOk { s with sys := s.sys.setId p id } where
  live := h.live
  known := fun p' => by
    by_cases hp : p' = p
    · simpa [JobSystem.setId, hp] using hid
    · simpa [JobSystem.setId, hp] using h.known p'
  fresh := h.fresh
  account := h.account
  priority := h.priority

/-- A new queue is empty, and nothing was ever sent to its identifier. -/
lemma create (h : JobsOk s) (hnone : s.sys.queue = none) :
    JobsOk { s with
      sys := { s.sys with queue := some ⟨s.sys.ids, []⟩, ids := s.sys.ids + 1 } } where
  live := by
    rintro q ⟨rfl⟩
    exact ⟨Nat.lt_succ_self _, (h.fresh _ le_rfl).1⟩
  known := fun p' => (h.known p').trans (Int.ofNat_lt.mpr (Nat.lt_succ_self _))
  fresh := fun n hn => h.fresh n (by simp only at hn; omega)
  account := fun id => by
    obtain ⟨rest, hsent, hrest⟩ := h.account id
    refine ⟨rest, hsent, fun hid => ?_⟩
    rw [hrest hid, waiting_of_gone hnone, waiting_of_queue rfl]
    simp
  priority := h.priority

lemma init (h : JobsOk s) (ftok get : Bool) :
    JobsOk { s with sys := (ipcMqInit s.sys p ftok get).1 } := by
  unfold ipcMqInit
  cases ftok with
  | false => exact h
  | true =>
      cases get with
      | false => exact h.setId (by omega)
      | true =>
          cases hq : s.sys.queue with
          | some q =>
              rw [msgget_of_queue hq]
              exact h.setId (Int.ofNat_lt.mpr (h.live q hq).1)
          | none =>
              rw [msgget_of_gone hq]
              exact (h.create hq).setId (Int.ofNat_lt.mpr (Nat.lt_succ_self _))

lemma cleanup (h : JobsOk s) :
    JobsOk { s with
      sys := ipcMqCleanup s.sys p
      removed := s.sys.queueId p :: s.removed } where
  live := fun q hq => by
    simp only [ipcMqCleanup_queue, Option.filter_eq_some_iff, decide_eq_true_eq] at hq
    obtain ⟨hlt, hkept⟩ := h.live q hq.1
    exact ⟨by rwa [ipcMqCleanup_ids], by simp [hq.2, hkept]⟩
  known := fun p' => by
    have hknown := h.known p'
    simp only [ipcMqCleanup_ids]
    rcases ipcMqCleanup_queueId_le s.sys p p' with heq | heq <;> omega
  fresh := fun n hn => by
    simp only [ipcMqCleanup_ids] at hn
    obtain ⟨hkept, hlists⟩ := h.fresh n hn
    have hne : (n : ℤ) ≠ s.sys.queueId p := by
      have := h.known p
      omega
    exact ⟨by simp [hne, hkept], hlists⟩
  account := fun id => by
    obtain ⟨rest, hsent, hrest⟩ := h.account id
    refine ⟨rest, hsent, fun hid => ?_⟩
    obtain ⟨hne, hid⟩ := not_or.mp (List.mem_cons.not.mp hid)
    rw [hrest hid]
    -- the queue that goes, if one does, is not the one with this identifier
    cases hq : s.sys.queue with
    | none => rw [waiting_of_gone hq, waiting_of_gone (by rw [ipcMqCleanup_queue, hq]; rfl)]
    | some q =>
        rw [waiting_of_queue hq]
        by_cases hqid : (q.id : ℤ) = s.sys.queueId p
        · rw [waiting_of_gone (by rw [ipcMqCleanup_queue, hq]; simp [hqid]), hqid,
            if_neg (Ne.symm hne)]
        · have hkept : (ipcMqCleanup s.sys p).queue = some q := by
            rw [ipcMqCleanup_queue, hq]
            simp [Option.filter, hqid]
          rw [waiting_of_queue hkept]
  priority := h.priority

/-- Replacing the messages of the queue keeps the identifiers. -/
lemma setMessages (h : JobsOk s) (hq : s.sys.queue = some q) {ms : List SysvMsg}
    {sent received : ℤ → List JobMessage}
    (hother : ∀ id : ℤ, id ≠ q.id → sent id = s.sent id ∧ received id = s.received id)
    (haccount : ∀ rest, s.sent q.id = s.received q.id ++ rest →
      rest = q.messages.map (JobMessage.decode ·.text) →
      sent q.id = received q.id ++ ms.map (JobMessage.decode ·.text))
    (hpriority : ∀ job ∈ sent q.id, 1 ≤ job.priority.toInt) :
    JobsOk { s with sys := s.sys.setMessages q ms, sent := sent, received := received } where
  live := by
    rintro q' ⟨rfl⟩
    exact h.live q hq
  known := h.known
  fresh := fun n hn => by
    have hne : (n : ℤ) ≠ q.id := by
      have := (h.live q hq).1
      simp only [JobSystem.setMessages] at hn
      omega
    simp only [(hother n hne).1, (hother n hne).2]
    exact h.fresh n hn
  account := fun id => by
    obtain ⟨rest, hsent, hrest⟩ := h.account id
    rw [waiting_of_queue hq] at hrest
    have hnow := waiting_of_queue (s := s.sys.setMessages q ms) rfl id
    by_cases hid : id = q.id
    · subst hid
      refine ⟨ms.map (JobMessage.decode ·.text), ?_, fun _ => by rw [hnow, if_pos rfl]⟩
      exact haccount rest hsent (by rw [hrest (h.live q hq).2, if_pos rfl])
    · refine ⟨rest, by simpa only [hother id hid] using hsent, fun hkept => ?_⟩
      rw [hrest hkept, hnow, if_neg (Ne.symm hid), if_neg (Ne.symm hid)]
  priority := fun id => by
    by_cases hid : id = q.id
    · exact hid ▸ hpriority
    · simpa only [hother id hid] using h.priority id

lemma send (h : JobsOk s) {qbytes : ℕ} {job : JobMessage} {signal : Bool} {sys : JobSystem} {r : ℤ}
    (hs : ipcMqSendJob s.sys qbytes p job signal = some (sys, r)) :
    JobsOk { s with
      sys := sys
      sent := extend s.sent (s.sys.queueId p) (if r = 0 then [job] else []) } := by
  have hrefused : JobsOk { s with
      sys := s.sys
      sent := extend s.sent (s.sys.queueId p) (if (-1 : ℤ) = 0 then [job] else []) } := by
    rw [if_neg (by omega), extend_nil]
    exact h
  unfold ipcMqSendJob at hs
  split_ifs at hs
  · simp only [Option.some.injEq, Prod.mk.injEq] at hs
    obtain ⟨rfl, rfl⟩ := hs
    exact hrefused
  rcases msgsnd_cases hs with ⟨rfl, rfl⟩ | ⟨q, hq, htype, rfl, rfl⟩
  · exact hrefused
  · obtain ⟨hq, hid⟩ := lookup_eq_some.mp hq
    rw [← hid, if_pos rfl]
    refine h.setMessages hq (fun id hne => ⟨extend_of_ne hne, rfl⟩) (fun rest hsent hrest => ?_)
      fun job' hjob => ?_
    · rw [extend_self, hsent, hrest, List.map_append, List.append_assoc, List.map_singleton,
        JobMessage.decode_encode]
    · rw [extend_self, List.mem_append, List.mem_singleton] at hjob
      rcases hjob with hjob | rfl
      · exact h.priority _ job' hjob
      · exact htype

lemma receive (h : JobsOk s) {wait signal : Bool} {sys : JobSystem} {r : Option JobMessage}
    (hs : ipcMqReceiveJob s.sys p wait signal = some (sys, r)) :
    JobsOk { s with
      sys := sys
      received := extend s.received (s.sys.queueId p) r.toList } := by
  have hrefused : JobsOk { s with
      sys := s.sys, received := extend s.received (s.sys.queueId p) (none : Option _).toList } := by
    rw [Option.toList_none, extend_nil]
    exact h
  unfold ipcMqReceiveJob at hs
  split_ifs at hs
  · simp only [Option.some.injEq, Prod.mk.injEq] at hs
    obtain ⟨rfl, rfl⟩ := hs
    exact hrefused
  obtain ⟨⟨sys', text⟩, hrcv, heq⟩ := Option.map_eq_some_iff.mp hs
  simp only [Prod.mk.injEq] at heq
  obtain ⟨rfl, rfl⟩ := heq
  rcases msgrcv_cases hrcv with ⟨rfl, rfl⟩ | ⟨q, m, ms, hq, hms, rfl, rfl⟩
  · exact hrefused
  · obtain ⟨hq, hid⟩ := lookup_eq_some.mp hq
    rw [← hid]
    refine h.setMessages hq (fun id hne => ⟨rfl, extend_of_ne hne⟩) (fun rest hsent hrest => ?_)
      (h.priority _)
    rw [extend_self, hsent, hrest, hms]
    simp

end JobsOk

lemma jobsOk_step {qbytes : ℕ} {s s' : JobRun} {a : JobAct} (h : JobsOk s)
    (hs : jobStep qbytes s a = some s') : JobsOk s' := by
  cases a with
  | init p ftok get =>
      rw [jobStep, Option.some.injEq] at hs
      exact hs ▸ h.init ftok get
  | cleanup p =>
      rw [jobStep, Option.some.injEq] at hs
      exact hs ▸ h.cleanup
  | send p job signal =>
      obtain ⟨⟨sys, r⟩, hsend, rfl⟩ := Option.map_eq_some_iff.mp hs
      exact h.send hsend
  | receive p wait signal =>
      obtain ⟨⟨sys, r⟩, hreceive, rfl⟩ := Option.map_eq_some_iff.mp hs
      exact h.receive hreceive

lemma jobsOk_of_reach {qbytes : ℕ} {s : JobRun} (h : Reach jobInit (jobStep qbytes) anyStep s) :
    JobsOk s := by
  refine h.invariant ?_ fun _ _ _ hI _ hs => jobsOk_step hI hs
  rintro ⟨sys, sent, received, removed⟩ ⟨rfl, hlists, rfl⟩
  simp only at hlists
  exact {
    live := fun q hq => absurd hq (by simp)
    known := fun p => by simp
    fresh := fun n _ => ⟨List.not_mem_nil, hlists n⟩
    account := fun id => ⟨[], by simp [hlists], fun _ => (waiting_of_gone rfl id).symm⟩
    priority := fun id job hjob => absurd hjob (by simp [hlists]) }

/-- **First in, first out.**  However the calls of the processes interleave, the jobs handed out
under an identifier are the first ones accepted under it, in the order of their acceptance and
unchanged, and the others wait in the queue unless it was removed.  The priorities decide only
whether a job is accepted at all. -/
theorem jobs_received_in_order {qbytes : ℕ} {s : JobRun}
    (h : Reach jobInit (jobStep qbytes) anyStep s) (id : ℤ) :
    (∃ rest, s.sent id = s.received id ++ rest ∧
      (id ∉ s.removed → rest = s.sys.waiting id)) ∧
    ∀ job ∈ s.sent id, 1 ≤ job.priority.toInt :=
  ⟨(jobsOk_of_reach h).account id, (jobsOk_of_reach h).priority id⟩

/-- A job with nothing in it but its priority. -/
def plainJob (priority : Int32) : JobMessage := ⟨0, .ofBytes 512 [], priority, 0⟩

/-- No queue, and no process has an identifier. -/
def emptyJobs : JobRun := ⟨⟨none, 0, fun _ => -1⟩, fun _ => [], fun _ => [], []⟩

/-- Process 0 sends a job of priority 1, then one of priority 9; process 1 takes one. -/
def urgentJobLast : List JobAct :=
  [.init 0 true true, .init 1 true true, .send 0 (plainJob 1) false, .send 0 (plainJob 9) false,
    .receive 1 true false]

/-- The urgent job waits. -/
theorem jobs_received_in_order_urgent :
    ∃ s, Reach jobInit (jobStep 16384) anyStep s ∧
      (s.received 0).map (·.priority) = [1] ∧ (s.sent 0).map (·.priority) = [1, 9] ∧
      ∃ rest, s.sent 0 = s.received 0 ++ rest ∧ (0 ∉ s.removed → rest = s.sys.waiting 0) := by
  have hrun : (run (jobStep 16384) emptyJobs urgentJobLast).map
      (fun s => ((s.received 0).map (·.priority), (s.sent 0).map (·.priority))) =
        some ([1], [1, 9]) := by
    decide +kernel
  obtain ⟨s, hs, hvals⟩ := Option.map_eq_some_iff.mp hrun
  rw [Prod.mk.injEq] at hvals
  have hstart : Reach jobInit (jobStep 16384) anyStep emptyJobs :=
    .start ⟨rfl, fun _ => ⟨rfl, rfl⟩, rfl⟩
  have hreach := hstart.of_run_any hs
  exact ⟨s, hreach, hvals.1, hvals.2, (jobs_received_in_order hreach 0).1⟩

end Storage

import WirelessHarness.Master.SlaveLink

/-!
# One call of `send_frame`

A processor's request goes out through the transfer task, up to four times,
and the bytes found in `rx_data_queue` are parsed as the reply.  Here the queue
holds raw bytes: whatever was left in it and whatever is received during the
call.
-/

namespace WirelessHarness

open CheckedRead

/-! ## Processing a reply -/

namespace ProcessBase

/-- `__rsp_process` on the bytes taken from `rx_data_queue`: `rsp_parsed`, the
static fields, and the processor after the virtual `process_rsp_data`. -/
def rspProcess {α : Type} (process_rsp_data : Statics → α → α)
    (expected_rsp_msg_id : UInt8) (rsp_data : Bytes) (st : Statics)
    (self : α) : Except OutOfRange (Bool × Statics × α) := do
  let (msg?, st) ← FrameParser.parse .master 0 rsp_data st
  match msg? with
  | some msg =>
      return (msg.rspParsed expected_rsp_msg_id st, st,
        process_rsp_data st self)
  | none => return (false, st, self)

section

variable {α : Type} (process_rsp_data : Statics → α → α)
  (expected_rsp_msg_id : UInt8) {rsp_data : Bytes} (st : Statics) (self : α)

theorem rspProcess_of_none
    (hsel : FrameParser.select .master 0 rsp_data = none) :
    rspProcess process_rsp_data expected_rsp_msg_id rsp_data st self =
      .ok (false, st, self) := by
  rw [rspProcess, FrameParser.parse_of_select_none hsel]
  rfl

theorem rspProcess_of_select {cls : MessageClass} {payload : Bytes}
    {fields : cls.Fields}
    (hsel : FrameParser.select .master 0 rsp_data = some (cls, payload))
    (hdes : deserializeInto cls payload st =
      .ok (Message.ofFields cls fields, st.store cls fields)) :
    rspProcess process_rsp_data expected_rsp_msg_id rsp_data st self =
      .ok ((Message.ofFields cls fields).rspParsed expected_rsp_msg_id
          (st.store cls fields),
        st.store cls fields,
        process_rsp_data (st.store cls fields) self) := by
  rw [rspProcess, FrameParser.parse_of_select hsel, hdes]
  rfl

end

end ProcessBase

/-- The class of the reply that a call waits for. -/
def ProcessorCall.replyClass : ProcessorCall → MessageClass
  | readCond _ => .slave2Backend .condDataMsg
  | condCfg _ _ => .slave2Master .condCfgMsg

/-- A message from the slave link sets `rsp_parsed` for its own class only. -/
theorem Message.cls_of_rspParsed {msg : Message} {call : ProcessorCall}
    {st : Statics} (hmsg : ∀ id, msg.cls ≠ .master2Slave id)
    (h : msg.rspParsed call.expected st = true) :
    msg.cls = call.replyClass := by
  unfold rspParsed at h
  split at h
  case h_1 hcls => exact absurd hcls (hmsg _)
  case h_2 hcls =>
    cases call with
    | condCfg cfg_cmd timeSlot => exact hcls
    | readCond id =>
        simp [Slave2Master.CondCfgMsg.process, ProcessorCall.expected,
          Slave2BackendMessageID.toUInt8, Slave2MasterMessageID.toUInt8] at h
  case h_3 hcls =>
    cases call <;>
      simp [Slave2Master.ClipCfgMsg.process, ProcessorCall.expected,
        Slave2BackendMessageID.toUInt8, Slave2MasterMessageID.toUInt8] at h
  case h_4 hcls =>
    cases call <;>
      simp [Slave2Master.ResCfgMsg.process, ProcessorCall.expected,
        Slave2BackendMessageID.toUInt8, Slave2MasterMessageID.toUInt8] at h
  case h_5 hcls =>
    cases call with
    | readCond id => exact hcls
    | condCfg cfg_cmd timeSlot =>
        simp [Slave2Backend.CondDataMsg.process, ProcessorCall.expected,
          Slave2BackendMessageID.toUInt8, Slave2MasterMessageID.toUInt8] at h
  case h_6 => cases h

/-- No request class is selected on the master. -/
theorem class_ne_master2Slave {raw_data payload : Bytes} {cls : MessageClass}
    (hsel : FrameParser.select .master 0 raw_data = some (cls, payload)) :
    ∀ id, cls ≠ .master2Slave id := by
  intro id hid
  obtain ⟨id', h⟩ | ⟨id', h⟩ | ⟨id', h⟩ := FrameParser.class_of_select hsel <;>
    rw [hid] at h <;> cases h

theorem Statics.m2sCondCfg_store {cls : MessageClass} {fields : cls.Fields}
    (st : Statics) (hcls : ∀ id, cls ≠ .master2Slave id) :
    (st.store cls fields).m2sCondCfg = st.m2sCondCfg := by
  rcases cls with id | id | id | id | id
  case master2Slave => exact absurd rfl (hcls id)
  all_goals cases id <;> rfl

/-- The same function on the queue of replies. -/
theorem SlaveLink.rspProcess_eq (s : SlaveLink) (call : ProcessorCall)
    (device_status : UInt16) :
    s.rspProcess call device_status =
      match ProcessBase.rspProcess
          (fun statics t =>
            { t with statics }.processRspData call device_status)
          s.expected_rsp_msg_id (s.rx_data_queue.flatMap Reply.frame)
          s.statics { s with rx_data_queue := [] } with
      | .error _ => none
      | .ok (rsp_parsed, statics, t) =>
          some (rsp_parsed, { t with statics }) := by
  unfold rspProcess ProcessBase.rspProcess
  cases FrameParser.parse .master 0 (s.rx_data_queue.flatMap Reply.frame)
      s.statics with
  | error e => rfl
  | ok r =>
      obtain ⟨msg?, statics⟩ := r
      cases msg? with
      | none => rfl
      | some msg => cases call <;> rfl

/-! ## The call -/

/-- Where `send_frame` is; `process` returns what it returns. -/
inductive CallPhase
  | sending
  | transmitting
  | waiting
  | draining
  | returned (ret : Bool)
deriving DecidableEq, Repr

/-- `queued` says that the request is in `tx_data_queue`, `transmitted` that it
has gone out at least once; `arrived` are the vectors received since. -/
structure SendFrame where
  call : ProcessorCall
  statics : Statics := {}
  expected_rsp_msg_id : UInt8 := 0
  deviceID : UInt32 := 0
  upload_frame : Bytes := []
  phase : CallPhase := .sending
  send_cnd : ℕ := 0
  tx_request_sem : Bool := false
  tx_done_sem : Bool := false
  rx_done_sem : Bool := false
  rx_data_queue : Bytes := []
  queued : Bool := false
  transmitted : Bool := false
  arrived : List Bytes := []
deriving DecidableEq, Repr

namespace SendFrame

/-- `process` up to the loop of `send_frame`.  Queue, semaphores and the other
static fields are as earlier calls left them. -/
def begin (s : SendFrame) (call : ProcessorCall) : SendFrame :=
  let s := { s with
    call
    expected_rsp_msg_id := call.expected
    phase := .sending
    send_cnd := 0
    queued := false
    transmitted := false
    arrived := [] }
  match call with
  | .readCond id => { s with deviceID := id }
  | .condCfg cfg_cmd timeSlot =>
      { s with statics := { s.statics with
        m2sCondCfg := DeviceConfigProcessor.condCfgMsg cfg_cmd timeSlot } }

/-- The end of an unsuccessful round. -/
def retry (s : SendFrame) : SendFrame :=
  { s with
    send_cnd := s.send_cnd + 1
    phase :=
      if s.send_cnd + 1 < SlaveLink.TX_RETRY_TIMES + 1 then .sending
      else .returned false }

/-- `process_rsp_data` of the processor that made the call: the reading
processor packs the static fields again, in a packet whose `device_status` is
not initialized. -/
def processRspData (call : ProcessorCall) (deviceID : UInt32)
    (device_status : UInt16) (st : Statics) (upload_frame : Bytes) : Bytes :=
  match call with
  | .readCond _ =>
      FramePacker.packSlave2Backend
        (PacketPacker.slave2BackendPack .condDataMsg st.s2bCondData deviceID
          device_status)
  | .condCfg _ _ => upload_frame

/-- The rest of a round, once `rx_done_sem` has been taken. -/
def drain (s : SendFrame) (device_status : UInt16) : Option SendFrame :=
  match ProcessBase.rspProcess
      (processRspData s.call s.deviceID device_status)
      s.expected_rsp_msg_id s.rx_data_queue s.statics s.upload_frame with
  | .error _ => none
  | .ok (rsp_parsed, statics, upload_frame) =>
      let t := { s with statics, upload_frame, rx_data_queue := [] }
      some (if rsp_parsed then { t with phase := .returned true } else t.retry)

/-- The manager's steps, those of the transfer task (`transmit`, `receive`),
and a frame on the backend port, which is parsed into the same static
fields. -/
inductive Event
  | queueFull
  | request
  | txDone
  | txTimeout
  | rxTake
  | rxTimeout
  | drain (device_status : UInt16)
  | transmit (sent : Bool)
  | receive (frame : Bytes)
  | backend (raw_data : Bytes)
deriving DecidableEq, Repr

/-- The transfer task has the higher priority, so a received vector is in the
queue as a whole before the manager goes on.  A semaphore that is set does not
time out. -/
def step (s : SendFrame) : Event → Option SendFrame
  | .queueFull =>
      if s.phase = .sending then some { s with phase := .returned false }
      else none
  | .request =>
      if s.phase = .sending then
        some { s with
          phase := .transmitting, queued := true, tx_request_sem := true }
      else none
  | .txDone =>
      if s.phase = .transmitting ∧ s.tx_done_sem = true then
        some { s with phase := .waiting, tx_done_sem := false }
      else none
  | .txTimeout =>
      if s.phase = .transmitting ∧ s.tx_done_sem = false then
        some { s with phase := .returned false }
      else none
  | .rxTake =>
      if s.phase = .waiting ∧ s.rx_done_sem = true then
        some { s with phase := .draining, rx_done_sem := false }
      else none
  | .rxTimeout =>
      if s.phase = .waiting ∧ s.rx_done_sem = false then some s.retry
      else none
  | .drain device_status =>
      if s.phase = .draining then s.drain device_status else none
  | .transmit sent =>
      if s.tx_request_sem then
        some { s with
          tx_request_sem := false
          tx_done_sem := true
          queued := false
          transmitted := s.transmitted || (s.queued && sent) }
      else none
  | .receive frame =>
      some { s with
        rx_data_queue := s.rx_data_queue ++ frame
        rx_done_sem := true
        arrived :=
          if s.transmitted then s.arrived ++ [frame] else s.arrived }
  | .backend raw_data =>
      match FrameParser.parse .master 0 raw_data s.statics with
      | .ok (_, statics) => some { s with statics }
      | .error _ => none

/-! ## What a step does -/

theorem phase_retry (s : SendFrame) :
    s.retry.phase = .sending ∨ s.retry.phase = .returned false := by
  simp only [retry]
  split
  · exact .inl rfl
  · exact .inr rfl

theorem phase_retry_ne (s : SendFrame) :
    s.retry.phase ≠ .returned true := by
  rcases s.phase_retry with h | h <;> simp [h]

/-- The reply was parsed and accepted: the selected class, its fields after
`deserialize`, and `rsp_parsed`. -/
def Accepts (s : SendFrame) (cls : MessageClass) (payload : Bytes)
    (fields : cls.Fields) : Prop :=
  FrameParser.select .master 0 s.rx_data_queue = some (cls, payload) ∧
    deserializeInto cls payload s.statics =
      .ok (Message.ofFields cls fields, s.statics.store cls fields) ∧
    (Message.ofFields cls fields).rspParsed s.expected_rsp_msg_id
      (s.statics.store cls fields) = true

/-- A drain ends the call with the fields of an accepted reply, or the call
goes on or fails. -/
theorem drain_cases (s : SendFrame) (device_status : UInt16) :
    (∃ cls payload fields, s.Accepts cls payload fields ∧
      s.drain device_status = some { s with
        phase := .returned true
        statics := s.statics.store cls fields
        upload_frame := processRspData s.call s.deviceID device_status
          (s.statics.store cls fields) s.upload_frame
        rx_data_queue := [] }) ∨
      (¬ ∃ cls payload fields, s.Accepts cls payload fields) ∧
        ∃ statics upload_frame,
          statics.m2sCondCfg = s.statics.m2sCondCfg ∧
          s.drain device_status = some
            { s with statics, upload_frame, rx_data_queue := [] }.retry := by
  cases hsel : FrameParser.select .master 0 s.rx_data_queue with
  | none =>
      refine .inr ⟨?_, s.statics, s.upload_frame, rfl, ?_⟩
      · rintro ⟨cls, payload, fields, hsome, -⟩
        cases hsel.symm.trans hsome
      · rw [drain, ProcessBase.rspProcess_of_none _ _ _ _ hsel]
        rfl
  | some sel =>
      obtain ⟨cls, payload⟩ := sel
      obtain ⟨fields, hdes⟩ :=
        FrameParser.deserializeInto_of_select hsel s.statics
      have hrsp := ProcessBase.rspProcess_of_select
        (processRspData s.call s.deviceID device_status)
        s.expected_rsp_msg_id s.statics s.upload_frame hsel hdes
      by_cases hparsed : (Message.ofFields cls fields).rspParsed
          s.expected_rsp_msg_id (s.statics.store cls fields) = true
      · refine .inl ⟨cls, payload, fields, ⟨hsel, hdes, hparsed⟩, ?_⟩
        rw [drain, hrsp, hparsed]
        rfl
      · refine .inr ⟨?_, s.statics.store cls fields,
          processRspData s.call s.deviceID device_status
            (s.statics.store cls fields) s.upload_frame,
          s.statics.m2sCondCfg_store (class_ne_master2Slave hsel), ?_⟩
        · rintro ⟨cls', payload', fields', hsel', hdes', hparsed'⟩
          cases hsel.symm.trans hsel'
          obtain ⟨hmsg, hstore⟩ :=
            Prod.mk.inj (Except.ok.inj (hdes.symm.trans hdes'))
          rw [← hmsg, ← hstore] at hparsed'
          exact hparsed hparsed'
        · rw [drain, hrsp, Bool.eq_false_iff.mpr hparsed]
          rfl

/-- What every step keeps, and where the received vectors and a success come
from. -/
structure Stepped (s : SendFrame) (e : Event) (t : SendFrame) : Prop where
  call_eq : t.call = s.call
  expected_eq : t.expected_rsp_msg_id = s.expected_rsp_msg_id
  deviceID_eq : t.deviceID = s.deviceID
  m2sCondCfg_eq : t.statics.m2sCondCfg = s.statics.m2sCondCfg
  arrived : t.arrived = s.arrived ∨
    ∃ frame, s.transmitted = true ∧ t.arrived = s.arrived ++ [frame]
  transmitted : s.transmitted = true → t.transmitted = true
  returned : t.phase = .returned true → s.phase = .returned true ∨
    ∃ device_status, e = .drain device_status ∧
      ∃ cls payload fields, s.Accepts cls payload fields

/-- A step that receives nothing. -/
theorem stepped_update {s : SendFrame} {e : Event} {statics : Statics}
    {upload_frame rx_data_queue : Bytes} {phase : CallPhase} {send_cnd : ℕ}
    {tx_request_sem tx_done_sem rx_done_sem queued transmitted : Bool}
    (hm2s : statics.m2sCondCfg = s.statics.m2sCondCfg)
    (htransmitted : s.transmitted = true → transmitted = true)
    (hreturned : phase = .returned true → s.phase = .returned true ∨
      ∃ device_status, e = .drain device_status ∧
        ∃ cls payload fields, s.Accepts cls payload fields) :
    Stepped s e { s with
      statics, upload_frame, phase, send_cnd, tx_request_sem, tx_done_sem
      rx_done_sem, rx_data_queue, queued, transmitted } where
  call_eq := rfl
  expected_eq := rfl
  deviceID_eq := rfl
  m2sCondCfg_eq := hm2s
  arrived := .inl rfl
  transmitted := htransmitted
  returned := hreturned

/-- A round that fails. -/
theorem stepped_retry {s : SendFrame} {e : Event} {statics : Statics}
    {upload_frame rx_data_queue : Bytes}
    (hm2s : statics.m2sCondCfg = s.statics.m2sCondCfg) :
    Stepped s e
      { s with statics, upload_frame, rx_data_queue }.retry := by
  apply stepped_update hm2s id
  intro hphase
  exact absurd hphase (phase_retry_ne _)

theorem stepped_of_drain {s t : SendFrame} {device_status : UInt16}
    (h : s.drain device_status = some t) :
    Stepped s (.drain device_status) t := by
  rcases drain_cases s device_status with
    ⟨cls, payload, fields, haccepts, heq⟩ |
      ⟨-, statics, upload_frame, hm2s, heq⟩
  · cases heq.symm.trans h
    have hm2s := @Statics.m2sCondCfg_store _ fields s.statics
      (class_ne_master2Slave haccepts.1)
    apply stepped_update hm2s id
    intro _
    exact .inr ⟨device_status, rfl, cls, payload, fields, haccepts⟩
  · cases heq.symm.trans h
    exact stepped_retry hm2s

theorem stepped_of_step {s t : SendFrame} {e : Event}
    (h : step s e = some t) : Stepped s e t := by
  cases e with
  | queueFull | request | txDone | txTimeout | rxTake =>
      simp only [step, Option.ite_none_right_eq_some] at h
      obtain ⟨-, heq⟩ := h
      cases heq
      exact stepped_update rfl id (by simp)
  | rxTimeout =>
      simp only [step, Option.ite_none_right_eq_some] at h
      obtain ⟨-, heq⟩ := h
      cases heq
      exact stepped_retry rfl
  | drain device_status =>
      simp only [step, Option.ite_none_right_eq_some] at h
      exact stepped_of_drain h.2
  | transmit sent =>
      simp only [step, Option.ite_none_right_eq_some] at h
      obtain ⟨-, heq⟩ := h
      cases heq
      exact stepped_update rfl (by simp +contextual) .inl
  | receive frame =>
      cases h
      constructor
      case arrived =>
        by_cases htransmitted : s.transmitted = true
        · exact .inr ⟨frame, htransmitted, if_pos htransmitted⟩
        · exact .inl (if_neg htransmitted)
      case call_eq | expected_eq | deviceID_eq | m2sCondCfg_eq => rfl
      case transmitted => exact id
      case returned => exact .inl
  | backend raw_data =>
      simp only [step] at h
      split at h
      next msg? statics hparse =>
        cases h
        have hm2s : statics.m2sCondCfg = s.statics.m2sCondCfg := by
          cases hsel : FrameParser.select .master 0 raw_data with
          | none =>
              rw [FrameParser.parse_of_select_none hsel] at hparse
              cases hparse
              rfl
          | some sel =>
              obtain ⟨cls, payload⟩ := sel
              obtain ⟨fields, hdes⟩ :=
                FrameParser.deserializeInto_of_select hsel s.statics
              rw [FrameParser.parse_of_select hsel, hdes] at hparse
              cases hparse
              exact s.statics.m2sCondCfg_store (class_ne_master2Slave hsel)
        exact stepped_update hm2s id .inl
      next => cases h

/-! ## A call with one reply -/

/-- Before the first call. -/
def idleCall : SendFrame :=
  { call := .readCond 0 }

/-- The request goes out and one vector is received. -/
def answered (reply : Bytes) : List Event :=
  [.request, .transmit true, .txDone, .receive reply, .rxTake]

end SendFrame

end WirelessHarness

import WirelessHarness.Master.Commands
import WirelessHarness.Support.Runs

/-!
# The link between the master and the slaves

`send_frame` sends a request, waits for `rx_done_sem` and takes the bytes of
`rx_data_queue` for the reply, up to four times.  Requests and replies travel
independently of each other: a reply arrives when the link delivers it, twice
or not at all.
-/

namespace WirelessHarness

open CheckedRead

/-! ## Processing a reply

What `process` leaves in `rsp_parsed`, which `__rsp_process` has cleared. -/

namespace Slave2Master

def CondCfgMsg.process (expected_rsp_msg_id : UInt8) (st : Statics) : Bool :=
  let m := st.s2mCondCfg
  let w := st.m2sCondCfg
  expected_rsp_msg_id = Slave2MasterMessageID.condCfgMsg.toUInt8 ∧
    m.timeSlot = w.timeSlot ∧ m.interval = w.interval ∧
    m.totalConductionNum = w.totalConductionNum ∧
    m.startConductionNum = w.startConductionNum ∧
    m.conductionNum = w.conductionNum

def ClipCfgMsg.process (expected_rsp_msg_id : UInt8) (st : Statics) : Bool :=
  let m := st.s2mClipCfg
  let w := st.m2sClipCfg
  expected_rsp_msg_id = Slave2MasterMessageID.clipCfgMsg.toUInt8 ∧
    m.mode = w.mode ∧ m.clipPin = w.clipPin ∧ m.interval = w.interval

def ResCfgMsg.process (expected_rsp_msg_id : UInt8) (st : Statics) : Bool :=
  let m := st.s2mResCfg
  let w := st.m2sResCfg
  expected_rsp_msg_id = Slave2MasterMessageID.resCfgMsg.toUInt8 ∧
    m.timeSlot = w.timeSlot ∧ m.interval = w.interval ∧
    m.totalResistanceNum = w.totalResistanceNum ∧
    m.startResistanceNum = w.startResistanceNum ∧
    m.resistanceNum = w.resistanceNum

end Slave2Master

/-- Only the message id is compared. -/
def Slave2Backend.CondDataMsg.process (expected_rsp_msg_id : UInt8) : Bool :=
  expected_rsp_msg_id = Slave2BackendMessageID.condDataMsg.toUInt8

/-- `rsp_parsed` after `msg->process()` in the master program.  The other
classes do not touch it. -/
def Message.rspParsed (msg : Message) (expected_rsp_msg_id : UInt8)
    (st : Statics) : Bool :=
  match msg.cls with
  | .master2Slave .syncMsg => true
  | .slave2Master .condCfgMsg =>
      Slave2Master.CondCfgMsg.process expected_rsp_msg_id st
  | .slave2Master .clipCfgMsg =>
      Slave2Master.ClipCfgMsg.process expected_rsp_msg_id st
  | .slave2Master .resCfgMsg =>
      Slave2Master.ResCfgMsg.process expected_rsp_msg_id st
  | .slave2Backend .condDataMsg =>
      Slave2Backend.CondDataMsg.process expected_rsp_msg_id
  | _ => false

/-! ## Requests and replies -/

/-- A call of `ReadCondProcessor::process` or `DeviceConfigProcessor::process`. -/
inductive ProcessorCall
  | readCond (id : UInt32)
  | condCfg (cfg_cmd : CfgCmd) (timeSlot : UInt8)
deriving DecidableEq, Repr

namespace ProcessorCall

/-- The frame handed to `send_frame`. -/
def frame : ProcessorCall → Bytes
  | readCond id => FramePacker.packMaster2Slave
      (PacketPacker.master2SlavePack .readCondDataMsg (0 : UInt8) id)
  | condCfg cfg_cmd timeSlot =>
      DeviceConfigProcessor.cond_frame cfg_cmd timeSlot

def expected : ProcessorCall → UInt8
  | readCond _ => Slave2BackendMessageID.condDataMsg.toUInt8
  | condCfg _ _ => Slave2MasterMessageID.condCfgMsg.toUInt8

end ProcessorCall

/-- A request that has been sent, with the number of the call that sent it. -/
structure Request where
  number : ℕ
  call : ProcessorCall
deriving DecidableEq, Repr

/-- What a slave answers: `device_status` is not initialized. -/
inductive ReplyBody
  | condData (device_status : UInt16) (conductionData : Bytes)
  | condCfg (msg : Slave2Master.CondCfgMsg)
deriving DecidableEq, Repr

/-- A reply on its way, with the request it answers and the slave it is from.
The master receives the frame only. -/
structure Reply where
  request : Request
  source : UInt32
  body : ReplyBody
deriving DecidableEq, Repr

namespace Reply

/-- The frames of `ReadCondDataMsg::process` and `CondCfgMsg::process`. -/
def frame (reply : Reply) : Bytes :=
  match reply.body with
  | .condData device_status conductionData =>
      FramePacker.packSlave2Backend
        (PacketPacker.slave2BackendPack .condDataMsg
          ⟨UInt16.ofNat conductionData.length, conductionData⟩ reply.source
          device_status)
  | .condCfg msg =>
      FramePacker.packSlave2Master
        (PacketPacker.slave2MasterPack .condCfgMsg msg reply.source)

/-- The slave's parser lets the request through, and the reply is of the kind
asked for. -/
def Answers (reply : Reply) : Prop :=
  (FrameParser.select .slave reply.source reply.request.call.frame).isSome ∧
    match reply.request.call, reply.body with
    | .readCond _, .condData _ _ => True
    | .condCfg _ _, .condCfg _ => True
    | _, _ => False

instance (reply : Reply) : Decidable reply.Answers := by
  unfold Answers
  refine @instDecidableAnd _ _ inferInstance ?_
  split <;> infer_instance

end Reply

/-! ## The system -/

/-- Where `send_frame` is. -/
inductive SendPhase
  | idle
  | sending (call : ProcessorCall)
  | waiting (call : ProcessorCall)
  | draining (call : ProcessorCall)
deriving DecidableEq, Repr

def SendPhase.call? : SendPhase → Option ProcessorCall
  | idle => none
  | sending call | waiting call | draining call => some call

/-- A call that returned `true`, the replies whose bytes it took last, and the
upload frame it left. -/
structure CallResult where
  number : ℕ
  call : ProcessorCall
  consumed : List Reply
  upload_frame : Bytes
deriving DecidableEq, Repr

/-- `number` counts the calls; `requests` are the requests sent so far, `air`
the replies not yet delivered. -/
structure SlaveLink where
  statics : Statics := {}
  expected_rsp_msg_id : UInt8 := 0
  deviceID : UInt32
  upload_frame : Bytes := []
  phase : SendPhase := .idle
  send_cnd : ℕ := 0
  rx_done_sem : Bool := false
  rx_data_queue : List Reply := []
  air : List Reply := []
  number : ℕ := 0
  requests : List Request := []
  results : List CallResult := []
deriving DecidableEq, Repr

namespace SlaveLink

def TX_RETRY_TIMES : ℕ := 3

/-- The start of `process`, up to the loop of `send_frame`. -/
def begin (s : SlaveLink) (call : ProcessorCall) : SlaveLink :=
  let s := { s with
    phase := .sending call
    send_cnd := 0
    number := s.number + 1
    expected_rsp_msg_id := call.expected }
  match call with
  | .readCond id => { s with deviceID := id }
  | .condCfg cfg_cmd timeSlot =>
      { s with statics := { s.statics with
        m2sCondCfg := DeviceConfigProcessor.condCfgMsg cfg_cmd timeSlot } }

section

variable (s : SlaveLink) (call : ProcessorCall)

@[simp] theorem number_begin : (s.begin call).number = s.number + 1 := by
  cases call <;> rfl

@[simp] theorem requests_begin : (s.begin call).requests = s.requests := by
  cases call <;> rfl

@[simp] theorem air_begin : (s.begin call).air = s.air := by
  cases call <;> rfl

@[simp] theorem rx_data_queue_begin :
    (s.begin call).rx_data_queue = s.rx_data_queue := by
  cases call <;> rfl

@[simp] theorem results_begin : (s.begin call).results = s.results := by
  cases call <;> rfl

@[simp] theorem call?_begin : (s.begin call).phase.call? = some call := by
  cases call <;> rfl

end

/-- The end of an unsuccessful round. -/
def retry (s : SlaveLink) (call : ProcessorCall) : SlaveLink :=
  { s with
    send_cnd := s.send_cnd + 1
    phase :=
      if s.send_cnd + 1 < TX_RETRY_TIMES + 1 then .sending call else .idle }

/-- `process_rsp_data` of the processor that made the call. -/
def processRspData (s : SlaveLink) (call : ProcessorCall)
    (device_status : UInt16) : SlaveLink :=
  match call with
  | .readCond _ => { s with
      upload_frame := FramePacker.packSlave2Backend
        (PacketPacker.slave2BackendPack .condDataMsg s.statics.s2bCondData
          s.deviceID device_status) }
  | .condCfg _ _ => s

/-- `__rsp_process`, with the returned `rsp_parsed`.  An out-of-range read
would leave no state. -/
def rspProcess (s : SlaveLink) (call : ProcessorCall)
    (device_status : UInt16) : Option (Bool × SlaveLink) :=
  match FrameParser.parse .master 0 (s.rx_data_queue.flatMap Reply.frame)
      s.statics with
  | .error _ => none
  | .ok (none, statics) => some (false, { s with statics, rx_data_queue := [] })
  | .ok (some msg, statics) =>
      let t := { s with statics, rx_data_queue := [] }.processRspData call
        device_status
      some (msg.rspParsed t.expected_rsp_msg_id t.statics, t)

/-- The rest of a round of `send_frame`, once `rx_done_sem` has been taken. -/
def drain (s : SlaveLink) (call : ProcessorCall) (device_status : UInt16) :
    Option SlaveLink :=
  (s.rspProcess call device_status).map fun (rsp_parsed, t) =>
    if rsp_parsed then
      { t with
        phase := .idle
        results := t.results ++
          [⟨t.number, call, s.rx_data_queue, t.upload_frame⟩] }
    else t.retry call

/-- The first five events are the master's, the others the slaves' and the
link's.  Calls come in any order, as the registered slaves and the backend's
commands ask for them.  A request whose `tx_done_sem` comes too late
(`send false`) may have gone out all the same. -/
inductive Event
  | begin (call : ProcessorCall)
  | send (done : Bool)
  | timeout
  | take
  | drain (device_status : UInt16)
  | answer (reply : Reply)
  | duplicate (k : ℕ)
  | lose (k : ℕ)
  | deliver (k : ℕ)
deriving DecidableEq, Repr

/-- `timeout` is a failed wait of one second, so nobody has given the
semaphore.  Delivery appends a whole frame and gives the semaphore. -/
def step (s : SlaveLink) : Event → Option SlaveLink
  | .begin call =>
      match s.phase with
      | .idle => some (s.begin call)
      | _ => none
  | .send done =>
      match s.phase with
      | .sending call => some { s with
          requests := s.requests ++ [Request.mk s.number call]
          phase := if done then .waiting call else .idle }
      | _ => none
  | .timeout =>
      match s.phase with
      | .waiting call => if s.rx_done_sem then none else some (s.retry call)
      | _ => none
  | .take =>
      match s.phase with
      | .waiting call =>
          if s.rx_done_sem then
            some { s with rx_done_sem := false, phase := .draining call }
          else none
      | _ => none
  | .drain device_status =>
      match s.phase with
      | .draining call => s.drain call device_status
      | _ => none
  | .answer reply =>
      if reply.request ∈ s.requests ∧ reply.Answers then
        some { s with air := s.air ++ [reply] }
      else none
  | .duplicate k =>
      s.air[k]?.map fun reply => { s with air := s.air ++ [reply] }
  | .lose k =>
      s.air[k]?.map fun _ => { s with air := s.air.eraseIdx k }
  | .deliver k =>
      s.air[k]?.map fun reply => { s with
        air := s.air.eraseIdx k
        rx_data_queue := s.rx_data_queue ++ [reply]
        rx_done_sem := true }

/-- Before the first call. -/
def Boot (s : SlaveLink) : Prop :=
  s = { deviceID := s.deviceID }

end SlaveLink

end WirelessHarness

import WirelessHarness.Master.ReadCond
import WirelessHarness.System.Air
import WirelessHarness.Transfer.HandOver

/-!
# Master and slaves in one system

The manager calls `send_frame`, byte by byte through `tx_data_queue`; the
data-transfer task puts the vectors on the air, and the slaves process what
reaches them and reply.  A frame reaches anybody any number of times and at any
later time, also after the call it belongs to.
-/

namespace WirelessHarness

open CheckedRead Runs

/-! ## Requests -/

namespace ProcessorCall

/-- The destination of the request. -/
def target : ProcessorCall → UInt32
  | readCond id => id
  | condCfg cfg_cmd _ => get_id cfg_cmd.id

/-- The slave with this id takes the request for its own. -/
def Asks (call : ProcessorCall) (uid : UInt32) : Prop :=
  call.target = 0xFFFFFFFF ∨ call.target = uid

instance (call : ProcessorCall) (uid : UInt32) : Decidable (call.Asks uid) :=
  inferInstanceAs (Decidable (_ ∨ _))

end ProcessorCall

namespace SlaveDevice

/-- The matrix as it is reported. -/
def report (s : SlaveDevice) : Bytes :=
  s.board.harness.data.flatten

/-- The slave scans the lines of this command, for as many rows as it says. -/
structure ConfiguredAs (s : SlaveDevice) (cfg_cmd : CfgCmd) : Prop where
  conductionNum : s.board.harness.conductionNum = cfg_cmd.cond.toUInt8
  totalConductionNum :
    s.board.harness.totalConductionNum = cfg_cmd.totalHarnessNum
  startConductionNum :
    s.board.harness.startConductionNum = cfg_cmd.startHarnessNum
  callbacks :
    s.statics.m2sCondCfg.totalConductionNum = cfg_cmd.totalHarnessNum

/-! ## What a slave does with a frame -/

theorem configuredAs_receive (s : SlaveDevice) (cfg_cmd : CfgCmd)
    (timeSlot : UInt8) :
    (s.receive (.master2Slave .condCfgMsg)
      (DeviceConfigProcessor.condCfgMsg cfg_cmd timeSlot)).ConfiguredAs
        cfg_cmd := by
  obtain ⟨hharness, -⟩ := receive_condCfg_spec s
    (DeviceConfigProcessor.condCfgMsg cfg_cmd timeSlot)
  constructor
  case callbacks => rfl
  all_goals
    rw [hharness]
    rfl

/-- Only these numbers matter. -/
theorem ConfiguredAs.of_eq {s t : SlaveDevice} {cfg_cmd : CfgCmd}
    (h : s.ConfiguredAs cfg_cmd)
    (hnum : t.board.harness.conductionNum = s.board.harness.conductionNum)
    (htotal : t.board.harness.totalConductionNum =
      s.board.harness.totalConductionNum)
    (hstart : t.board.harness.startConductionNum =
      s.board.harness.startConductionNum)
    (hstatics : t.statics.m2sCondCfg = s.statics.m2sCondCfg) :
    t.ConfiguredAs cfg_cmd where
  conductionNum := hnum.trans h.conductionNum
  totalConductionNum := htotal.trans h.totalConductionNum
  startConductionNum := hstart.trans h.startConductionNum
  callbacks := by rw [hstatics, h.callbacks]

/-- A timer callback leaves the numbers as they are. -/
theorem ConfiguredAs.callback {s : SlaveDevice} {cfg_cmd : CfgCmd}
    (h : s.ConfiguredAs cfg_cmd) (input : GpioInput) :
    ({ s with board := Harness.myTimerCallback input s.board } :
      SlaveDevice).ConfiguredAs cfg_cmd := by
  have hnumbers :
      (Harness.myTimerCallback input s.board).harness.conductionNum =
          s.board.harness.conductionNum ∧
        (Harness.myTimerCallback input s.board).harness.totalConductionNum =
          s.board.harness.totalConductionNum ∧
        (Harness.myTimerCallback input s.board).harness.startConductionNum =
          s.board.harness.startConductionNum := by
    simp only [Harness.myTimerCallback]
    split
    · split
      · simp [Harness.reload]
      · simp [Harness.run_eq]
    · simp [Harness.run_eq]
  obtain ⟨hnum, htotal, hstart⟩ := hnumbers
  exact h.of_eq hnum htotal hstart rfl

/-- A start leaves the numbers as they are. -/
theorem ConfiguredAs.sync {s : SlaveDevice} {cfg_cmd : CfgCmd}
    (h : s.ConfiguredAs cfg_cmd) (m : Master2Slave.SyncMsg) :
    (s.receive (.master2Slave .syncMsg) m).ConfiguredAs cfg_cmd := by
  have hharness : (s.receive (.master2Slave .syncMsg) m).board.harness =
      (Harness.startWithCount
        s.statics.m2sCondCfg.totalConductionNum.toNat s.board).harness := rfl
  apply h.of_eq
  case hstatics => rfl
  all_goals
    rw [hharness, Harness.startWithCount]
    split <;> rfl

/-- Replies are for the master. -/
theorem parseAndProcess_reply (s : SlaveDevice) (reply : Reply) :
    (s.parseAndProcess reply.frame).2 = s := by
  apply parseAndProcess_of_select_none
  have hsigned : Air.Signed reply.source reply.frame := by
    rcases reply with ⟨request, source, ⟨device_status, data⟩ | msg⟩
    · exact Air.Signed.condData _ _
    · exact Air.Signed.condCfg _
  by_contra hsel
  exact Air.not_addressedTo_of_signed hsigned s.uid
    ((Bystander.select_slave_ne_none_iff s.uid reply.frame).mp hsel)

theorem parseAndProcess_syncFrame (s : SlaveDevice) (mode : SysMode) :
    (s.parseAndProcess (Conduction.syncFrame mode)).2 =
      s.receive (.master2Slave .syncMsg) (⟨mode, 0⟩ : Master2Slave.SyncMsg) :=
  congrArg Prod.snd (s.parseAndProcess_master2SlavePack .syncMsg
    (⟨mode, 0⟩ : Master2Slave.SyncMsg) (Or.inl rfl))

theorem parseAndProcess_of_not_asks (s : SlaveDevice) {call : ProcessorCall}
    (h : ¬ call.Asks s.uid) : (s.parseAndProcess call.frame).2 = s := by
  cases call with
  | readCond id => exact s.parseAndProcess_of_other .readCondDataMsg _ h
  | condCfg cfg_cmd timeSlot =>
      exact s.parseAndProcess_of_other .condCfgMsg _ h

/-- What a request does to a slave it asks: it is configured, or it reports
its matrix. -/
inductive Answered (s : SlaveDevice) :
    ProcessorCall → SlaveDevice → ReplyBody → Prop
  | condCfg {cfg_cmd : CfgCmd} {timeSlot : UInt8} {s' : SlaveDevice}
      {msg : Slave2Master.CondCfgMsg} (h : s'.ConfiguredAs cfg_cmd) :
      Answered s (.condCfg cfg_cmd timeSlot) s' (.condCfg msg)
  | condData {id : UInt32} {s' : SlaveDevice} {device_status : UInt16}
      (hboard : s'.board = s.board)
      (hstatics : s'.statics.m2sCondCfg = s.statics.m2sCondCfg) :
      Answered s (.readCond id) s' (.condData device_status s.report)

theorem parseAndProcess_of_asks (s : SlaveDevice) {call : ProcessorCall}
    (h : call.Asks s.uid) :
    ∃ reply : Reply,
      (s.parseAndProcess call.frame).2.sent = s.sent ++ [reply.frame] ∧
        s.Answered call (s.parseAndProcess call.frame).2 reply.body := by
  cases call with
  | readCond id =>
      have hparse : (s.parseAndProcess (ProcessorCall.readCond id).frame).2 =
          s.receive (.master2Slave .readCondDataMsg) (0 : UInt8) :=
        congrArg Prod.snd (s.parseAndProcess_master2SlavePack
          .readCondDataMsg (0 : UInt8) h)
      rw [hparse]
      refine ⟨⟨⟨0, .readCond id⟩, s.uid,
        .condData (s.residue s.sent.length) s.report⟩, ?_, ?_⟩
      · rfl
      · exact .condData rfl rfl
  | condCfg cfg_cmd timeSlot =>
      have hparse : (s.parseAndProcess
          (ProcessorCall.condCfg cfg_cmd timeSlot).frame).2 =
          s.receive (.master2Slave .condCfgMsg)
            (DeviceConfigProcessor.condCfgMsg cfg_cmd timeSlot) :=
        congrArg Prod.snd (s.parseAndProcess_master2SlavePack .condCfgMsg
          (DeviceConfigProcessor.condCfgMsg cfg_cmd timeSlot) h)
      rw [hparse]
      refine ⟨⟨⟨0, .condCfg cfg_cmd timeSlot⟩, s.uid, .condCfg
        (s.condCfgReply (DeviceConfigProcessor.condCfgMsg cfg_cmd
          timeSlot))⟩, ?_, ?_⟩
      · rfl
      · exact .condCfg (s.configuredAs_receive cfg_cmd timeSlot)

end SlaveDevice

/-! ## The system -/

/-- `frame` and `rsp` are the arguments of the last call of `send_frame`, and
`rest` is what `__send` has still to add to `tx_data_queue`.  `air` is under
way to a slave or, for `none`, to the master.  `reportable` are the reports
that each slave could have made since the last request, and `agreed` its last
configuration if the call for it returned `true`. -/
structure ClosedLoop (n : ℕ) where
  master : SendFrame
  frame : Bytes := []
  rsp : Bool := true
  rest : Bytes := []
  tx_data_queue : Bytes := []
  slaves : Fin n → SlaveDevice
  air : List (Option (Fin n) × Bytes) := []
  reportable : Fin n → List Bytes := fun _ => []
  agreed : Fin n → Option CfgCmd := fun _ => none

namespace ClosedLoop

variable {n : ℕ}

/-- The configurations that a new one leaves in force. -/
def superseded (s : ClosedLoop n) (call : ProcessorCall) (k : Fin n) :
    Option CfgCmd :=
  match call with
  | .readCond _ => s.agreed k
  | .condCfg _ _ =>
      if call.Asks (s.slaves k).uid then none else s.agreed k

/-- `process` of a processor, up to the loop of `send_frame`. -/
def begin (s : ClosedLoop n) (call : ProcessorCall) : ClosedLoop n :=
  { s with
    master := s.master.begin call
    frame := call.frame
    rsp := true
    rest := call.frame
    reportable := fun k => [(s.slaves k).report]
    agreed := s.superseded call }

/-- `send_sync_frame`, up to the loop of `send_frame`. -/
def sync (s : ClosedLoop n) (mode : SysMode) : ClosedLoop n :=
  { s with
    master := { s.master with
      phase := .sending
      send_cnd := 0
      queued := false
      transmitted := false
      arrived := [] }
    frame := Conduction.syncFrame mode
    rsp := false
    rest := Conduction.syncFrame mode }

/-- The configurations in force after a call with success.  A configuration of
all slaves is confirmed by one of them. -/
def confirmed (s : ClosedLoop n) (k : Fin n) : Option CfgCmd :=
  match s.master.call with
  | .readCond _ => s.agreed k
  | .condCfg cfg_cmd _ =>
      if get_id cfg_cmd.id ≠ 0xFFFFFFFF ∧ get_id cfg_cmd.id = (s.slaves k).uid
      then some cfg_cmd else s.agreed k

/-- The manager's step that leads to `master`.  Without `rsp` a call returns
instead of waiting for the reply, and every new round adds the frame again. -/
def manage (s : ClosedLoop n) (master : SendFrame) : ClosedLoop n :=
  { s with
    master :=
      if s.rsp = false ∧ master.phase = .waiting then
        { master with phase := .returned true }
      else master
    rest :=
      if s.master.phase ≠ .sending ∧ master.phase = .sending then s.frame
      else s.rest
    agreed :=
      if s.master.phase = .draining ∧ master.phase = .returned true then
        s.confirmed
      else s.agreed }

/-- What of the manager's steps depends on the queue.  The other two are the
data-transfer task's. -/
def Manages (s : ClosedLoop n) : SendFrame.Event → Prop
  | .queueFull => s.rest ≠ [] ∧
      HandOver.ManagerDataTransferMsg_RXDATA_QUEUE_SIZE ≤
        s.tx_data_queue.length
  | .request => s.rest = []
  | .transmit _ | .receive _ => False
  | _ => True

instance (s : ClosedLoop n) : DecidablePred s.Manages := fun e => by
  unfold Manages
  split <;> infer_instance

/-- Slave `k` processes a frame, and its replies reach whom they reach. -/
def deliver (s : ClosedLoop n) (i : ℕ) (k : Fin n) (raw_data : Bytes)
    (hears : List (Option (Fin n))) : ClosedLoop n :=
  let slave := ((s.slaves k).parseAndProcess raw_data).2
  { s with
    slaves := Function.update s.slaves k slave
    air := s.air.eraseIdx i ++
      (slave.sent.drop (s.slaves k).sent.length).flatMap fun reply =>
        hears.map fun receiver => (receiver, reply)
    reportable := Function.update s.reportable k
      (s.reportable k ++ [slave.report]) }

/-- `hears` are those who receive what is sent in the step. -/
inductive Event (n : ℕ)
  | begin (call : ProcessorCall)
  | sync (mode : SysMode)
  | add
  | manager (e : SendFrame.Event)
  | transmit (sent : Bool) (hears : List (Fin n))
  | receive (i : ℕ)
  | process (i : ℕ) (hears : List (Option (Fin n)))
  | lose (i : ℕ)
  | callback (k : Fin n) (input : GpioInput)

/-- The data-transfer task has the higher priority and takes all that is in
the queue. -/
def step (s : ClosedLoop n) : Event n → Option (ClosedLoop n)
  | .begin call =>
      match s.master.phase with
      | .returned _ => some (s.begin call)
      | _ => none
  | .sync mode =>
      match s.master.phase with
      | .returned _ => some (s.sync mode)
      | _ => none
  | .add =>
      match s.master.phase, s.rest with
      | .sending, b :: rest =>
          if s.tx_data_queue.length <
              HandOver.ManagerDataTransferMsg_RXDATA_QUEUE_SIZE then
            some { s with rest, tx_data_queue := s.tx_data_queue ++ [b] }
          else none
      | _, _ => none
  | .manager e =>
      if s.Manages e then (s.master.step e).map s.manage else none
  | .transmit sent hears =>
      (s.master.step (.transmit sent)).map fun master =>
        { s with
          master
          tx_data_queue := []
          air := s.air ++ hears.map fun k => (some k, s.tx_data_queue) }
  | .receive i =>
      match s.air[i]? with
      | some (none, frame) =>
          (s.master.step (.receive frame)).map fun master =>
            { s with master, air := s.air.eraseIdx i }
      | _ => none
  | .process i hears =>
      match s.air[i]? with
      | some (some k, raw_data) => some (s.deliver i k raw_data hears)
      | _ => none
  | .lose i => some { s with air := s.air.eraseIdx i }
  | .callback k input =>
      if (s.slaves k).board.harness.timerActive then
        let slave := { s.slaves k with
          board := Harness.myTimerCallback input (s.slaves k).board }
        some { s with
          slaves := Function.update s.slaves k slave
          reportable := Function.update s.reportable k
            (s.reportable k ++ [slave.report]) }
      else none

/-- Nothing of earlier calls is left in the queues, in the semaphores of
`__send` and on the air. -/
structure Quiet (s : ClosedLoop n) : Prop where
  tx_data_queue : s.tx_data_queue = []
  rx_data_queue : s.master.rx_data_queue = []
  tx_request_sem : s.master.tx_request_sem = false
  tx_done_sem : s.master.tx_done_sem = false
  air : s.air = []

instance (s : ClosedLoop n) : Decidable s.Quiet :=
  decidable_of_iff (s.tx_data_queue = [] ∧ s.master.rx_data_queue = [] ∧
      s.master.tx_request_sem = false ∧ s.master.tx_done_sem = false ∧
      s.air = [])
    ⟨fun ⟨htx, hrx, hrequest, hdone, hair⟩ => ⟨htx, hrx, hrequest, hdone, hair⟩,
      fun ⟨htx, hrx, hrequest, hdone, hair⟩ => ⟨htx, hrx, hrequest, hdone, hair⟩⟩

/-- Calls begin when nothing of earlier ones is left. -/
def Orderly (s : ClosedLoop n) : Event n → Prop
  | .begin _ | .sync _ => s.Quiet
  | _ => True

instance (s : ClosedLoop n) (e : Event n) : Decidable (s.Orderly e) := by
  unfold Orderly
  split <;> infer_instance

end ClosedLoop

end WirelessHarness

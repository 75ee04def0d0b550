import WirelessHarness.Master.Partition
import WirelessHarness.Master.SendFrame
import WirelessHarness.Protocol.RoundTrip

/-!
# The configuration handshake

The frame of `__cond_config` through the slave's parser and `process`, and the
slave's reply through the master's: both sides then hold the same numbers, and
a master that waits for another command refuses the reply.
-/

namespace WirelessHarness

open CheckedRead

namespace SlaveDevice

/-- The reply to a configuration: the request's fields behind the status of an
earlier reply. -/
def condCfgReply (s : SlaveDevice) (m : Master2Slave.CondCfgMsg) :
    Slave2Master.CondCfgMsg where
  status := s.statics.s2mCondCfg.status
  timeSlot := m.timeSlot
  interval := m.interval
  totalConductionNum := m.totalConductionNum
  startConductionNum := m.startConductionNum
  conductionNum := m.conductionNum

theorem sent_configured (s : SlaveDevice) {cfg_cmd : CfgCmd}
    (timeSlot : UInt8) (huid : s.uid = get_id cfg_cmd.id) :
    (s.configured cfg_cmd timeSlot).sent =
      s.sent ++ [FramePacker.packSlave2Master
        (PacketPacker.slave2MasterPack .condCfgMsg
          (s.condCfgReply (DeviceConfigProcessor.condCfgMsg cfg_cmd timeSlot))
          s.uid)] := by
  rw [s.configured_eq timeSlot huid]
  rfl

end SlaveDevice

/-- The master's parser gets a slave's reply as it was packed. -/
theorem rspProcess_condCfg {α : Type} (process_rsp_data : Statics → α → α)
    (expected_rsp_msg_id : UInt8) (m : Slave2Master.CondCfgMsg)
    (source_id : UInt32) (st : Statics) (self : α) :
    ∃ st' self',
      ProcessBase.rspProcess process_rsp_data expected_rsp_msg_id
          (FramePacker.packSlave2Master
            (PacketPacker.slave2MasterPack .condCfgMsg m source_id)) st self =
        .ok (Slave2Master.CondCfgMsg.process expected_rsp_msg_id
          { st with s2mCondCfg := m }, st', self') := by
  have hsel := FrameParser.select_packSlave2Master 0 source_id .condCfgMsg
    (serializePayload (.slave2Master .condCfgMsg) m) []
  rw [List.append_nil, if_pos ⟨rfl, by
    simp [serializePayload, Slave2Master.CondCfgMsg.serialize]⟩] at hsel
  have hdec := @decode_serializePayload (.slave2Master .condCfgMsg) m
    (by simp) trivial
  exact ⟨_, _, ProcessBase.rspProcess_of_select process_rsp_data
    expected_rsp_msg_id st self hsel (deserializeInto_of_decode hdec st)⟩

/-- The slave holds the numbers of the command, and the master accepts the
reply exactly if it waits for these numbers. -/
theorem handshake_agrees (device : SlaveDevice) (master : SendFrame)
    (cfg_cmd pending : CfgCmd) (timeSlot pendingSlot : UInt8)
    (huid : device.uid = get_id cfg_cmd.id)
    (hcond : cfg_cmd.cond.toNat ≤ 62) :
    let device' := (device.parseAndProcess
      (DeviceConfigProcessor.cond_frame cfg_cmd timeSlot)).2
    let harness := device'.board.harness
    let waiting := master.begin (.condCfg pending pendingSlot)
    (harness.conductionNum.toNat = cfg_cmd.cond.toNat ∧
      harness.totalConductionNum = cfg_cmd.totalHarnessNum ∧
      harness.startConductionNum = cfg_cmd.startHarnessNum) ∧
    ∃ reply, device'.sent = device.sent ++ [reply] ∧
      ∃ statics, ProcessBase.rspProcess (fun _ self => self)
          waiting.expected_rsp_msg_id reply waiting.statics () =
        .ok (decide (timeSlot = pendingSlot ∧
          cfg_cmd.totalHarnessNum = pending.totalHarnessNum ∧
          cfg_cmd.startHarnessNum = pending.startHarnessNum ∧
          cfg_cmd.cond = pending.cond), statics, ()) := by
  refine ⟨device.harness_configured timeSlot huid (by omega), _,
    device.sent_configured timeSlot huid, ?_⟩
  obtain ⟨statics, _, hrsp⟩ := rspProcess_condCfg
    (fun (_ : Statics) (self : Unit) => self)
    (master.begin (.condCfg pending pendingSlot)).expected_rsp_msg_id
    (device.condCfgReply
      (DeviceConfigProcessor.condCfgMsg cfg_cmd timeSlot))
    device.uid (master.begin (.condCfg pending pendingSlot)).statics ()
  refine ⟨statics, hrsp.trans ?_⟩
  -- The interval is the same constant on both sides.
  simp only [Slave2Master.CondCfgMsg.process, SendFrame.begin,
    SlaveDevice.condCfgReply, DeviceConfigProcessor.condCfgMsg,
    ProcessorCall.expected, true_and]

/-- The last two of five lines go to slave 0x01020304. -/
def lastLines : CfgCmd :=
  { CfgCmd.zero with
    id := memcpyId 0x01020304
    cond := 2
    totalHarnessNum := 5
    startHarnessNum := 3 }

def lastDevice : SlaveDevice :=
  { SlaveDevice.bootDevice with uid := 0x01020304 }

theorem handshake_agrees_lastLines :
    let device' := (lastDevice.parseAndProcess
      (DeviceConfigProcessor.cond_frame lastLines 1)).2
    let harness := device'.board.harness
    let waiting := SendFrame.begin { call := .readCond 0 }
      (.condCfg lastLines 1)
    (harness.conductionNum.toNat = lastLines.cond.toNat ∧
      harness.totalConductionNum = lastLines.totalHarnessNum ∧
      harness.startConductionNum = lastLines.startHarnessNum) ∧
    ∃ reply, device'.sent = lastDevice.sent ++ [reply] ∧
      ∃ statics, ProcessBase.rspProcess (fun _ self => self)
          waiting.expected_rsp_msg_id reply waiting.statics () =
        .ok (true, statics, ()) :=
  handshake_agrees lastDevice { call := .readCond 0 } lastLines lastLines 1 1
    (by decide) (by decide)

end WirelessHarness

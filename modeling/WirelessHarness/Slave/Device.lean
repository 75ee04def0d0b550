import WirelessHarness.Protocol.Packing
import WirelessHarness.Slave.Steps

/-!
# A slave

The state a slave's `process` functions work on, and those functions: the ones
that do more than logging are `SyncMsg`, `CondCfgMsg` and `ReadCondDataMsg`.
-/

namespace WirelessHarness

open CheckedRead

/-- `uid` is `UIDReader::get()`.  `sent` are the frames handed to
`MsgProc::send`; `residue` is what the uninitialized `device_status` of each of
them happens to hold. -/
structure SlaveDevice where
  uid : UInt32
  residue : ℕ → UInt16
  statics : Statics := {}
  board : Board
  sent : List Bytes := []

namespace SlaveDevice

def send (s : SlaveDevice) (frame : Bytes) : SlaveDevice :=
  { s with sent := s.sent ++ [frame] }

end SlaveDevice

namespace Master2Slave

def SyncMsg.process (s : SlaveDevice) : SlaveDevice :=
  { s with
    board := Harness.startWithCount
      s.statics.m2sCondCfg.totalConductionNum.toNat s.board }

/-- The reply keeps the `status` of an earlier one. -/
def CondCfgMsg.process (s : SlaveDevice) : SlaveDevice :=
  let m := s.statics.m2sCondCfg
  let condInfoMsg : Slave2Master.CondCfgMsg :=
    { s.statics.s2mCondCfg with
      timeSlot := m.timeSlot
      interval := m.interval
      totalConductionNum := m.totalConductionNum
      startConductionNum := m.startConductionNum
      conductionNum := m.conductionNum }
  let board := Harness.init m.conductionNum.toUInt8 m.totalConductionNum
    m.startConductionNum (Harness.setPeriod m.interval s.board)
  { s with
    statics := { s.statics with s2mCondCfg := condInfoMsg }
    board }.send
      (FramePacker.packSlave2Master
        (PacketPacker.slave2MasterPack .condCfgMsg condInfoMsg s.uid))

def ReadCondDataMsg.process (s : SlaveDevice) : SlaveDevice :=
  let conductionData := s.board.harness.data.flatten
  let condDataMsg : Slave2Backend.CondDataMsg :=
    ⟨UInt16.ofNat conductionData.length, conductionData⟩
  { s with statics := { s.statics with s2bCondData := condDataMsg } }.send
    (FramePacker.packSlave2Backend
      (PacketPacker.slave2BackendPack .condDataMsg condDataMsg s.uid
        (s.residue s.sent.length)))

end Master2Slave

/-- `msg->process()` in the slave program.  The other classes only log. -/
def Message.process (msg : Message) (s : SlaveDevice) : SlaveDevice :=
  match msg.cls with
  | .master2Slave .syncMsg => Master2Slave.SyncMsg.process s
  | .master2Slave .condCfgMsg => Master2Slave.CondCfgMsg.process s
  | .master2Slave .readCondDataMsg => Master2Slave.ReadCondDataMsg.process s
  | _ => s

namespace SlaveDevice

/-- A message with these fields is parsed and processed. -/
def receive (s : SlaveDevice) (cls : MessageClass) (fields : cls.Fields) :
    SlaveDevice :=
  (Message.ofFields cls fields).process
    { s with statics := s.statics.store cls fields }

/-- What a configuration leaves, whatever the harness was before. -/
theorem receive_condCfg_spec (s : SlaveDevice)
    (m : Master2Slave.CondCfgMsg) :
    let b := Harness.setPeriod m.interval s.board
    let c := (s.receive (.master2Slave .condCfgMsg) m).board
    let emplaced :=
      (List.range m.conductionNum.toUInt8.toNat).map Harness.pinInfo
    c.harness =
      { b.harness with
        conductionNum := m.conductionNum.toUInt8
        totalConductionNum := m.totalConductionNum
        startConductionNum := m.startConductionNum
        data := b.harness.data.resize m.totalConductionNum.toNat
          m.conductionNum.toUInt8.toNat
        pins := s.board.harness.pins ++ emplaced } ∧
    c.writes = b.writes ∧
    c.accesses = s.board.accesses ++
      (List.range m.conductionNum.toUInt8.toNat).map
        (fun i : ℕ => ⟨i, condPinInfo.length⟩) ∧
    ∀ p, c.gpio.mode p =
      if p ∈ emplaced then .input else s.board.gpio.mode p := by
  have hinit := Harness.init_spec m.conductionNum.toUInt8
    m.totalConductionNum m.startConductionNum
    (Harness.setPeriod m.interval s.board)
  rw [Harness.pins_setPeriod, Harness.accesses_setPeriod,
    Harness.gpio_setPeriod] at hinit
  exact hinit

theorem board_receive_sync (s : SlaveDevice) (m : Master2Slave.SyncMsg) :
    (s.receive (.master2Slave .syncMsg) m).board =
      Harness.startWithCount
        s.statics.m2sCondCfg.totalConductionNum.toNat s.board := rfl

@[simp] theorem uid_process (msg : Message) (s : SlaveDevice) :
    (msg.process s).uid = s.uid := by
  unfold Message.process
  split <;> rfl

/-- What `parse` makes of a byte vector: a message's fields, `nullptr`, or an
index out of range. -/
abbrev Outcome := Except OutOfRange (Option DecodedMessage)

/-- `parse` a byte vector and `process` the message if there is one.  After an
out-of-range read the source's behaviour is undefined; here the vector is
dropped. -/
def parseAndProcess (s : SlaveDevice) (raw_data : Bytes) :
    Outcome × SlaveDevice :=
  match FrameParser.parse .slave s.uid raw_data s.statics with
  | .ok (some msg, statics) =>
      (.ok (some (msg.decoded statics)), msg.process { s with statics })
  | .ok (none, statics) => (.ok none, { s with statics })
  | .error e => (.error e, s)

@[simp] theorem uid_parseAndProcess (s : SlaveDevice) (raw_data : Bytes) :
    (s.parseAndProcess raw_data).2.uid = s.uid := by
  unfold parseAndProcess
  split <;> simp

/-- A frame with a decoding is processed with the decoded fields. -/
theorem parseAndProcess_of_decode (s : SlaveDevice) {raw_data : Bytes}
    {d : DecodedMessage}
    (h : FrameParser.decodeFrame .slave s.uid raw_data = some d) :
    s.parseAndProcess raw_data = (.ok (some d), s.receive d.1 d.2) := by
  obtain ⟨⟨cls, payload⟩, hsel, hd⟩ := Option.bind_eq_some_iff.mp h
  obtain ⟨fields, hdec, rfl⟩ := Option.map_eq_some_iff.mp hd
  rw [parseAndProcess, FrameParser.parse_of_decode hsel hdec]
  simp only [Message.decoded_ofFields]
  rfl

/-- The program after power-on. -/
def Boot (s : SlaveDevice) : Prop :=
  s.statics = {} ∧ s.board = { gpio := s.board.gpio } ∧ s.sent = []

/-- Powered on with all pins inputs. -/
def bootDevice : SlaveDevice where
  uid := 0
  residue := fun _ => 0
  board := { gpio := ⟨fun _ => .input, fun _ => false⟩ }

end SlaveDevice

end WirelessHarness

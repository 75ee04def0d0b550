import WirelessHarness.Slave.Device
import WirelessHarness.Support.Runs
import WirelessHarness.Transfer.HandOver
import WirelessHarness.Uwb.Driver

/-!
# The size of a measurement report

The conduction matrix of a configured slave keeps its size until the next
configuration, so the report that `ReadCondDataMsg::process` builds has 16
bytes and one for every eight cells.  Nothing compares this with what the
radio can carry.
-/

namespace WirelessHarness

open Runs SlaveDevice

namespace ReportSize

/-! ## A configured slave -/

/-- The configurations the property is about. -/
def Accepted (m : Master2Slave.CondCfgMsg) : Prop :=
  m.conductionNum.toNat ≤ 62 ∧
    m.startConductionNum.toNat + m.conductionNum.toNat ≤
      m.totalConductionNum.toNat

instance (m : Master2Slave.CondCfgMsg) : Decidable (Accepted m) :=
  inferInstanceAs (Decidable (_ ∧ _))

/-- What happens to a slave between two configurations. -/
inductive Event
  | sync (m : Master2Slave.SyncMsg)
  | callback (input : GpioInput)
  | read (reserve : UInt8)

/-- Callbacks happen only while the timer is active. -/
def step (s : SlaveDevice) : Event → Option SlaveDevice
  | .sync m => some (s.receive (.master2Slave .syncMsg) m)
  | .callback input =>
      if s.board.harness.timerActive then
        some { s with board := Harness.myTimerCallback input s.board }
      else none
  | .read reserve =>
      some (s.receive (.master2Slave .readCondDataMsg) reserve)

/-- The matrix of a slave with `conductionNum` of `totalConductionNum` lines. -/
def Sized (totalConductionNum conductionNum : ℕ) (s : SlaveDevice) : Prop :=
  s.board.harness.data.rows = totalConductionNum ∧
    s.board.harness.data.cols = conductionNum

theorem sized_condCfg (s : SlaveDevice) {m : Master2Slave.CondCfgMsg}
    (hm : Accepted m) :
    Sized m.totalConductionNum.toNat m.conductionNum.toNat
      (s.receive (.master2Slave .condCfgMsg) m) := by
  obtain ⟨hharness, -⟩ := receive_condCfg_spec s m
  have hnarrow : m.conductionNum.toUInt8.toNat = m.conductionNum.toNat := by
    have hle := hm.1
    rw [UInt16.toNat_toUInt8]
    omega
  constructor
  · rw [hharness]
    rfl
  · rw [hharness]
    exact hnarrow

theorem rows_cols_run (input : GpioInput) (b : Board) :
    (Harness.run input b).harness.data.rows = b.harness.data.rows ∧
      (Harness.run input b).harness.data.cols = b.harness.data.cols := by
  rw [Harness.run_eq]
  exact ⟨BinaryMatrix.rows_fillRow _ _ _ _, BinaryMatrix.cols_fillRow _ _ _ _⟩

theorem rows_cols_myTimerCallback (input : GpioInput) (b : Board) :
    (Harness.myTimerCallback input b).harness.data.rows =
        b.harness.data.rows ∧
      (Harness.myTimerCallback input b).harness.data.cols =
        b.harness.data.cols := by
  simp only [Harness.myTimerCallback]
  split
  · split
    · exact ⟨rfl, rfl⟩
    · exact rows_cols_run input { b with
        harness := { b.harness with
          triggerCount := b.harness.triggerCount + 1 } }
  · exact rows_cols_run input b

theorem sized_step {totalConductionNum conductionNum : ℕ} (s : SlaveDevice)
    (e : Event) (s' : SlaveDevice)
    (hs : Sized totalConductionNum conductionNum s)
    (h : step s e = some s') : Sized totalConductionNum conductionNum s' := by
  cases e with
  | sync m =>
      cases h
      change Sized _ _ { s with
        statics := { s.statics with m2sSync := m }
        board := Harness.startWithCount
          s.statics.m2sCondCfg.totalConductionNum.toNat s.board }
      unfold Harness.startWithCount
      split
      · exact hs
      · exact hs
  | callback input =>
      obtain ⟨-, heq⟩ := Option.ite_none_right_eq_some.mp h
      cases heq
      obtain ⟨hrows, hcols⟩ := rows_cols_myTimerCallback input s.board
      exact ⟨hrows.trans hs.1, hcols.trans hs.2⟩
  | read reserve =>
      cases h
      exact hs

/-! ## The report -/

/-- The report that `s` builds is as long as its cells require, the radio and
the queue take it, and the two length fields count the bytes they announce. -/
structure ReportFits (totalConductionNum conductionNum : ℕ)
    (s s' : SlaveDevice) (frame : Bytes) (header : FrameHeader) : Prop where
  sent : s'.sent = s.sent ++ [frame]
  length : frame.length =
    7 + 7 + 2 + (totalConductionNum * conductionNum + 7) / 8
  transmit : frame.length ≤ CX_APP_DATA_TX_MAX_PAYLOAD_LEN
  queue : frame.length ≤ HandOver.ManagerDataTransferMsg_RXDATA_QUEUE_SIZE
  deserialize : FrameHeader.deserialize frame = .ok (some header)
  data_length : header.data_length.toNat + FrameHeader.HEADER_SIZE =
    frame.length
  conductionLength : s'.statics.s2bCondData.conductionLength.toNat =
    s'.statics.s2bCondData.conductionData.length
  conductionData : s'.statics.s2bCondData.conductionData.length + 16 =
    frame.length

/-- What `ReadCondDataMsg::process` packs, and the frame it sends. -/
def reportPacket (s : SlaveDevice) : Slave2BackendPacket :=
  PacketPacker.slave2BackendPack .condDataMsg
    ⟨UInt16.ofNat s.board.harness.data.flatten.length,
      s.board.harness.data.flatten⟩ s.uid (s.residue s.sent.length)

def reportFrame (s : SlaveDevice) : Bytes :=
  FramePacker.packSlave2Backend (reportPacket s)

theorem sent_read (s : SlaveDevice) (reserve : UInt8) :
    (s.receive (.master2Slave .readCondDataMsg) reserve).sent =
      s.sent ++ [reportFrame s] := rfl

theorem length_reportPacket (s : SlaveDevice) :
    (reportPacket s).serialize.length =
      s.board.harness.data.flatten.length + 9 := by
  simp only [reportPacket, PacketPacker.slave2BackendPack,
    Slave2BackendPacket.length_serialize, serializePayload,
    Slave2Backend.CondDataMsg.serialize, List.length_append, List.length_nil,
    ByteOrder.length_bytes16]
  omega

/-- Frame header, packet header and length field come to 16 bytes. -/
theorem length_reportFrame (s : SlaveDevice) :
    (reportFrame s).length = s.board.harness.data.flatten.length + 16 := by
  rw [reportFrame, FramePacker.packSlave2Backend, length_packData,
    length_reportPacket, FrameHeader.HEADER_SIZE]
  omega

/-- A report of a frame that the radio takes. -/
theorem reportFits_of_le {totalConductionNum conductionNum : ℕ}
    {s : SlaveDevice} (hs : Sized totalConductionNum conductionNum s)
    (hle : totalConductionNum * conductionNum ≤ 8032) (reserve : UInt8) :
    ∃ frame header, ReportFits totalConductionNum conductionNum s
      (s.receive (.master2Slave .readCondDataMsg) reserve) frame header := by
  have hflatten := s.board.harness.data.length_flatten
  rw [hs.1, hs.2] at hflatten
  have hlength := length_reportFrame s
  have hwidth : (reportFrame s).length ≤ CX_APP_DATA_TX_MAX_PAYLOAD_LEN := by
    rw [hlength, hflatten, CX_APP_DATA_TX_MAX_PAYLOAD_LEN, MAX_PAYLOAD_LEN]
    omega
  refine ⟨reportFrame s, _, sent_read s reserve, ?_, hwidth, ?_,
    deserialize_packData _ _ _ _, ?_, ?_, hlength.symm⟩
  · rw [hlength, hflatten]
    omega
  · exact hwidth.trans (by decide)
  · have hpacket := length_reportPacket s
    change (UInt16.ofNat (reportPacket s).serialize.length).toNat + 7 = _
    rw [UInt16.toNat_ofNat']
    omega
  · change (UInt16.ofNat s.board.harness.data.flatten.length).toNat =
      s.board.harness.data.flatten.length
    rw [UInt16.toNat_ofNat']
    omega

/-- After a configuration, and whatever happened to the slave since, its report
can be sent exactly if the matrix has at most 8032 cells. -/
theorem reportFits_iff (s : SlaveDevice) {m : Master2Slave.CondCfgMsg}
    (hm : Accepted m) {es : List Event} {s' : SlaveDevice}
    (hrun : run step (s.receive (.master2Slave .condCfgMsg) m) es = some s')
    (reserve : UInt8) :
    (∃ frame header, ReportFits m.totalConductionNum.toNat
        m.conductionNum.toNat s'
        (s'.receive (.master2Slave .readCondDataMsg) reserve) frame header) ↔
      m.totalConductionNum.toNat * m.conductionNum.toNat ≤ 8032 := by
  constructor
  · rintro ⟨frame, header, hfits⟩
    have hlength := hfits.length
    have htransmit := hfits.transmit
    rw [CX_APP_DATA_TX_MAX_PAYLOAD_LEN, MAX_PAYLOAD_LEN] at htransmit
    omega
  · intro hle
    exact reportFits_of_le (run_invariant sized_step (sized_condCfg s hm) hrun)
      hle reserve

/-- Five lines, the last two of them the slave's. -/
def fiveLines : Master2Slave.CondCfgMsg :=
  ⟨0, 20, 5, 3, 2⟩

/-- A scan is started, and the matrix read once before its third row. -/
def readTwice : List Event :=
  [.sync ⟨0, 0⟩, .callback fun _ _ => true, .callback fun _ _ => false,
    .read 0, .callback fun g p => g.level p]

theorem reportFits_fiveLines :
    ∃ s, run step (bootDevice.receive (.master2Slave .condCfgMsg) fiveLines)
        readTwice = some s ∧
      ∃ frame header, ReportFits 5 2 s
        (s.receive (.master2Slave .readCondDataMsg) (0 : UInt8)) frame
        header :=
  ⟨_, rfl, (@reportFits_iff bootDevice fiveLines (by decide) readTwice _ rfl
    0).mpr (by decide)⟩

/-- 130 lines, 62 of them the slave's. -/
def manyLines : Master2Slave.CondCfgMsg :=
  ⟨0, 20, 130, 0, 62⟩

/-- The report of 1024 bytes is more than `data_transmit` accepts. -/
theorem not_reportFits_manyLines :
    Accepted manyLines ∧
      (reportFrame (bootDevice.receive (.master2Slave .condCfgMsg)
        manyLines)).length = 1024 ∧
      ¬ ∃ frame header, ReportFits 130 62
        (bootDevice.receive (.master2Slave .condCfgMsg) manyLines)
        ((bootDevice.receive (.master2Slave .condCfgMsg) manyLines).receive
          (.master2Slave .readCondDataMsg) (0 : UInt8)) frame header := by
  have hm : Accepted manyLines := by decide
  obtain ⟨hrows, hcols⟩ := sized_condCfg bootDevice hm
  refine ⟨hm, ?_, ?_⟩
  · rw [length_reportFrame, BinaryMatrix.length_flatten, hrows, hcols]
    decide
  · rintro ⟨frame, header, hfits⟩
    have hlength := hfits.length
    have htransmit := hfits.transmit
    rw [CX_APP_DATA_TX_MAX_PAYLOAD_LEN, MAX_PAYLOAD_LEN] at htransmit
    omega

end ReportSize

end WirelessHarness

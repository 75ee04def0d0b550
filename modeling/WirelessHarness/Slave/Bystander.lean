import WirelessHarness.Protocol.FrameLayer
import WirelessHarness.Slave.Reception

/-!
# Traffic meant for others

All slaves, the master and the backend share one radio channel, so a slave's
parser sees every frame on it.  A frame that is not a well-formed
`Master2Slave` frame for this slave is refused before any message class is
constructed, and two runs that differ by such frames end in the same state.
-/

namespace WirelessHarness

open CheckedRead Runs SlaveDevice

namespace Bystander

/-! ## Frames for a slave -/

/-- A frame of a known `Master2Slave` message to this slave or to all slaves,
with any payload and any fragment fields.  A frame whose payload is too short
or too long for its message counts too: the slave goes on to deserialize it. -/
def AddressedTo (uid : UInt32) (raw_data : Bytes) : Prop :=
  ∃ (id : Master2SlaveMessageID) (destination_id : UInt32) (payload : Bytes)
    (fragment_seq more_fragments : UInt8),
    let packet : Master2SlavePacket := ⟨id.toUInt8, destination_id, payload⟩
    raw_data = FramePacker.packData .master2Slave packet.serialize
        fragment_seq more_fragments ∧
      packet.serialize.length < 65536 ∧
      (destination_id = 0xFFFFFFFF ∨ destination_id = uid)

/-- What the slave's parser lets through. -/
theorem selectPacket_slave {uid : UInt32} {packet_id : UInt8}
    {packet_data payload : Bytes} {cls : MessageClass}
    (h : FrameParser.selectPacket .slave uid packet_id packet_data =
      some (cls, payload)) :
    ∃ packet id, packet_id = PacketType.master2Slave.toUInt8 ∧
      wireAddressed packet_data = some packet ∧
      (packet.id = 0xFFFFFFFF ∨ packet.id = uid) ∧
      Master2SlaveMessageID.ofUInt8? packet.message_id = some id ∧
      cls = .master2Slave id ∧ payload = packet.payload := by
  simp only [FrameParser.selectPacket, Option.ite_none_right_eq_some] at h
  obtain ⟨htype, h⟩ := h
  obtain ⟨packet, hpacket, h⟩ := Option.bind_eq_some_iff.mp h
  rw [Option.ite_none_right_eq_some] at h
  obtain ⟨hdest, h⟩ := h
  obtain ⟨id, hid, h⟩ := Option.bind_eq_some_iff.mp h
  cases h
  exact ⟨packet, id, htype, hpacket, hdest, hid, rfl, rfl⟩

/-- The parser constructs a message exactly for the frames addressed to its
slave. -/
theorem select_slave_ne_none_iff (uid : UInt32) (raw_data : Bytes) :
    FrameParser.select .slave uid raw_data ≠ none ↔
      AddressedTo uid raw_data := by
  constructor
  · intro h
    obtain ⟨⟨cls, payload⟩, hsel⟩ := Option.ne_none_iff_exists'.mp h
    obtain ⟨⟨packet_id, packet_data⟩, hwire, hpacket⟩ :=
      Option.bind_eq_some_iff.mp hsel
    obtain ⟨packet, id, rfl, hdata, hdest, hid, -, -⟩ :=
      selectPacket_slave hpacket
    rw [Master2SlaveMessageID.ofUInt8?_eq_some_iff] at hid
    have hpack : (⟨id.toUInt8, packet.id, packet.payload⟩ :
        Master2SlavePacket).serialize = packet_data := by
      rw [← hid]
      exact AddressedPacket.serialize_of_wire hdata
    have hlength := length_lt_of_wireFrame hwire
    obtain ⟨seq, more, rfl⟩ := exists_packData_of_wireFrame hwire
    refine ⟨id, packet.id, packet.payload, seq, more, ?_, ?_, hdest⟩
    · rw [hpack]
    · rw [hpack]
      exact hlength
  · rintro ⟨id, destination_id, payload, seq, more, rfl, hfits, hdest⟩
    rw [FrameParser.select, wireFrame_packData .master2Slave hfits]
    simp [FrameParser.selectPacket, wireAddressed_serialize, hdest]

/-! ## Runs of a slave -/

/-- What reaches a slave's program: a frame that one call of `proc` finds in
the receive queue, or a tick of the scan timer. -/
inductive Event
  | frame (raw_data : Bytes)
  | callback (input : GpioInput)

/-- Callbacks happen only while the timer is active. -/
def step (s : SlaveDevice) : Event → Option SlaveDevice
  | .frame raw_data =>
      let queued : Reception :=
        { device := s, pending := [], rx_data_queue := raw_data }
      some queued.proc.device
  | .callback input =>
      if s.board.harness.timerActive then
        some { s with board := Harness.myTimerCallback input s.board }
      else none

/-- A frame that is not for the slave. -/
def Foreign (uid : UInt32) : Event → Prop
  | .frame raw_data => ¬ AddressedTo uid raw_data
  | .callback _ => False

theorem foreign_of_select_none {uid : UInt32} {raw_data : Bytes}
    (h : FrameParser.select .slave uid raw_data = none) :
    Foreign uid (.frame raw_data) :=
  fun haddressed => (select_slave_ne_none_iff uid raw_data).mpr haddressed h

/-- A `proc` call parses what it finds in the queue. -/
theorem step_frame (s : SlaveDevice) {raw_data : Bytes}
    (h : raw_data ≠ []) :
    step s (.frame raw_data) = some (s.parseAndProcess raw_data).2 := by
  simp [step, Reception.proc, Reception.handle, h]

theorem uid_step (s : SlaveDevice) (e : Event) (s' : SlaveDevice)
    (h : step s e = some s') : s'.uid = s.uid := by
  rcases e with raw_data | input
  · by_cases hempty : raw_data = []
    · subst hempty
      cases h
      rfl
    · rw [step_frame s hempty] at h
      cases h
      exact uid_parseAndProcess s raw_data
  · obtain ⟨-, heq⟩ := Option.ite_none_right_eq_some.mp h
    cases heq
    rfl

/-- Every refusal of the parser leaves the slave as it was. -/
theorem step_foreign (s : SlaveDevice) {e : Event} (h : Foreign s.uid e) :
    step s e = some s := by
  rcases e with raw_data | input
  · have hsel : FrameParser.select .slave s.uid raw_data = none := by
      by_contra hsome
      exact h ((select_slave_ne_none_iff s.uid raw_data).mp hsome)
    by_cases hempty : raw_data = []
    · subst hempty
      rfl
    · rw [step_frame s hempty, parseAndProcess,
        FrameParser.parse_of_select_none hsel]
  · exact h.elim

/-- Runs that differ by frames for others end with the same message fields and
the same harness, and send the same frames. -/
theorem run_eq_of_foreign (s : SlaveDevice) {es fs : List Event}
    (h : DifferBy (Foreign s.uid) es fs) : run step s es = run step s fs := by
  apply run_eq_of_differBy (I := fun t => t.uid = s.uid) _ _ h rfl
  · intro t e t' ht hstep
    rw [uid_step t e t' hstep, ht]
  · intro t e ht he
    rw [← ht] at he
    exact step_foreign t he

/-- A `CondCfgMsg` frame for one of two slaves with a line each. -/
def condCfgFrame (startConductionNum : UInt16) (uid : UInt32) : Bytes :=
  FramePacker.packMaster2Slave
    (PacketPacker.master2SlavePack .condCfgMsg
      (⟨0, 20, 2, startConductionNum, 1⟩ : Master2Slave.CondCfgMsg) uid)

/-- Slave 0 is configured and started, and hears slave 1 configured and the
first two bytes of some frame, or neither. -/
theorem run_eq_of_other_configured :
    run step bootDevice
        [.frame (condCfgFrame 0 0), .frame (condCfgFrame 1 1),
          .frame Reception.syncFrame, .frame [0xAB, 0xCD],
          .callback fun _ _ => true] =
      run step bootDevice
        [.frame (condCfgFrame 0 0), .frame Reception.syncFrame,
          .callback fun _ _ => true] := by
  refine run_eq_of_foreign bootDevice (.keep _ (.left ?_ (.keep _ (.left ?_
    (.keep _ .nil)))))
  · exact foreign_of_select_none (by decide)
  · exact foreign_of_select_none rfl

end Bystander

end WirelessHarness

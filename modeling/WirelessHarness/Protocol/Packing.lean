import WirelessHarness.Protocol.Soundness

/-!
# Packing messages

`PacketPacker` and the way back: a packed frame selects the class it was packed
from, on the role and the slave it is meant for.
-/

namespace WirelessHarness

open ByteOrder CheckedRead ProtocolUtils

/-! ## Packet packer -/

def MessageClass.message_type : MessageClass → UInt8
  | .master2Slave id => id.toUInt8
  | .slave2Master id => id.toUInt8
  | .backend2Master id => id.toUInt8
  | .master2Backend id => id.toUInt8
  | .slave2Backend id => id.toUInt8

/-- `msg.serialize(packet.payload)` on the empty payload of a new packet. -/
def serializePayload : (cls : MessageClass) → cls.Fields → Bytes
  | .master2Slave .syncMsg, m => Master2Slave.SyncMsg.serialize m []
  | .master2Slave .condCfgMsg, m => Master2Slave.CondCfgMsg.serialize m []
  | .master2Slave .resCfgMsg, m => Master2Slave.ResCfgMsg.serialize m []
  | .master2Slave .clipCfgMsg, m => Master2Slave.ClipCfgMsg.serialize m []
  | .master2Slave .readCondDataMsg, reserve =>
      Master2Slave.serializeReserve reserve []
  | .master2Slave .readResDataMsg, reserve =>
      Master2Slave.serializeReserve reserve []
  | .master2Slave .readClipDataMsg, reserve =>
      Master2Slave.serializeReserve reserve []
  | .master2Slave .rstMsg, m => Master2Slave.RstMsg.serialize m []
  | .slave2Master .condCfgMsg, m => Slave2Master.CondCfgMsg.serialize m []
  | .slave2Master .resCfgMsg, m => Slave2Master.ResCfgMsg.serialize m []
  | .slave2Master .clipCfgMsg, m => Slave2Master.ClipCfgMsg.serialize m []
  | .slave2Master .rstMsg, m => Slave2Master.RstMsg.serialize m []
  | .backend2Master .slaveCfgMsg, m =>
      Backend2Master.SlaveCfgMsg.serialize m []
  | .backend2Master .modeCfgMsg, m => Backend2Master.ModeCfgMsg.serialize m []
  | .backend2Master .rstMsg, m => Backend2Master.RstMsg.serialize m []
  | .backend2Master .ctrlMsg, m => Backend2Master.CtrlMsg.serialize m []
  | .master2Backend .slaveCfgMsg, m =>
      Master2Backend.SlaveCfgMsg.serialize m []
  | .master2Backend .modeCfgMsg, m => Master2Backend.ModeCfgMsg.serialize m []
  | .master2Backend .rstMsg, m => Master2Backend.RstMsg.serialize m []
  | .master2Backend .ctrlMsg, m => Master2Backend.CtrlMsg.serialize m []
  | .slave2Backend .condDataMsg, m => Slave2Backend.CondDataMsg.serialize m []
  | .slave2Backend .resDataMsg, m => Slave2Backend.ResDataMsg.serialize m []
  | .slave2Backend .clipDataMsg, m => Slave2Backend.ClipDataMsg.serialize m []

namespace PacketPacker

def master2SlavePack (id : Master2SlaveMessageID)
    (msg : (MessageClass.master2Slave id).Fields) (destination_id : UInt32) :
    Master2SlavePacket :=
  ⟨(MessageClass.master2Slave id).message_type, destination_id,
    serializePayload (.master2Slave id) msg⟩

def slave2MasterPack (id : Slave2MasterMessageID)
    (msg : (MessageClass.slave2Master id).Fields) (source_id : UInt32) :
    Slave2MasterPacket :=
  ⟨(MessageClass.slave2Master id).message_type, source_id,
    serializePayload (.slave2Master id) msg⟩

def backend2MasterPack (id : Backend2MasterMessageID)
    (msg : (MessageClass.backend2Master id).Fields) : Backend2MasterPacket :=
  ⟨(MessageClass.backend2Master id).message_type,
    serializePayload (.backend2Master id) msg⟩

def master2BackendPack (id : Master2BackendMessageID)
    (msg : (MessageClass.master2Backend id).Fields) : Master2BackendPacket :=
  ⟨(MessageClass.master2Backend id).message_type,
    serializePayload (.master2Backend id) msg⟩

/-- The source never assigns `device_status`; it is what the packet object
happens to hold. -/
def slave2BackendPack (id : Slave2BackendMessageID)
    (msg : (MessageClass.slave2Backend id).Fields) (slave_id : UInt32)
    (device_status : UInt16) : Slave2BackendPacket :=
  ⟨(MessageClass.slave2Backend id).message_type, slave_id, device_status,
    serializePayload (.slave2Backend id) msg⟩

end PacketPacker

/-! ## Reading packed data back -/

theorem wireAddressed_serialize (p : AddressedPacket) :
    wireAddressed p.serialize = some p := by
  simp [AddressedPacket.serialize, serializeUint32, bytes32, wireAddressed]

theorem wirePlain_serialize (p : PlainPacket) :
    wirePlain p.serialize = some p := rfl

theorem wireSlave2Backend_serialize (p : Slave2BackendPacket) :
    wireSlave2Backend p.serialize = some p := by
  simp [Slave2BackendPacket.serialize, serializeUint32, bytes32, bytes16,
    wireSlave2Backend]

theorem AddressedPacket.length_serialize (p : AddressedPacket) :
    p.serialize.length = p.payload.length + 5 := by
  simp only [serialize, serializeUint32, List.length_append, length_bytes32,
    List.length_cons, List.length_nil]
  omega

theorem PlainPacket.length_serialize (p : PlainPacket) :
    p.serialize.length = p.payload.length + 1 :=
  List.length_cons

theorem Slave2BackendPacket.length_serialize (p : Slave2BackendPacket) :
    p.serialize.length = p.payload.length + 7 := by
  simp only [serialize, serializeUint32, List.length_append, length_bytes32,
    length_bytes16, List.length_cons, List.length_nil]
  omega

theorem length_packData (type : PacketType) (packet_data : Bytes)
    (fragment_seq more_fragments : UInt8) :
    (FramePacker.packData type packet_data fragment_seq
        more_fragments).length =
      FrameHeader.HEADER_SIZE + packet_data.length := by
  simp only [FramePacker.packData, FrameHeader.serialize, List.length_append,
    List.length_cons, List.length_nil, length_bytes16,
    FrameHeader.HEADER_SIZE]

/-- The header comes back, with the length as it was narrowed. -/
theorem deserialize_packData (type : PacketType) (packet_data : Bytes)
    (fragment_seq more_fragments : UInt8) :
    FrameHeader.deserialize
        (FramePacker.packData type packet_data fragment_seq more_fragments) =
      .ok (some ⟨type.toUInt8, fragment_seq, more_fragments,
        UInt16.ofNat packet_data.length⟩) := by
  simp only [FramePacker.packData, FrameHeader.serialize, bytes16,
    List.cons_append, List.nil_append, FrameHeader.deserialize_cons,
    word16_bytes]
  rfl

/-- The narrowed length field is the length up to 65535 bytes, and nothing may
follow the frame. -/
theorem wireFrame_packData_append (type : PacketType)
    (packet_data rest : Bytes) {fragment_seq more_fragments : UInt8} :
    wireFrame (FramePacker.packData type packet_data fragment_seq
        more_fragments ++ rest) =
      if rest = [] ∧ packet_data.length < 65536 then
        some (type.toUInt8, packet_data)
      else none := by
  have hword : (UInt16.ofNat packet_data.length).toNat =
      packet_data.length % 65536 :=
    UInt16.toNat_ofNat' ..
  have hlength : (packet_data ++ rest).length = packet_data.length % 65536 ↔
      rest = [] ∧ packet_data.length < 65536 := by
    rw [List.length_append, ← List.length_eq_zero_iff]
    omega
  unfold FramePacker.packData
  generalize UInt16.ofNat packet_data.length = w at hword ⊢
  simp only [FrameHeader.serialize, bytes16, List.cons_append,
    List.nil_append, wireFrame, word16_bytes, hword, hlength, true_and]
  split
  next h => rw [h.1, List.append_nil]
  · rfl

theorem wireFrame_packData (type : PacketType) {packet_data : Bytes}
    {fragment_seq more_fragments : UInt8} (h : packet_data.length < 65536) :
    wireFrame (FramePacker.packData type packet_data fragment_seq
        more_fragments) =
      some (type.toUInt8, packet_data) := by
  simpa [h] using wireFrame_packData_append type packet_data []

namespace FrameParser

/-- A slave lets through what is meant for it or for everyone. -/
theorem select_packMaster2Slave (uid destination_id : UInt32)
    (id : Master2SlaveMessageID) (payload : Bytes)
    (hlen : payload.length + 5 < 65536) :
    select .slave uid (FramePacker.packMaster2Slave
        ⟨id.toUInt8, destination_id, payload⟩) =
      if destination_id = 0xFFFFFFFF ∨ destination_id = uid then
        some (.master2Slave id, payload)
      else none := by
  have hsize : (AddressedPacket.serialize
      ⟨id.toUInt8, destination_id, payload⟩).length < 65536 := by
    rw [AddressedPacket.length_serialize]
    exact hlen
  simp [select, FramePacker.packMaster2Slave, wireFrame_packData _ hsize,
    selectPacket, wireAddressed_serialize]

/-- A slave's frame is selected if it is not too long and nothing follows
it. -/
theorem select_packSlave2Master (uid source_id : UInt32)
    (id : Slave2MasterMessageID) (payload rest : Bytes) :
    select .master uid (FramePacker.packSlave2Master
        ⟨id.toUInt8, source_id, payload⟩ ++ rest) =
      if rest = [] ∧ payload.length + 5 < 65536 then
        some (.slave2Master id, payload)
      else none := by
  have hsize := AddressedPacket.length_serialize
    ⟨id.toUInt8, source_id, payload⟩
  rw [select, FramePacker.packSlave2Master, wireFrame_packData_append, hsize]
  split
  · simp [selectPacket, wireAddressed_serialize]
  · rfl

theorem select_packBackend2Master (uid : UInt32)
    (id : Backend2MasterMessageID) {payload : Bytes}
    (hlen : payload.length + 1 < 65536) :
    select .master uid (FramePacker.packBackend2Master
        ⟨id.toUInt8, payload⟩) =
      some (.backend2Master id, payload) := by
  have hsize : (PlainPacket.serialize ⟨id.toUInt8, payload⟩).length <
      65536 := by
    rw [PlainPacket.length_serialize]
    exact hlen
  simp [select, FramePacker.packBackend2Master, wireFrame_packData _ hsize,
    selectPacket, wirePlain_serialize, PacketType.toUInt8]

theorem select_packMaster2Backend (uid : UInt32)
    (id : Master2BackendMessageID) {payload : Bytes}
    (hlen : payload.length + 1 < 65536) :
    select .backend uid (FramePacker.packMaster2Backend
        ⟨id.toUInt8, payload⟩) =
      some (.master2Backend id, payload) := by
  have hsize : (PlainPacket.serialize ⟨id.toUInt8, payload⟩).length <
      65536 := by
    rw [PlainPacket.length_serialize]
    exact hlen
  simp [select, FramePacker.packMaster2Backend, wireFrame_packData _ hsize,
    selectPacket, wirePlain_serialize]

/-- A data frame is selected if it is not too long and nothing follows it. -/
theorem select_packSlave2Backend (uid slave_id : UInt32)
    (device_status : UInt16) (id : Slave2BackendMessageID)
    (payload rest : Bytes) :
    select .master uid (FramePacker.packSlave2Backend
        ⟨id.toUInt8, slave_id, device_status, payload⟩ ++ rest) =
      if rest = [] ∧ payload.length + 7 < 65536 then
        some (.slave2Backend id, payload)
      else none := by
  have hsize := Slave2BackendPacket.length_serialize
    ⟨id.toUInt8, slave_id, device_status, payload⟩
  rw [select, FramePacker.packSlave2Backend, wireFrame_packData_append, hsize]
  split
  · simp [selectPacket, wireSlave2Backend_serialize, PacketType.toUInt8]
  · rfl

/-- What a slave decodes from a packed message whose layout reads back. -/
theorem decodeFrame_master2SlavePack {uid destination_id : UInt32}
    (id : Master2SlaveMessageID) (msg : (MessageClass.master2Slave id).Fields)
    (hdest : destination_id = 0xFFFFFFFF ∨ destination_id = uid)
    (hlen : (serializePayload (.master2Slave id) msg).length + 5 < 65536)
    (hdec : decode (.master2Slave id)
      (serializePayload (.master2Slave id) msg) = some msg) :
    decodeFrame .slave uid (FramePacker.packMaster2Slave
        (PacketPacker.master2SlavePack id msg destination_id)) =
      some ⟨.master2Slave id, msg⟩ := by
  rw [decodeFrame, PacketPacker.master2SlavePack,
    MessageClass.message_type, select_packMaster2Slave uid _ id _ hlen,
    if_pos hdest]
  simp [hdec]

end FrameParser

theorem decode_serialize_condCfgMsg (m : Master2Slave.CondCfgMsg) :
    decode (.master2Slave .condCfgMsg)
      (serializePayload (.master2Slave .condCfgMsg) m) = some m := by
  simp only [decode, serializePayload, Master2Slave.CondCfgMsg.serialize,
    bytes16, List.nil_append, List.cons_append,
    Master2Slave.CondCfgMsg.decode, word16_bytes]
  rfl

end WirelessHarness

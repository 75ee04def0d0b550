import WirelessHarness.Support.ByteOrder
import WirelessHarness.Support.CheckedRead
import Mathlib.Tactic.Tauto

/-!
# Frames and packets

The two outer layers of the protocol: the frame header with its delimiter and
length field, and the five packet layouts carried by a frame.  Serialization
appends bytes as the C++ structs do; deserialization reads by index, in the
checked-read monad.
-/

namespace WirelessHarness

open ByteOrder CheckedRead

/-- `std::vector<uint8_t>`. -/
abbrev Bytes := List UInt8

inductive PacketType
  | master2Slave
  | slave2Master
  | backend2Master
  | master2Backend
  | slave2Backend
deriving DecidableEq, Repr

namespace PacketType

def toUInt8 : PacketType → UInt8
  | master2Slave => 0x00
  | slave2Master => 0x01
  | backend2Master => 0x02
  | master2Backend => 0x03
  | slave2Backend => 0x04

end PacketType

namespace ProtocolUtils

def serializeUint32 (data : Bytes) (value : UInt32) : Bytes :=
  data ++ bytes32 value

def deserializeUint32 (data : Bytes) (offset : ℕ) :
    Except OutOfRange UInt32 := do
  let b₀ ← readAt data offset
  let b₁ ← readAt data (offset + 1)
  let b₂ ← readAt data (offset + 2)
  let b₃ ← readAt data (offset + 3)
  return word32 b₀ b₁ b₂ b₃

end ProtocolUtils

open ProtocolUtils

/-- `data[i] | (data[i + 1] << 8)`, the way every 16-bit field is read. -/
def deserializeUint16 (data : Bytes) (offset : ℕ) :
    Except OutOfRange UInt16 := do
  let lo ← readAt data offset
  let hi ← readAt data (offset + 1)
  return word16 lo hi

/-! ## Frame header -/

structure FrameHeader where
  packet_id : UInt8
  fragment_sequence : UInt8
  more_fragments_flag : UInt8
  data_length : UInt16
deriving DecidableEq, Repr

namespace FrameHeader

def FRAME_DELIMITER₀ : UInt8 := 0xAB

def FRAME_DELIMITER₁ : UInt8 := 0xCD

def HEADER_SIZE : ℕ := 7

def serialize (h : FrameHeader) : Bytes :=
  [FRAME_DELIMITER₀, FRAME_DELIMITER₁, h.packet_id, h.fragment_sequence,
    h.more_fragments_flag] ++ bytes16 h.data_length

/-- `none` is the source's `return false`. -/
def deserialize (data : Bytes) : Except OutOfRange (Option FrameHeader) := do
  if data.length < HEADER_SIZE then
    return none
  let d₀ ← readAt data 0
  let d₁ ← readAt data 1
  if d₀ ≠ FRAME_DELIMITER₀ ∨ d₁ ≠ FRAME_DELIMITER₁ then
    return none
  let packet_id ← readAt data 2
  let fragment_sequence ← readAt data 3
  let more_fragments_flag ← readAt data 4
  let data_length ← deserializeUint16 data 5
  return some ⟨packet_id, fragment_sequence, more_fragments_flag, data_length⟩

end FrameHeader

/-! ## Packets -/

/-- `Master2SlavePacket` and `Slave2MasterPacket` have the same layout: a
message id, a 32-bit id and the payload. -/
structure AddressedPacket where
  message_id : UInt8
  id : UInt32
  payload : Bytes
deriving DecidableEq, Repr

namespace AddressedPacket

def serialize (p : AddressedPacket) : Bytes :=
  serializeUint32 [p.message_id] p.id ++ p.payload

def deserialize (data : Bytes) :
    Except OutOfRange (Option AddressedPacket) := do
  if data.length < 5 then
    return none
  let message_id ← readAt data 0
  let id ← deserializeUint32 data 1
  return some ⟨message_id, id, data.drop 5⟩

end AddressedPacket

/-- The id is `destination_id`. -/
abbrev Master2SlavePacket := AddressedPacket

/-- The id is `source_id`. -/
abbrev Slave2MasterPacket := AddressedPacket

/-- `Backend2MasterPacket` and `Master2BackendPacket` carry only a message id
and the payload. -/
structure PlainPacket where
  message_id : UInt8
  payload : Bytes
deriving DecidableEq, Repr

namespace PlainPacket

def serialize (p : PlainPacket) : Bytes :=
  p.message_id :: p.payload

def deserialize (data : Bytes) : Except OutOfRange (Option PlainPacket) := do
  if data.length < 1 then
    return none
  let message_id ← readAt data 0
  return some ⟨message_id, data.drop 1⟩

end PlainPacket

abbrev Backend2MasterPacket := PlainPacket

abbrev Master2BackendPacket := PlainPacket

/-- `device_status` is the 16-bit image of the source's bit field. -/
structure Slave2BackendPacket where
  message_id : UInt8
  slave_id : UInt32
  device_status : UInt16
  payload : Bytes
deriving DecidableEq, Repr

namespace Slave2BackendPacket

def serialize (p : Slave2BackendPacket) : Bytes :=
  serializeUint32 [p.message_id] p.slave_id ++ bytes16 p.device_status ++
    p.payload

def deserialize (data : Bytes) :
    Except OutOfRange (Option Slave2BackendPacket) := do
  if data.length < 7 then
    return none
  let message_id ← readAt data 0
  let slave_id ← deserializeUint32 data 1
  let device_status ← deserializeUint16 data 5
  return some ⟨message_id, slave_id, device_status, data.drop 7⟩

end Slave2BackendPacket

/-! ## Packing -/

namespace FramePacker

/-- Every `FramePacker::pack` overload: the header of the packet's type in
front of the serialized packet.  The length is narrowed to 16 bits. -/
def packData (type : PacketType) (packet_data : Bytes)
    (fragment_seq : UInt8 := 0) (more_fragments : UInt8 := 0) : Bytes :=
  FrameHeader.serialize
    { packet_id := type.toUInt8
      fragment_sequence := fragment_seq
      more_fragments_flag := more_fragments
      data_length := UInt16.ofNat packet_data.length } ++ packet_data

def packMaster2Slave (packet : Master2SlavePacket) : Bytes :=
  packData .master2Slave packet.serialize

def packSlave2Master (packet : Slave2MasterPacket) : Bytes :=
  packData .slave2Master packet.serialize

def packBackend2Master (packet : Backend2MasterPacket) : Bytes :=
  packData .backend2Master packet.serialize

def packMaster2Backend (packet : Master2BackendPacket) : Bytes :=
  packData .master2Backend packet.serialize

def packSlave2Backend (packet : Slave2BackendPacket) : Bytes :=
  packData .slave2Backend packet.serialize

end FramePacker

/-! ## What a frame on the wire contains -/

/-- Packet id and packet data of a byte vector that is exactly one frame. -/
def wireFrame : Bytes → Option (UInt8 × Bytes)
  | d₀ :: d₁ :: packet_id :: _ :: _ :: l₀ :: l₁ :: packet_data =>
      if d₀ = FrameHeader.FRAME_DELIMITER₀ ∧
          d₁ = FrameHeader.FRAME_DELIMITER₁ ∧
          packet_data.length = (word16 l₀ l₁).toNat then
        some (packet_id, packet_data)
      else none
  | _ => none

/-- Message id, 32-bit id and payload of addressed packet data. -/
def wireAddressed : Bytes → Option AddressedPacket
  | message_id :: b₀ :: b₁ :: b₂ :: b₃ :: payload =>
      some ⟨message_id, word32 b₀ b₁ b₂ b₃, payload⟩
  | _ => none

/-- Message id and payload of plain packet data. -/
def wirePlain : Bytes → Option PlainPacket
  | message_id :: payload => some ⟨message_id, payload⟩
  | [] => none

/-- Fields of slave-to-backend packet data. -/
def wireSlave2Backend : Bytes → Option Slave2BackendPacket
  | message_id :: b₀ :: b₁ :: b₂ :: b₃ :: s₀ :: s₁ :: payload =>
      some ⟨message_id, word32 b₀ b₁ b₂ b₃, word16 s₀ s₁, payload⟩
  | _ => none

/-- A frame header is seven bytes that start with the delimiter. -/
theorem FrameHeader.deserialize_cons (d₀ d₁ packet_id seq more l₀ l₁ : UInt8)
    (rest : Bytes) :
    FrameHeader.deserialize
        (d₀ :: d₁ :: packet_id :: seq :: more :: l₀ :: l₁ :: rest) =
      .ok (if d₀ = FRAME_DELIMITER₀ ∧ d₁ = FRAME_DELIMITER₁ then
        some ⟨packet_id, seq, more, word16 l₀ l₁⟩ else none) := by
  have hsize : ¬ (d₀ :: d₁ :: packet_id :: seq :: more :: l₀ :: l₁ ::
      rest).length < HEADER_SIZE := by
    simp [HEADER_SIZE]
  simp only [deserialize, if_neg hsize]
  by_cases h : d₀ = FRAME_DELIMITER₀ ∧ d₁ = FRAME_DELIMITER₁
  · simp [readAt, deserializeUint16, h]
  · have hne : d₀ ≠ FRAME_DELIMITER₀ ∨ d₁ ≠ FRAME_DELIMITER₁ := by
      tauto
    simp [readAt, h, hne]

theorem AddressedPacket.deserialize_eq (data : Bytes) :
    AddressedPacket.deserialize data = .ok (wireAddressed data) := by
  match data with
  | [] | [_] | [_, _] | [_, _, _] | [_, _, _, _] => rfl
  | _ :: _ :: _ :: _ :: _ :: payload =>
      simp [deserialize, wireAddressed, deserializeUint32, readAt]

theorem PlainPacket.deserialize_eq (data : Bytes) :
    PlainPacket.deserialize data = .ok (wirePlain data) := by
  match data with
  | [] => rfl
  | _ :: payload =>
      simp [deserialize, wirePlain, readAt]

theorem Slave2BackendPacket.deserialize_eq (data : Bytes) :
    Slave2BackendPacket.deserialize data = .ok (wireSlave2Backend data) := by
  match data with
  | [] | [_] | [_, _] | [_, _, _] | [_, _, _, _] | [_, _, _, _, _]
  | [_, _, _, _, _, _] => rfl
  | _ :: _ :: _ :: _ :: _ :: _ :: _ :: payload =>
      simp [deserialize, wireSlave2Backend, deserializeUint32,
        deserializeUint16, readAt]

end WirelessHarness

import WirelessHarness.Protocol.Packing

/-!
# The frame layer

What `FramePacker::pack` and the part of `FrameParser::parse` in front of the
message classes do to a packet of any kind: the packet comes back with its
fragment fields, or it is too long for the 16-bit length field and the frame is
refused.
-/

namespace WirelessHarness

open ByteOrder CheckedRead ProtocolUtils

/-! ## Packets of all kinds -/

inductive Packet
  | master2Slave (packet : Master2SlavePacket)
  | slave2Master (packet : Slave2MasterPacket)
  | backend2Master (packet : Backend2MasterPacket)
  | master2Backend (packet : Master2BackendPacket)
  | slave2Backend (packet : Slave2BackendPacket)
deriving DecidableEq, Repr

namespace Packet

def type : Packet → PacketType
  | master2Slave _ => .master2Slave
  | slave2Master _ => .slave2Master
  | backend2Master _ => .backend2Master
  | master2Backend _ => .master2Backend
  | slave2Backend _ => .slave2Backend

def serialize : Packet → Bytes
  | master2Slave packet => packet.serialize
  | slave2Master packet => packet.serialize
  | backend2Master packet => packet.serialize
  | master2Backend packet => packet.serialize
  | slave2Backend packet => packet.serialize

/-- The `deserialize` of the packet struct of this type; `none` is the source's
`return false`. -/
def deserialize (type : PacketType) (data : Bytes) :
    Except OutOfRange (Option Packet) :=
  match type with
  | .master2Slave => do
      return (← AddressedPacket.deserialize data).map master2Slave
  | .slave2Master => do
      return (← AddressedPacket.deserialize data).map slave2Master
  | .backend2Master => do
      return (← PlainPacket.deserialize data).map backend2Master
  | .master2Backend => do
      return (← PlainPacket.deserialize data).map master2Backend
  | .slave2Backend => do
      return (← Slave2BackendPacket.deserialize data).map slave2Backend

theorem deserialize_serialize (p : Packet) :
    deserialize p.type p.serialize = .ok (some p) := by
  cases p with
  | master2Slave packet | slave2Master packet =>
      simp [deserialize, type, serialize, AddressedPacket.deserialize_eq,
        wireAddressed_serialize]
  | backend2Master packet | master2Backend packet =>
      simp [deserialize, type, serialize, PlainPacket.deserialize_eq,
        wirePlain_serialize]
  | slave2Backend packet =>
      simp [deserialize, type, serialize, Slave2BackendPacket.deserialize_eq,
        wireSlave2Backend_serialize]

end Packet

/-- The five `FramePacker::pack` overloads; none of them uses `slot`. -/
def FramePacker.pack (packet : Packet) (_slot fragment_seq more_fragments :
    UInt8) : Bytes :=
  packData packet.type packet.serialize fragment_seq more_fragments

/-- With both fragment fields 0 these are the five functions by name. -/
theorem FramePacker.pack_zero (packet : Packet) (slot : UInt8) :
    pack packet slot 0 0 =
      match packet with
      | .master2Slave packet => packMaster2Slave packet
      | .slave2Master packet => packSlave2Master packet
      | .backend2Master packet => packBackend2Master packet
      | .master2Backend packet => packMaster2Backend packet
      | .slave2Backend packet => packSlave2Backend packet := by
  cases packet <;> rfl

/-! ## The front of the parser -/

namespace FrameParser

/-- The header and the packet data of a frame that passes the header check and
the size check. -/
def extract (raw_data : Bytes) :
    Except OutOfRange (Option (FrameHeader × Bytes)) := do
  let some header ← FrameHeader.deserialize raw_data
    | return none
  if raw_data.length ≠ FrameHeader.HEADER_SIZE + header.data_length.toNat then
    return none
  return some (header,
    (raw_data.drop FrameHeader.HEADER_SIZE).take header.data_length.toNat)

/-- `parse` hands what it extracts to the part for its role. -/
theorem parse_eq_extract (role : Role) (uid : UInt32) (raw_data : Bytes)
    (st : Statics) :
    parse role uid raw_data st = (do
      let some (header, packet_data) ← extract raw_data
        | return (none, st)
      match role with
      | .master => parseMaster header packet_data st
      | .slave => parseSlave uid header packet_data st
      | .backend => parseBackend header packet_data st) := by
  unfold parse extract
  cases FrameHeader.deserialize raw_data with
  | error e => rfl
  | ok header? =>
      cases header? with
      | none => rfl
      | some header =>
          simp only [ok_bind]
          split <;> rfl

/-! ## Packed frames -/

/-- The header that `pack` writes. -/
def packedHeader (p : Packet) (fragment_seq more_fragments : UInt8) :
    FrameHeader where
  packet_id := p.type.toUInt8
  fragment_sequence := fragment_seq
  more_fragments_flag := more_fragments
  data_length := UInt16.ofNat p.serialize.length

theorem deserialize_pack (p : Packet) (slot fragment_seq more_fragments :
    UInt8) :
    FrameHeader.deserialize
        (FramePacker.pack p slot fragment_seq more_fragments) =
      .ok (some (packedHeader p fragment_seq more_fragments)) :=
  deserialize_packData p.type p.serialize fragment_seq more_fragments

theorem length_pack (p : Packet) (slot fragment_seq more_fragments : UInt8) :
    (FramePacker.pack p slot fragment_seq more_fragments).length =
      FrameHeader.HEADER_SIZE + p.serialize.length :=
  length_packData p.type p.serialize fragment_seq more_fragments

/-- The size check passes exactly when the length was not narrowed. -/
theorem size_pack_iff (p : Packet) (slot fragment_seq more_fragments :
    UInt8) :
    (FramePacker.pack p slot fragment_seq more_fragments).length =
        FrameHeader.HEADER_SIZE +
          (packedHeader p fragment_seq more_fragments).data_length.toNat ↔
      p.serialize.length ≤ 65535 := by
  have hword : (packedHeader p fragment_seq more_fragments).data_length.toNat
      = p.serialize.length % 65536 :=
    UInt16.toNat_ofNat' ..
  rw [length_pack, hword]
  omega

/-- A packed packet that fits comes back with its header and its fields; one
that is too long fails the size check. -/
theorem extract_pack (p : Packet) (slot fragment_seq more_fragments :
    UInt8) :
    extract (FramePacker.pack p slot fragment_seq more_fragments) =
      .ok (if p.serialize.length ≤ 65535 then
        some (packedHeader p fragment_seq more_fragments, p.serialize)
      else none) := by
  have hsize := size_pack_iff p slot fragment_seq more_fragments
  simp only [extract, deserialize_pack, ok_bind, ne_eq, hsize]
  by_cases hlen : p.serialize.length ≤ 65535
  · have hdata : (FramePacker.pack p slot fragment_seq more_fragments).drop
        FrameHeader.HEADER_SIZE = p.serialize := rfl
    have htake : (packedHeader p fragment_seq
        more_fragments).data_length.toNat = p.serialize.length := by
      have := hsize.mpr hlen
      rw [length_pack] at this
      omega
    rw [if_neg (not_not.mpr hlen), if_pos hlen, hdata, htake, List.take_length]
    rfl
  · rw [if_pos hlen, if_neg hlen]
    rfl

/-- No packet is delivered mangled: the frame of a packet gives back the packet
and its fragment fields, or no role parses it. -/
theorem recovers_pack (p : Packet) (slot fragment_seq more_fragments :
    UInt8) :
    let frame := FramePacker.pack p slot fragment_seq more_fragments
    ∃ header, FrameHeader.deserialize frame = .ok (some header) ∧
      header.packet_id = p.type.toUInt8 ∧
      header.fragment_sequence = fragment_seq ∧
      header.more_fragments_flag = more_fragments ∧
      (p.serialize.length ≤ 65535 →
        frame.length =
            FrameHeader.HEADER_SIZE + header.data_length.toNat ∧
          extract frame = .ok (some (header, p.serialize)) ∧
          Packet.deserialize p.type p.serialize = .ok (some p)) ∧
      (65535 < p.serialize.length →
        frame.length ≠
            FrameHeader.HEADER_SIZE + header.data_length.toNat ∧
          ∀ role uid st, parse role uid frame st = .ok (none, st)) := by
  refine ⟨packedHeader p fragment_seq more_fragments,
    deserialize_pack p slot fragment_seq more_fragments, rfl, rfl, rfl,
    ?_, ?_⟩
  · intro hlen
    refine ⟨(size_pack_iff p slot fragment_seq more_fragments).mpr hlen, ?_,
      p.deserialize_serialize⟩
    rw [extract_pack, if_pos hlen]
  · intro hlong
    have hlen : ¬ p.serialize.length ≤ 65535 := by omega
    refine ⟨mt (size_pack_iff p slot fragment_seq more_fragments).mp hlen, ?_⟩
    intro role uid st
    rw [parse_eq_extract, extract_pack, if_neg hlen]
    rfl

end FrameParser

/-! ## Frames are determined by what they carry -/

theorem AddressedPacket.serialize_of_wire {data : Bytes}
    {packet : AddressedPacket} (h : wireAddressed data = some packet) :
    packet.serialize = data := by
  unfold wireAddressed at h
  split at h
  · cases h
    simp only [serialize, serializeUint32, bytes32_word32]
    rfl
  · cases h

theorem Slave2BackendPacket.serialize_of_wire {data : Bytes}
    {packet : Slave2BackendPacket} (h : wireSlave2Backend data = some packet) :
    packet.serialize = data := by
  unfold wireSlave2Backend at h
  split at h
  · cases h
    simp only [serialize, serializeUint32, bytes32_word32, bytes16_word16]
    rfl
  · cases h

theorem Slave2BackendPacket.serialize_inj {p q : Slave2BackendPacket} :
    p.serialize = q.serialize ↔ p = q := by
  refine ⟨fun h => ?_, congrArg serialize⟩
  have hp := wireSlave2Backend_serialize p
  rw [h, wireSlave2Backend_serialize] at hp
  exact (Option.some.inj hp).symm

/-- A vector that is exactly one frame was packed from its packet data with
some fragment fields. -/
theorem exists_packData_of_wireFrame {type : PacketType}
    {raw_data packet_data : Bytes}
    (h : wireFrame raw_data = some (type.toUInt8, packet_data)) :
    ∃ fragment_seq more_fragments, raw_data =
      FramePacker.packData type packet_data fragment_seq more_fragments := by
  unfold wireFrame at h
  split at h
  next d₀ d₁ packet_id seq more l₀ l₁ packet_data =>
    rw [Option.ite_none_right_eq_some] at h
    obtain ⟨⟨rfl, rfl, hlen⟩, heq⟩ := h
    cases heq
    have hword : UInt16.ofNat packet_data.length = word16 l₀ l₁ := by
      rw [hlen, UInt16.ofNat_toNat]
    refine ⟨seq, more, ?_⟩
    simp only [FramePacker.packData, FrameHeader.serialize, hword,
      bytes16_word16]
    rfl
  · cases h

/-- The length field of a frame covers its packet data. -/
theorem length_lt_of_wireFrame {raw_data packet_data : Bytes}
    {packet_id : UInt8} (h : wireFrame raw_data = some (packet_id, packet_data)) :
    packet_data.length < 65536 := by
  unfold wireFrame at h
  split at h
  next d₀ d₁ packet_id seq more l₀ l₁ packet_data =>
    rw [Option.ite_none_right_eq_some] at h
    obtain ⟨⟨-, -, hlen⟩, heq⟩ := h
    cases heq
    rw [hlen]
    exact UInt16.toNat_lt _
  · cases h

/-- Packing loses nothing. -/
theorem packData_inj {type : PacketType} {data data' : Bytes}
    {seq more seq' more' : UInt8} :
    FramePacker.packData type data seq more =
        FramePacker.packData type data' seq' more' ↔
      data = data' ∧ seq = seq' ∧ more = more' := by
  constructor
  · intro h
    simp only [FramePacker.packData, FrameHeader.serialize, bytes16,
      List.cons_append, List.nil_append, List.cons.injEq, true_and] at h
    obtain ⟨hseq, hmore, -, -, hdata⟩ := h
    exact ⟨hdata, hseq, hmore⟩
  · rintro ⟨rfl, rfl, rfl⟩
    rfl

end WirelessHarness

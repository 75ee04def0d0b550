import WirelessHarness.Protocol.Packing

/-!
# Round trips of messages

Each class writes its layout twice, once as pushes and once as index
arithmetic.  The two agree for every class but one whenever the counts inside
a message fit what they count; a resistance configuration acknowledgement goes
out with its 16-bit fields swapped.  With the frame and packet layers around
it, a packed message is the message its receiver gets.
-/

namespace WirelessHarness

open ByteOrder CheckedRead ProtocolUtils

/-! ## Payloads -/

/-- The counts inside a message fit what they count. -/
def Consistent : (cls : MessageClass) → cls.Fields → Prop
  | .backend2Master .slaveCfgMsg, m => m.slaveNum.toNat = m.slaves.length
  | .backend2Master .rstMsg, m => m.slaveNum.toNat = m.slaves.length
  | .master2Backend .slaveCfgMsg, m => m.slaveNum.toNat = m.slaves.length
  | .master2Backend .rstMsg, m => m.slaveNum.toNat = m.slaves.length
  | .slave2Backend .condDataMsg, m =>
      m.conductionLength.toNat = m.conductionData.length
  | .slave2Backend .resDataMsg, m =>
      m.resistanceLength.toNat = m.resistanceData.length
  | _, _ => True

theorem SlaveConfig.decode_serialize (slave : SlaveConfig) (rest : Bytes) :
    SlaveConfig.decode (slave.serialize ++ rest) = some (slave, rest) := by
  simp [serialize, decode, bytes32, bytes16]

theorem SlaveResetConfig.decode_serialize (slave : SlaveResetConfig)
    (rest : Bytes) :
    SlaveResetConfig.decode (slave.serialize ++ rest) = some (slave, rest) := by
  simp [serialize, decode, bytes32, bytes16]

/-- Records written one behind the other are read back in order. -/
theorem decodeRecords_flatMap {α : Type}
    {recordDecode : Bytes → Option (α × Bytes)} {recordSerialize : α → Bytes}
    (hrecord : ∀ slave rest,
      recordDecode (recordSerialize slave ++ rest) = some (slave, rest))
    (slaves : List α) :
    decodeRecords recordDecode slaves.length
      (slaves.flatMap recordSerialize) = some slaves := by
  induction slaves with
  | nil => rfl
  | cons slave slaves ih =>
      rw [List.flatMap_cons, List.length_cons, decodeRecords, hrecord]
      simp only [Option.bind_eq_bind, Option.bind_some, ih]
      rfl

theorem map_decodeRecords_flatMap {α β : Type}
    {recordDecode : Bytes → Option (α × Bytes)} {recordSerialize : α → Bytes}
    (hrecord : ∀ slave rest,
      recordDecode (recordSerialize slave ++ rest) = some (slave, rest))
    {slaveNum : UInt8} {slaves : List α}
    (h : slaveNum.toNat = slaves.length) (message : List α → β) :
    (decodeRecords recordDecode slaveNum.toNat
      (slaves.flatMap recordSerialize)).map message =
        some (message slaves) := by
  rw [h, decodeRecords_flatMap hrecord]
  rfl

/-- What the class pushes is what its layout table reads. -/
theorem decode_serializePayload {cls : MessageClass} {fields : cls.Fields}
    (hcls : cls ≠ .slave2Master .resCfgMsg) (h : Consistent cls fields) :
    decode cls (serializePayload cls fields) = some fields := by
  match cls with
  | .slave2Master .resCfgMsg => exact absurd rfl hcls
  | .backend2Master .slaveCfgMsg | .master2Backend .slaveCfgMsg =>
      exact map_decodeRecords_flatMap SlaveConfig.decode_serialize h _
  | .backend2Master .rstMsg | .master2Backend .rstMsg =>
      exact map_decodeRecords_flatMap SlaveResetConfig.decode_serialize h _
  | .slave2Backend .condDataMsg =>
      simp only [Consistent] at h
      simp only [decode, serializePayload, Slave2Backend.CondDataMsg.serialize,
        bytes16, List.nil_append, List.cons_append,
        Slave2Backend.CondDataMsg.decode, word16_bytes, h]
      rfl
  | .slave2Backend .resDataMsg =>
      simp only [Consistent] at h
      simp only [decode, serializePayload, Slave2Backend.ResDataMsg.serialize,
        bytes16, List.nil_append, List.cons_append,
        Slave2Backend.ResDataMsg.decode, word16_bytes, h]
      rfl
  | .master2Slave .syncMsg =>
      simp only [decode, serializePayload, Master2Slave.SyncMsg.serialize,
        serializeUint32, bytes32, List.cons_append, List.nil_append,
        Master2Slave.SyncMsg.decode, word32_bytes]
      rfl
  | .master2Slave .condCfgMsg => exact decode_serialize_condCfgMsg fields
  -- Single bytes and 16-bit fields.
  | .master2Slave .resCfgMsg | .master2Slave .clipCfgMsg
  | .master2Slave .rstMsg | .slave2Master .condCfgMsg
  | .slave2Master .clipCfgMsg | .slave2Master .rstMsg
  | .slave2Backend .clipDataMsg =>
      simp only [decode, serializePayload, Master2Slave.ResCfgMsg.serialize,
        Master2Slave.ClipCfgMsg.serialize, Master2Slave.RstMsg.serialize,
        Slave2Master.CondCfgMsg.serialize, Slave2Master.ClipCfgMsg.serialize,
        Slave2Master.RstMsg.serialize, Slave2Backend.ClipDataMsg.serialize,
        bytes16, List.cons_append, List.nil_append,
        Master2Slave.ResCfgMsg.decode, Master2Slave.ClipCfgMsg.decode,
        Master2Slave.RstMsg.decode, Slave2Master.CondCfgMsg.decode,
        Slave2Master.ClipCfgMsg.decode, Slave2Master.RstMsg.decode,
        Slave2Backend.ClipDataMsg.decode, word16_bytes]
      rfl
  | .master2Slave .readCondDataMsg | .master2Slave .readResDataMsg
  | .master2Slave .readClipDataMsg | .backend2Master .modeCfgMsg
  | .backend2Master .ctrlMsg | .master2Backend .modeCfgMsg
  | .master2Backend .ctrlMsg => rfl

/-! ### Sizes -/

theorem SlaveConfig.length_serialize (slave : SlaveConfig) :
    slave.serialize.length = 9 := rfl

theorem SlaveResetConfig.length_serialize (slave : SlaveResetConfig) :
    slave.serialize.length = 7 := rfl

/-- A count byte keeps a list of records within a frame. -/
theorem length_flatMap_le_of_count {α : Type} {recordSerialize : α → Bytes}
    {width : ℕ} (hwidth : ∀ slave, (recordSerialize slave).length = width)
    {slaveNum : UInt8} {slaves : List α}
    (h : slaveNum.toNat = slaves.length) :
    (slaves.flatMap recordSerialize).length ≤ 255 * width := by
  have hcount : slaves.length ≤ 255 := by
    have := slaveNum.toNat_lt
    omega
  simp only [List.length_flatMap, hwidth, List.map_const',
    List.sum_replicate_nat]
  exact Nat.mul_le_mul_right width hcount

theorem length_serializePayload_backend2Master
    {id : Backend2MasterMessageID}
    {fields : (MessageClass.backend2Master id).Fields}
    (h : Consistent (.backend2Master id) fields) :
    (serializePayload (.backend2Master id) fields).length + 1 < 65536 := by
  cases id with
  | slaveCfgMsg =>
      have hrecords := length_flatMap_le_of_count
        SlaveConfig.length_serialize h
      simp only [serializePayload, Backend2Master.SlaveCfgMsg.serialize,
        List.length_append, List.length_cons, List.length_nil]
      omega
  | rstMsg =>
      have hrecords := length_flatMap_le_of_count
        SlaveResetConfig.length_serialize h
      simp only [serializePayload, Backend2Master.RstMsg.serialize,
        List.length_append, List.length_cons, List.length_nil]
      omega
  | modeCfgMsg | ctrlMsg => exact (by decide : 1 + 1 < 65536)

theorem length_serializePayload_master2Backend
    {id : Master2BackendMessageID}
    {fields : (MessageClass.master2Backend id).Fields}
    (h : Consistent (.master2Backend id) fields) :
    (serializePayload (.master2Backend id) fields).length + 1 < 65536 := by
  cases id with
  | slaveCfgMsg =>
      have hrecords := length_flatMap_le_of_count
        SlaveConfig.length_serialize h
      simp only [serializePayload, Master2Backend.SlaveCfgMsg.serialize,
        List.length_append, List.length_cons, List.length_nil]
      omega
  | rstMsg =>
      have hrecords := length_flatMap_le_of_count
        SlaveResetConfig.length_serialize h
      simp only [serializePayload, Master2Backend.RstMsg.serialize,
        List.length_append, List.length_cons, List.length_nil]
      omega
  | modeCfgMsg | ctrlMsg => exact (by decide : 2 + 1 < 65536)

/-! ### The acknowledgement with its bytes exchanged -/

/-- The word with its two bytes exchanged. -/
def swapBytes (w : UInt16) : UInt16 :=
  word16 (w >>> 8).toUInt8 w.toUInt8

theorem swapBytes_eq_self_iff (w : UInt16) :
    swapBytes w = w ↔ w.toUInt8 = (w >>> 8).toUInt8 := by
  have hw : w.toNat < 65536 := w.toNat_lt
  rw [← UInt16.toNat_inj, ← UInt8.toNat_inj, swapBytes, word16_toNat]
  simp only [UInt16.toNat_toUInt8, UInt16.toNat_shiftRight,
    Nat.shiftRight_eq_div_pow, UInt16.reduceToNat, Nat.reduceMod,
    Nat.reducePow]
  omega

/-- What the master reads from a resistance acknowledgement. -/
def Slave2Master.ResCfgMsg.swapped (m : ResCfgMsg) : ResCfgMsg :=
  { m with
    totalResistanceNum := swapBytes m.totalResistanceNum
    startResistanceNum := swapBytes m.startResistanceNum
    resistanceNum := swapBytes m.resistanceNum }

theorem decode_serialize_resCfgMsg (m : Slave2Master.ResCfgMsg) :
    decode (.slave2Master .resCfgMsg)
      (serializePayload (.slave2Master .resCfgMsg) m) = some m.swapped := rfl

theorem Slave2Master.ResCfgMsg.swapped_eq_self_iff (m : ResCfgMsg) :
    m.swapped = m ↔
      m.totalResistanceNum.toUInt8 = (m.totalResistanceNum >>> 8).toUInt8 ∧
        m.startResistanceNum.toUInt8 =
          (m.startResistanceNum >>> 8).toUInt8 ∧
        m.resistanceNum.toUInt8 = (m.resistanceNum >>> 8).toUInt8 := by
  obtain ⟨status, timeSlot, interval, total, start, num⟩ := m
  simp only [swapped, mk.injEq, swapBytes_eq_self_iff, true_and]

/-! ## Returned messages -/

theorem DecodedMessage.mk_inj {cls : MessageClass} {a b : cls.Fields} :
    (⟨cls, a⟩ : DecodedMessage) = ⟨cls, b⟩ ↔ a = b := by
  constructor
  · intro h
    cases h
    rfl
  · rintro rfl
    rfl

namespace FrameParser

/-- `parse` returns a message of this class whose fields are these. -/
def Returns (role : Role) (uid : UInt32) (raw_data : Bytes) (st : Statics)
    (m : DecodedMessage) : Prop :=
  ∃ msg st', parse role uid raw_data st = .ok (some msg, st') ∧
    msg.decoded st' = m

/-- A frame whose payload has its layout returns its decoding and nothing
else. -/
theorem returns_iff_of_decode {role : Role} {uid : UInt32} {raw_data : Bytes}
    {cls : MessageClass} {payload : Bytes} {fields : cls.Fields}
    (hsel : select role uid raw_data = some (cls, payload))
    (hdec : decode cls payload = some fields) (st : Statics)
    (m : DecodedMessage) :
    Returns role uid raw_data st m ↔ ⟨cls, fields⟩ = m := by
  unfold Returns
  rw [parse_of_decode hsel hdec]
  constructor
  · rintro ⟨msg, st', hparse, rfl⟩
    cases hparse
    exact (Message.decoded_ofFields st cls fields).symm
  · rintro rfl
    exact ⟨_, _, rfl, Message.decoded_ofFields st cls fields⟩

/-! ### On a slave -/

theorem length_serializePayload_master2Slave (id : Master2SlaveMessageID)
    (msg : (MessageClass.master2Slave id).Fields) :
    (serializePayload (.master2Slave id) msg).length ≤ 8 := by
  cases id with
  | readCondDataMsg | readResDataMsg | readClipDataMsg =>
      exact Nat.le_add_left 1 7
  | syncMsg | condCfgMsg | resCfgMsg | clipCfgMsg | rstMsg =>
      simp [serializePayload, Master2Slave.SyncMsg.serialize,
        Master2Slave.CondCfgMsg.serialize, Master2Slave.ResCfgMsg.serialize,
        Master2Slave.ClipCfgMsg.serialize, Master2Slave.RstMsg.serialize,
        serializeUint32]

/-- A slave gets every message that is packed for it or for everyone. -/
theorem returns_master2SlavePack (uid destination_id : UInt32) (st : Statics)
    (id : Master2SlaveMessageID) (msg : (MessageClass.master2Slave id).Fields)
    (hdest : destination_id = 0xFFFFFFFF ∨ destination_id = uid) :
    Returns .slave uid
      (FramePacker.packMaster2Slave
        (PacketPacker.master2SlavePack id msg destination_id)) st
      ⟨.master2Slave id, msg⟩ := by
  have hlen : (serializePayload (.master2Slave id) msg).length + 5 <
      65536 := by
    have := length_serializePayload_master2Slave id msg
    omega
  have hsel := select_packMaster2Slave uid destination_id id _ hlen
  rw [if_pos hdest] at hsel
  have hdec : decode (.master2Slave id)
      (serializePayload (.master2Slave id) msg) = some msg :=
    decode_serializePayload (by simp) (by cases id <;> trivial)
  exact (returns_iff_of_decode hsel hdec st _).mpr rfl

/-! ### On the backend -/

/-- The backend gets every message whose count is the length of its list. -/
theorem returns_master2BackendPack (uid : UInt32) (st : Statics)
    (id : Master2BackendMessageID)
    (msg : (MessageClass.master2Backend id).Fields)
    (h : Consistent (.master2Backend id) msg) :
    Returns .backend uid
      (FramePacker.packMaster2Backend
        (PacketPacker.master2BackendPack id msg)) st
      ⟨.master2Backend id, msg⟩ := by
  have hsel := select_packMaster2Backend uid id
    (length_serializePayload_master2Backend h)
  have hdec := decode_serializePayload (by simp) h
  exact (returns_iff_of_decode hsel hdec st _).mpr rfl

/-- A reset request for slave 7, sent to all slaves. -/
theorem returns_master2SlavePack_broadcastRst :
    Returns .slave 7
      (FramePacker.packMaster2Slave
        (PacketPacker.master2SlavePack .rstMsg ⟨1, 0x0102⟩ 0xFFFFFFFF)) {}
      ⟨.master2Slave .rstMsg, (⟨1, 0x0102⟩ : Master2Slave.RstMsg)⟩ :=
  returns_master2SlavePack 7 0xFFFFFFFF {} .rstMsg ⟨1, 0x0102⟩ (.inl rfl)

end FrameParser

/-! ### On the master -/

/-- A message that a slave sends. -/
inductive SlaveMessage
  | slave2Master (id : Slave2MasterMessageID)
      (msg : (MessageClass.slave2Master id).Fields)
  | slave2Backend (id : Slave2BackendMessageID)
      (msg : (MessageClass.slave2Backend id).Fields)

namespace SlaveMessage

def decoded : SlaveMessage → DecodedMessage
  | slave2Master id msg => ⟨.slave2Master id, msg⟩
  | slave2Backend id msg => ⟨.slave2Backend id, msg⟩

/-- The packed message of slave `slave_id`; the status is that of a data
packet. -/
def frame (slave_id : UInt32) (device_status : UInt16) :
    SlaveMessage → Bytes
  | slave2Master id msg =>
      FramePacker.packSlave2Master
        (PacketPacker.slave2MasterPack id msg slave_id)
  | slave2Backend id msg =>
      FramePacker.packSlave2Backend
        (PacketPacker.slave2BackendPack id msg slave_id device_status)

/-- Data of variable size is as long as its length field says and fits a
frame. -/
def WellFormed : SlaveMessage → Prop
  | slave2Backend .condDataMsg msg =>
      msg.conductionLength.toNat = msg.conductionData.length ∧
        ∀ slave_id device_status, (PacketPacker.slave2BackendPack .condDataMsg
          msg slave_id device_status).serialize.length ≤ 65535
  | slave2Backend .resDataMsg msg =>
      msg.resistanceLength.toNat = msg.resistanceData.length ∧
        ∀ slave_id device_status, (PacketPacker.slave2BackendPack .resDataMsg
          msg slave_id device_status).serialize.length ≤ 65535
  | _ => True

/-- The numbers of a resistance acknowledgement read the same from both
ends. -/
def ByteSymmetric : SlaveMessage → Prop
  | slave2Master .resCfgMsg msg =>
      msg.totalResistanceNum.toUInt8 =
          (msg.totalResistanceNum >>> 8).toUInt8 ∧
        msg.startResistanceNum.toUInt8 =
          (msg.startResistanceNum >>> 8).toUInt8 ∧
        msg.resistanceNum.toUInt8 = (msg.resistanceNum >>> 8).toUInt8
  | _ => True

theorem WellFormed.consistent {m : SlaveMessage} (h : m.WellFormed) :
    Consistent m.decoded.1 m.decoded.2 := by
  match m with
  | slave2Master .condCfgMsg _ | slave2Master .resCfgMsg _
  | slave2Master .clipCfgMsg _ | slave2Master .rstMsg _
  | slave2Backend .clipDataMsg _ => trivial
  | slave2Backend .condDataMsg _ | slave2Backend .resDataMsg _ => exact h.1

theorem byteSymmetric_of_ne {m : SlaveMessage}
    (h : m.decoded.1 ≠ .slave2Master .resCfgMsg) : m.ByteSymmetric := by
  match m with
  | slave2Master .resCfgMsg _ => exact absurd rfl h
  | slave2Master .condCfgMsg _ | slave2Master .clipCfgMsg _
  | slave2Master .rstMsg _ | slave2Backend .condDataMsg _
  | slave2Backend .resDataMsg _ | slave2Backend .clipDataMsg _ => trivial

theorem length_serializePayload_slave2Master (id : Slave2MasterMessageID)
    (msg : (MessageClass.slave2Master id).Fields) :
    (serializePayload (.slave2Master id) msg).length ≤ 9 := by
  cases id <;>
    simp [serializePayload, Slave2Master.CondCfgMsg.serialize,
      Slave2Master.ResCfgMsg.serialize, Slave2Master.ClipCfgMsg.serialize,
      Slave2Master.RstMsg.serialize]

/-- The master's parser reaches the class the message was packed from. -/
theorem select_frame (uid slave_id : UInt32) (device_status : UInt16)
    (m : SlaveMessage) (h : m.WellFormed) :
    FrameParser.select .master uid (m.frame slave_id device_status) =
      some (m.decoded.1, serializePayload m.decoded.1 m.decoded.2) := by
  cases m with
  | slave2Master id msg =>
      have hlen := length_serializePayload_slave2Master id msg
      have hsel := FrameParser.select_packSlave2Master uid slave_id id
        (serializePayload (.slave2Master id) msg) []
      rw [List.append_nil, if_pos ⟨rfl, by omega⟩] at hsel
      exact hsel
  | slave2Backend id msg =>
      have hlen : (serializePayload (.slave2Backend id) msg).length + 7 <
          65536 := by
        cases id with
        | condDataMsg | resDataMsg =>
            have hpacket := h.2 0 0
            simp only [PacketPacker.slave2BackendPack,
              Slave2BackendPacket.length_serialize] at hpacket
            omega
        | clipDataMsg =>
            simp [serializePayload, Slave2Backend.ClipDataMsg.serialize]
      have hsel := FrameParser.select_packSlave2Backend uid slave_id
        device_status id (serializePayload (.slave2Backend id) msg) []
      rw [List.append_nil, if_pos ⟨rfl, hlen⟩] at hsel
      exact hsel

/-- The master gets what a slave sent, except that the numbers of a resistance
acknowledgement arrive with their bytes exchanged. -/
theorem returns_frame_iff (uid slave_id : UInt32) (device_status : UInt16)
    (st : Statics) (m : SlaveMessage) (h : m.WellFormed) :
    FrameParser.Returns .master uid (m.frame slave_id device_status) st
        m.decoded ↔
      m.ByteSymmetric := by
  have hsel := select_frame uid slave_id device_status m h
  by_cases hres : m.decoded.1 = .slave2Master .resCfgMsg
  · match m with
    | slave2Master .resCfgMsg msg =>
        have hdec := decode_serialize_resCfgMsg msg
        rw [FrameParser.returns_iff_of_decode hsel hdec]
        exact DecodedMessage.mk_inj.trans msg.swapped_eq_self_iff
  · have hdec := decode_serializePayload hres h.consistent
    rw [FrameParser.returns_iff_of_decode hsel hdec]
    exact iff_of_true rfl (byteSymmetric_of_ne hres)

/-- Three bytes of conduction data. -/
def threeBytes : SlaveMessage :=
  slave2Backend .condDataMsg (⟨3, [1, 2, 3]⟩ : Slave2Backend.CondDataMsg)

theorem returns_frame_threeBytes :
    FrameParser.Returns .master 0 (threeBytes.frame 7 0x0102) {}
      threeBytes.decoded := by
  have hsize : ∀ slave_id device_status,
      (PacketPacker.slave2BackendPack .condDataMsg
        (⟨3, [1, 2, 3]⟩ : Slave2Backend.CondDataMsg) slave_id
          device_status).serialize.length ≤ 65535 := by
    intro slave_id device_status
    exact Nat.le_of_ble_eq_true rfl
  exact (returns_frame_iff 0 7 0x0102 {} threeBytes ⟨rfl, hsize⟩).mpr trivial

/-- A slave acknowledges a resistance configuration of one measurement. -/
def oneResistance : SlaveMessage :=
  slave2Master .resCfgMsg (⟨0, 0, 0, 1, 0, 1⟩ : Slave2Master.ResCfgMsg)

/-- The master reads 256 where the slave sent 1. -/
theorem not_returns_frame_oneResistance :
    ¬ ∀ (uid slave_id : UInt32) (device_status : UInt16) (st : Statics)
      (m : SlaveMessage), m.WellFormed →
        FrameParser.Returns .master uid (m.frame slave_id device_status) st
          m.decoded := by
  intro h
  obtain ⟨msg, st', hparse, hmsg⟩ := h 0 7 0 {} oneResistance trivial
  cases hparse
  cases hmsg

end SlaveMessage

end WirelessHarness

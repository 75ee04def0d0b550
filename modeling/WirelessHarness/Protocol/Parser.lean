import WirelessHarness.Protocol.Messages

/-!
# The frame parser

`FrameParser::parse` of the three programs.  The compile-time role and the
slave's own id are arguments.  The result is the returned message (`none` for
`nullptr`) together with the static fields afterwards.
-/

namespace WirelessHarness

open ByteOrder CheckedRead

/-- Which of `MASTER`, `SLAVE` and `BACKEND` the program is built for. -/
inductive Role
  | master
  | slave
  | backend
deriving DecidableEq, Repr

/-! ## Message ids -/

inductive Master2SlaveMessageID
  | syncMsg
  | condCfgMsg
  | resCfgMsg
  | clipCfgMsg
  | readCondDataMsg
  | readResDataMsg
  | readClipDataMsg
  | rstMsg
deriving DecidableEq, Repr

namespace Master2SlaveMessageID

def toUInt8 : Master2SlaveMessageID → UInt8
  | syncMsg => 0x00
  | condCfgMsg => 0x10
  | resCfgMsg => 0x11
  | clipCfgMsg => 0x12
  | readCondDataMsg => 0x20
  | readResDataMsg => 0x21
  | readClipDataMsg => 0x22
  | rstMsg => 0x30

/-- The `switch` on a received message id; `none` is its `default`. -/
def ofUInt8? (id : UInt8) : Option Master2SlaveMessageID :=
  [syncMsg, condCfgMsg, resCfgMsg, clipCfgMsg, readCondDataMsg,
    readResDataMsg, readClipDataMsg, rstMsg].find? fun m => m.toUInt8 = id

@[simp] theorem ofUInt8?_toUInt8 (m : Master2SlaveMessageID) :
    ofUInt8? m.toUInt8 = some m := by
  cases m <;> decide

theorem ofUInt8?_eq_some_iff {id : UInt8} {m : Master2SlaveMessageID} :
    ofUInt8? id = some m ↔ id = m.toUInt8 := by
  constructor
  · intro h
    have hm := List.find?_some h
    exact (of_decide_eq_true hm).symm
  · rintro rfl
    exact ofUInt8?_toUInt8 m

end Master2SlaveMessageID

inductive Slave2MasterMessageID
  | condCfgMsg
  | resCfgMsg
  | clipCfgMsg
  | rstMsg
deriving DecidableEq, Repr

namespace Slave2MasterMessageID

def toUInt8 : Slave2MasterMessageID → UInt8
  | condCfgMsg => 0x10
  | resCfgMsg => 0x11
  | clipCfgMsg => 0x12
  | rstMsg => 0x30

/-- The `switch` on a received message id; `none` is its `default`. -/
def ofUInt8? (id : UInt8) : Option Slave2MasterMessageID :=
  [condCfgMsg, resCfgMsg, clipCfgMsg, rstMsg].find? fun m => m.toUInt8 = id

@[simp] theorem ofUInt8?_toUInt8 (m : Slave2MasterMessageID) :
    ofUInt8? m.toUInt8 = some m := by
  cases m <;> decide

theorem ofUInt8?_eq_some_iff {id : UInt8} {m : Slave2MasterMessageID} :
    ofUInt8? id = some m ↔ id = m.toUInt8 := by
  constructor
  · intro h
    have hm := List.find?_some h
    exact (of_decide_eq_true hm).symm
  · rintro rfl
    exact ofUInt8?_toUInt8 m

end Slave2MasterMessageID

inductive Backend2MasterMessageID
  | slaveCfgMsg
  | modeCfgMsg
  | rstMsg
  | ctrlMsg
deriving DecidableEq, Repr

namespace Backend2MasterMessageID

def toUInt8 : Backend2MasterMessageID → UInt8
  | slaveCfgMsg => 0x00
  | modeCfgMsg => 0x01
  | rstMsg => 0x02
  | ctrlMsg => 0x03

/-- The `switch` on a received message id; `none` is its `default`. -/
def ofUInt8? (id : UInt8) : Option Backend2MasterMessageID :=
  [slaveCfgMsg, modeCfgMsg, rstMsg, ctrlMsg].find? fun m => m.toUInt8 = id

@[simp] theorem ofUInt8?_toUInt8 (m : Backend2MasterMessageID) :
    ofUInt8? m.toUInt8 = some m := by
  cases m <;> decide

end Backend2MasterMessageID

/-- The ids that have a message class; the three data ids of the source's
enumeration are never packed or parsed. -/
inductive Master2BackendMessageID
  | slaveCfgMsg
  | modeCfgMsg
  | rstMsg
  | ctrlMsg
deriving DecidableEq, Repr

namespace Master2BackendMessageID

def toUInt8 : Master2BackendMessageID → UInt8
  | slaveCfgMsg => 0x00
  | modeCfgMsg => 0x01
  | rstMsg => 0x02
  | ctrlMsg => 0x03

/-- The `switch` on a received message id; `none` is its `default`. -/
def ofUInt8? (id : UInt8) : Option Master2BackendMessageID :=
  [slaveCfgMsg, modeCfgMsg, rstMsg, ctrlMsg].find? fun m => m.toUInt8 = id

@[simp] theorem ofUInt8?_toUInt8 (m : Master2BackendMessageID) :
    ofUInt8? m.toUInt8 = some m := by
  cases m <;> decide

end Master2BackendMessageID

inductive Slave2BackendMessageID
  | condDataMsg
  | resDataMsg
  | clipDataMsg
deriving DecidableEq, Repr

namespace Slave2BackendMessageID

def toUInt8 : Slave2BackendMessageID → UInt8
  | condDataMsg => 0x00
  | resDataMsg => 0x01
  | clipDataMsg => 0x02

/-- The `switch` on a received message id; `none` is its `default`. -/
def ofUInt8? (id : UInt8) : Option Slave2BackendMessageID :=
  [condDataMsg, resDataMsg, clipDataMsg].find? fun m => m.toUInt8 = id

@[simp] theorem ofUInt8?_toUInt8 (m : Slave2BackendMessageID) :
    ofUInt8? m.toUInt8 = some m := by
  cases m <;> decide

theorem ofUInt8?_eq_some_iff {id : UInt8} {m : Slave2BackendMessageID} :
    ofUInt8? id = some m ↔ id = m.toUInt8 := by
  constructor
  · intro h
    have hm := List.find?_some h
    exact (of_decide_eq_true hm).symm
  · rintro rfl
    exact ofUInt8?_toUInt8 m

end Slave2BackendMessageID

/-! ## Message objects -/

/-- A message class, named by its packet type and message id. -/
inductive MessageClass
  | master2Slave (id : Master2SlaveMessageID)
  | slave2Master (id : Slave2MasterMessageID)
  | backend2Master (id : Backend2MasterMessageID)
  | master2Backend (id : Master2BackendMessageID)
  | slave2Backend (id : Slave2BackendMessageID)
deriving DecidableEq, Repr

/-- What `parse` returns a pointer to.  Everything but `reserve` is static, so
the object itself is little more than its class; `reserve` is a member of the
three read requests and stays 0 elsewhere. -/
structure Message where
  cls : MessageClass
  reserve : UInt8 := 0
deriving DecidableEq, Repr

/-- Construct an object of the class and deserialize `payload` into it.  The
default arguments of `SyncMsg`'s constructor overwrite its static fields. -/
def deserializeInto (cls : MessageClass) (payload : Bytes) (st : Statics) :
    Except OutOfRange (Message × Statics) :=
  match cls with
  | .master2Slave .syncMsg => do
      let m ← Master2Slave.SyncMsg.deserialize payload ⟨0, 0⟩
      return (⟨cls, 0⟩, { st with m2sSync := m })
  | .master2Slave .condCfgMsg => do
      let m ← Master2Slave.CondCfgMsg.deserialize payload st.m2sCondCfg
      return (⟨cls, 0⟩, { st with m2sCondCfg := m })
  | .master2Slave .resCfgMsg => do
      let m ← Master2Slave.ResCfgMsg.deserialize payload st.m2sResCfg
      return (⟨cls, 0⟩, { st with m2sResCfg := m })
  | .master2Slave .clipCfgMsg => do
      let m ← Master2Slave.ClipCfgMsg.deserialize payload st.m2sClipCfg
      return (⟨cls, 0⟩, { st with m2sClipCfg := m })
  | .master2Slave .readCondDataMsg => do
      let reserve ← Master2Slave.deserializeReserve payload 0
      return (⟨cls, reserve⟩, st)
  | .master2Slave .readResDataMsg => do
      let reserve ← Master2Slave.deserializeReserve payload 0
      return (⟨cls, reserve⟩, st)
  | .master2Slave .readClipDataMsg => do
      let reserve ← Master2Slave.deserializeReserve payload 0
      return (⟨cls, reserve⟩, st)
  | .master2Slave .rstMsg => do
      let m ← Master2Slave.RstMsg.deserialize payload st.m2sRst
      return (⟨cls, 0⟩, { st with m2sRst := m })
  | .slave2Master .condCfgMsg => do
      let m ← Slave2Master.CondCfgMsg.deserialize payload st.s2mCondCfg
      return (⟨cls, 0⟩, { st with s2mCondCfg := m })
  | .slave2Master .resCfgMsg => do
      let m ← Slave2Master.ResCfgMsg.deserialize payload st.s2mResCfg
      return (⟨cls, 0⟩, { st with s2mResCfg := m })
  | .slave2Master .clipCfgMsg => do
      let m ← Slave2Master.ClipCfgMsg.deserialize payload st.s2mClipCfg
      return (⟨cls, 0⟩, { st with s2mClipCfg := m })
  | .slave2Master .rstMsg => do
      let m ← Slave2Master.RstMsg.deserialize payload st.s2mRst
      return (⟨cls, 0⟩, { st with s2mRst := m })
  | .backend2Master .slaveCfgMsg => do
      let m ← Backend2Master.SlaveCfgMsg.deserialize payload st.b2mSlaveCfg
      return (⟨cls, 0⟩, { st with b2mSlaveCfg := m })
  | .backend2Master .modeCfgMsg => do
      let m ← Backend2Master.ModeCfgMsg.deserialize payload st.b2mModeCfg
      return (⟨cls, 0⟩, { st with b2mModeCfg := m })
  | .backend2Master .rstMsg => do
      let m ← Backend2Master.RstMsg.deserialize payload st.b2mRst
      return (⟨cls, 0⟩, { st with b2mRst := m })
  | .backend2Master .ctrlMsg => do
      let m ← Backend2Master.CtrlMsg.deserialize payload st.b2mCtrl
      return (⟨cls, 0⟩, { st with b2mCtrl := m })
  | .master2Backend .slaveCfgMsg => do
      let m ← Master2Backend.SlaveCfgMsg.deserialize payload st.m2bSlaveCfg
      return (⟨cls, 0⟩, { st with m2bSlaveCfg := m })
  | .master2Backend .modeCfgMsg => do
      let m ← Master2Backend.ModeCfgMsg.deserialize payload st.m2bModeCfg
      return (⟨cls, 0⟩, { st with m2bModeCfg := m })
  | .master2Backend .rstMsg => do
      let m ← Master2Backend.RstMsg.deserialize payload st.m2bRst
      return (⟨cls, 0⟩, { st with m2bRst := m })
  | .master2Backend .ctrlMsg => do
      let m ← Master2Backend.CtrlMsg.deserialize payload st.m2bCtrl
      return (⟨cls, 0⟩, { st with m2bCtrl := m })
  | .slave2Backend .condDataMsg => do
      let m ← Slave2Backend.CondDataMsg.deserialize payload st.s2bCondData
      return (⟨cls, 0⟩, { st with s2bCondData := m })
  | .slave2Backend .resDataMsg => do
      let m ← Slave2Backend.ResDataMsg.deserialize payload st.s2bResData
      return (⟨cls, 0⟩, { st with s2bResData := m })
  | .slave2Backend .clipDataMsg => do
      let m ← Slave2Backend.ClipDataMsg.deserialize payload st.s2bClipData
      return (⟨cls, 0⟩, { st with s2bClipData := m })

/-! ## Parsing -/

namespace FrameParser

/-- `make_unique`, `deserialize`, `return msg` of one `case`, or the
`default` that returns `nullptr`. -/
def construct (cls? : Option MessageClass) (payload : Bytes) (st : Statics) :
    Except OutOfRange (Option Message × Statics) :=
  match cls? with
  | none => return (none, st)
  | some cls => do
      let (msg, st') ← deserializeInto cls payload st
      return (some msg, st')

def parseMaster (header : FrameHeader) (packet_data : Bytes) (st : Statics) :
    Except OutOfRange (Option Message × Statics) := do
  if header.packet_id = PacketType.slave2Master.toUInt8 then
    let some packet ← AddressedPacket.deserialize packet_data
      | return (none, st)
    construct ((Slave2MasterMessageID.ofUInt8? packet.message_id).map
      .slave2Master) packet.payload st
  else if header.packet_id = PacketType.backend2Master.toUInt8 then
    let some packet ← PlainPacket.deserialize packet_data
      | return (none, st)
    construct ((Backend2MasterMessageID.ofUInt8? packet.message_id).map
      .backend2Master) packet.payload st
  else if header.packet_id = PacketType.slave2Backend.toUInt8 then
    let some packet ← Slave2BackendPacket.deserialize packet_data
      | return (none, st)
    construct ((Slave2BackendMessageID.ofUInt8? packet.message_id).map
      .slave2Backend) packet.payload st
  else
    return (none, st)

/-- `uid` is `UIDReader::get()`. -/
def parseSlave (uid : UInt32) (header : FrameHeader) (packet_data : Bytes)
    (st : Statics) : Except OutOfRange (Option Message × Statics) := do
  if header.packet_id = PacketType.master2Slave.toUInt8 then
    let some packet ← AddressedPacket.deserialize packet_data
      | return (none, st)
    if packet.id ≠ 0xFFFFFFFF ∧ packet.id ≠ uid then
      return (none, st)
    construct ((Master2SlaveMessageID.ofUInt8? packet.message_id).map
      .master2Slave) packet.payload st
  else
    return (none, st)

def parseBackend (header : FrameHeader) (packet_data : Bytes) (st : Statics) :
    Except OutOfRange (Option Message × Statics) := do
  if header.packet_id = PacketType.master2Backend.toUInt8 then
    let some packet ← PlainPacket.deserialize packet_data
      | return (none, st)
    construct ((Master2BackendMessageID.ofUInt8? packet.message_id).map
      .master2Backend) packet.payload st
  else
    return (none, st)

def parse (role : Role) (uid : UInt32) (raw_data : Bytes) (st : Statics) :
    Except OutOfRange (Option Message × Statics) := do
  let some header ← FrameHeader.deserialize raw_data
    | return (none, st)
  if raw_data.length ≠ FrameHeader.HEADER_SIZE + header.data_length.toNat then
    return (none, st)
  let packet_data :=
    (raw_data.drop FrameHeader.HEADER_SIZE).take header.data_length.toNat
  match role with
  | .master => parseMaster header packet_data st
  | .slave => parseSlave uid header packet_data st
  | .backend => parseBackend header packet_data st

/-! ## Selection

The part of the parser in front of the message classes, as a function from
bytes to the class reached and its payload. -/

/-- The class and payload that packet data of the given packet id selects. -/
def selectPacket (role : Role) (uid : UInt32) (packet_id : UInt8)
    (packet_data : Bytes) : Option (MessageClass × Bytes) :=
  match role with
  | .master =>
      if packet_id = PacketType.slave2Master.toUInt8 then do
        let packet ← wireAddressed packet_data
        let id ← Slave2MasterMessageID.ofUInt8? packet.message_id
        return (.slave2Master id, packet.payload)
      else if packet_id = PacketType.backend2Master.toUInt8 then do
        let packet ← wirePlain packet_data
        let id ← Backend2MasterMessageID.ofUInt8? packet.message_id
        return (.backend2Master id, packet.payload)
      else if packet_id = PacketType.slave2Backend.toUInt8 then do
        let packet ← wireSlave2Backend packet_data
        let id ← Slave2BackendMessageID.ofUInt8? packet.message_id
        return (.slave2Backend id, packet.payload)
      else none
  | .slave =>
      if packet_id = PacketType.master2Slave.toUInt8 then do
        let packet ← wireAddressed packet_data
        if packet.id = 0xFFFFFFFF ∨ packet.id = uid then
          let id ← Master2SlaveMessageID.ofUInt8? packet.message_id
          return (.master2Slave id, packet.payload)
        else none
      else none
  | .backend =>
      if packet_id = PacketType.master2Backend.toUInt8 then do
        let packet ← wirePlain packet_data
        let id ← Master2BackendMessageID.ofUInt8? packet.message_id
        return (.master2Backend id, packet.payload)
      else none

/-- The message class whose `deserialize` the frame reaches, and its
payload; `none` when the frame is refused before that. -/
def select (role : Role) (uid : UInt32) (raw_data : Bytes) :
    Option (MessageClass × Bytes) :=
  (wireFrame raw_data).bind fun (packet_id, packet_data) =>
    selectPacket role uid packet_id packet_data

/-- Continue with the selected message class. -/
def constructSelected (sel : Option (MessageClass × Bytes)) (st : Statics) :
    Except OutOfRange (Option Message × Statics) :=
  match sel with
  | none => .ok (none, st)
  | some (cls, payload) => construct (some cls) payload st

theorem construct_map {ι : Type} (f : ι → MessageClass) (id? : Option ι)
    (payload : Bytes) (st : Statics) :
    construct (id?.map f) payload st =
      constructSelected (do let id ← id?; return (f id, payload)) st := by
  cases id? <;> rfl

theorem parseMaster_eq (uid : UInt32) (header : FrameHeader)
    (packet_data : Bytes) (st : Statics) :
    parseMaster header packet_data st =
      constructSelected
        (selectPacket .master uid header.packet_id packet_data) st := by
  simp only [parseMaster, selectPacket, AddressedPacket.deserialize_eq,
    PlainPacket.deserialize_eq, Slave2BackendPacket.deserialize_eq, ok_bind]
  split
  · cases wireAddressed packet_data with
    | none => rfl
    | some packet => exact construct_map _ _ _ _
  · split
    · cases wirePlain packet_data with
      | none => rfl
      | some packet => exact construct_map _ _ _ _
    · split
      · cases wireSlave2Backend packet_data with
        | none => rfl
        | some packet => exact construct_map _ _ _ _
      · rfl

theorem parseSlave_eq (uid : UInt32) (header : FrameHeader)
    (packet_data : Bytes) (st : Statics) :
    parseSlave uid header packet_data st =
      constructSelected
        (selectPacket .slave uid header.packet_id packet_data) st := by
  simp only [parseSlave, selectPacket, AddressedPacket.deserialize_eq, ok_bind]
  split
  · cases wireAddressed packet_data with
    | none => rfl
    | some packet =>
        by_cases h : packet.id = 0xFFFFFFFF ∨ packet.id = uid
        · have hneg : ¬ (packet.id ≠ 0xFFFFFFFF ∧ packet.id ≠ uid) := by
            tauto
          simp only [if_neg hneg, Option.bind_eq_bind, Option.bind_some,
            if_pos h]
          exact construct_map _ _ _ _
        · have hpos : packet.id ≠ 0xFFFFFFFF ∧ packet.id ≠ uid := by
            tauto
          simp only [if_pos hpos, Option.bind_eq_bind, Option.bind_some,
            if_neg h]
          rfl
  · rfl

theorem parseBackend_eq (uid : UInt32) (header : FrameHeader)
    (packet_data : Bytes) (st : Statics) :
    parseBackend header packet_data st =
      constructSelected
        (selectPacket .backend uid header.packet_id packet_data) st := by
  simp only [parseBackend, selectPacket, PlainPacket.deserialize_eq, ok_bind]
  split
  · cases wirePlain packet_data with
    | none => rfl
    | some packet => exact construct_map _ _ _ _
  · rfl

/-- `parse` is selection followed by the selected class's `deserialize`. -/
theorem parse_eq (role : Role) (uid : UInt32) (raw_data : Bytes)
    (st : Statics) :
    parse role uid raw_data st =
      constructSelected (select role uid raw_data) st := by
  match raw_data with
  | [] | [_] | [_, _] | [_, _, _] | [_, _, _, _] | [_, _, _, _, _]
  | [_, _, _, _, _, _] => rfl
  | d₀ :: d₁ :: packet_id :: seq :: more :: l₀ :: l₁ :: packet_data =>
      rw [parse, FrameHeader.deserialize_cons]
      by_cases hd : d₀ = FrameHeader.FRAME_DELIMITER₀ ∧
          d₁ = FrameHeader.FRAME_DELIMITER₁
      · have hsize : (d₀ :: d₁ :: packet_id :: seq :: more :: l₀ :: l₁ ::
            packet_data).length ≠
              FrameHeader.HEADER_SIZE + (word16 l₀ l₁).toNat ↔
            packet_data.length ≠ (word16 l₀ l₁).toNat := by
          simp only [List.length_cons, FrameHeader.HEADER_SIZE]
          omega
        by_cases hl : packet_data.length = (word16 l₀ l₁).toNat
        · have hsel : select role uid (d₀ :: d₁ :: packet_id :: seq ::
              more :: l₀ :: l₁ :: packet_data) =
              selectPacket role uid packet_id packet_data := by
            simp [select, wireFrame, hd, hl]
          have hdata : ((d₀ :: d₁ :: packet_id :: seq :: more :: l₀ :: l₁ ::
              packet_data).drop FrameHeader.HEADER_SIZE).take
                (word16 l₀ l₁).toNat = packet_data := by
            rw [← hl]
            simp [FrameHeader.HEADER_SIZE]
          simp only [ok_bind, if_pos hd, hsize, hl, ne_eq, not_true_eq_false,
            if_false, hdata, hsel]
          cases role with
          | master => exact parseMaster_eq uid _ _ _
          | slave => exact parseSlave_eq uid _ _ _
          | backend => exact parseBackend_eq uid _ _ _
        · have hsel : select role uid (d₀ :: d₁ :: packet_id :: seq ::
              more :: l₀ :: l₁ :: packet_data) = none := by
            simp [select, wireFrame, hl]
          simp only [ok_bind, if_pos hd, hsize, hl, ne_eq, not_false_eq_true,
            if_true, hsel]
          rfl
      · have hsel : select role uid (d₀ :: d₁ :: packet_id :: seq ::
            more :: l₀ :: l₁ :: packet_data) = none := by
          have hd' : ¬ (d₀ = FrameHeader.FRAME_DELIMITER₀ ∧
              d₁ = FrameHeader.FRAME_DELIMITER₁ ∧
              packet_data.length = (word16 l₀ l₁).toNat) := by
            tauto
          simp only [select, wireFrame, if_neg hd', Option.bind_none]
        simp only [ok_bind, if_neg hd, hsel]
        rfl

end FrameParser

end WirelessHarness

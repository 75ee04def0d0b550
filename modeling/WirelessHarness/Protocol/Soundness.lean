import WirelessHarness.Protocol.Layout

/-!
# What the parser reads and what it returns

Two questions about every received byte vector: are all indices that `parse`
evaluates in range, and is a returned message the decoding of the frame it
came from?  Both are decided by the selected message class and its payload.
-/

namespace WirelessHarness

open ByteOrder CheckedRead

/-! ## Multi-byte reads -/

theorem deserializeUint16_inRange {data : Bytes} {offset : ℕ}
    (h : offset + 1 < data.length) :
    InRange (deserializeUint16 data offset) := by
  unfold deserializeUint16
  apply (inRange_readAt (by omega)).bind
  intro lo
  exact inRange_bind_ok.mpr (inRange_readAt h)

theorem ProtocolUtils.deserializeUint32_inRange {data : Bytes} {offset : ℕ}
    (h : offset + 3 < data.length) :
    InRange (deserializeUint32 data offset) := by
  unfold deserializeUint32
  apply (inRange_readAt (by omega)).bind
  intro b₀
  apply (inRange_readAt (by omega)).bind
  intro b₁
  apply (inRange_readAt (by omega)).bind
  intro b₂
  exact inRange_bind_ok.mpr (inRange_readAt h)

open ProtocolUtils

/-! ## Reads of the record loops -/

theorem SlaveConfig.deserialize_inRange {data : Bytes} {offset : ℕ}
    (h : offset + 9 ≤ data.length) :
    InRange (SlaveConfig.deserialize data offset) := by
  unfold deserialize
  apply (deserializeUint32_inRange (by omega)).bind
  intro id
  apply (inRange_readAt (by omega)).bind
  intro conductionNum
  apply (inRange_readAt (by omega)).bind
  intro resistanceNum
  apply (inRange_readAt (by omega)).bind
  intro clipMode
  exact inRange_bind_ok.mpr (deserializeUint16_inRange (by omega))

theorem SlaveResetConfig.deserialize_inRange {data : Bytes} {offset : ℕ}
    (h : offset + 7 ≤ data.length) :
    InRange (SlaveResetConfig.deserialize data offset) := by
  unfold deserialize
  apply (deserializeUint32_inRange (by omega)).bind
  intro id
  apply (inRange_readAt (by omega)).bind
  intro lock
  exact inRange_bind_ok.mpr (deserializeUint16_inRange (by omega))

/-- The guard in front of each record keeps the whole loop in range, whatever
count the payload announces. -/
theorem deserializeRecords_inRange {α : Type}
    {record : Bytes → ℕ → Except OutOfRange α} {width : ℕ} {data : Bytes}
    (hrecord : ∀ offset, offset + width ≤ data.length →
      InRange (record data offset)) (n offset : ℕ) :
    InRange (deserializeRecords record width data n offset) := by
  induction n generalizing offset with
  | zero => exact inRange_ok _
  | succ n ih =>
      apply InRange.unless
      intro hfits
      apply (hrecord offset (by omega)).bind
      intro slave
      exact inRange_bind_ok.mpr (ih (offset + width))

/-! ## Reads of the message classes -/

theorem Master2Slave.SyncMsg.deserialize_inRange_iff (data : Bytes)
    (self : SyncMsg) :
    InRange (SyncMsg.deserialize data self) ↔ 5 ≤ data.length := by
  match data with
  | [] | [_] | [_, _] | [_, _, _] | [_, _, _, _] =>
      exact iff_of_false (not_inRange_error _) (by simp)
  | _ :: _ :: _ :: _ :: _ :: _ => exact iff_of_true ⟨_, rfl⟩ (by simp)

theorem Master2Slave.RstMsg.deserialize_inRange_iff (data : Bytes)
    (self : RstMsg) :
    InRange (RstMsg.deserialize data self) ↔ 3 ≤ data.length := by
  match data with
  | [] | [_] | [_, _] => exact iff_of_false (not_inRange_error _) (by simp)
  | _ :: _ :: _ :: _ => exact iff_of_true ⟨_, rfl⟩ (by simp)

theorem Master2Slave.deserializeReserve_inRange (data : Bytes)
    (reserve : UInt8) : InRange (deserializeReserve data reserve) := by
  apply InRange.unless
  intro hsize
  exact inRange_readAt (by omega)

theorem Backend2Master.SlaveCfgMsg.deserialize_inRange (data : Bytes)
    (self : SlaveCfgMsg) : InRange (SlaveCfgMsg.deserialize data self) := by
  apply InRange.unless
  intro hsize
  apply (inRange_readAt (by omega)).bind
  intro slaveNum
  exact inRange_bind_ok.mpr (deserializeRecords_inRange
    (fun _ => SlaveConfig.deserialize_inRange) slaveNum.toNat 1)

theorem Backend2Master.RstMsg.deserialize_inRange (data : Bytes)
    (self : RstMsg) : InRange (RstMsg.deserialize data self) := by
  apply InRange.unless
  intro hsize
  apply (inRange_readAt (by omega)).bind
  intro slaveNum
  exact inRange_bind_ok.mpr (deserializeRecords_inRange
    (fun _ => SlaveResetConfig.deserialize_inRange) slaveNum.toNat 1)

theorem Master2Backend.SlaveCfgMsg.deserialize_inRange (data : Bytes)
    (self : SlaveCfgMsg) : InRange (SlaveCfgMsg.deserialize data self) := by
  apply InRange.unless
  intro hsize
  apply (inRange_readAt (by omega)).bind
  intro status
  apply (inRange_readAt (by omega)).bind
  intro slaveNum
  exact inRange_bind_ok.mpr (deserializeRecords_inRange
    (fun _ => SlaveConfig.deserialize_inRange) slaveNum.toNat 2)

theorem Master2Backend.RstMsg.deserialize_inRange (data : Bytes)
    (self : RstMsg) : InRange (RstMsg.deserialize data self) := by
  apply InRange.unless
  intro hsize
  apply (inRange_readAt (by omega)).bind
  intro status
  apply (inRange_readAt (by omega)).bind
  intro slaveNum
  exact inRange_bind_ok.mpr (deserializeRecords_inRange
    (fun _ => SlaveResetConfig.deserialize_inRange) slaveNum.toNat 2)

/-- How many payload bytes a class reads without returning on a wrong size:
two classes log the wrong size and read on. -/
def unguardedSize : MessageClass → ℕ
  | .master2Slave .syncMsg => 5
  | .master2Slave .rstMsg => 3
  | _ => 0

theorem deserializeInto_inRange_iff (cls : MessageClass) (payload : Bytes)
    (st : Statics) :
    InRange (deserializeInto cls payload st) ↔
      unguardedSize cls ≤ payload.length := by
  match cls with
  | .master2Slave .syncMsg =>
      exact inRange_bind_ok.trans
        (Master2Slave.SyncMsg.deserialize_inRange_iff _ _)
  | .master2Slave .rstMsg =>
      exact inRange_bind_ok.trans
        (Master2Slave.RstMsg.deserialize_inRange_iff _ _)
  | .master2Slave .readCondDataMsg | .master2Slave .readResDataMsg
  | .master2Slave .readClipDataMsg =>
      refine iff_of_true (inRange_bind_ok.mpr ?_) (Nat.zero_le _)
      exact Master2Slave.deserializeReserve_inRange _ _
  | .backend2Master .slaveCfgMsg =>
      refine iff_of_true (inRange_bind_ok.mpr ?_) (Nat.zero_le _)
      exact Backend2Master.SlaveCfgMsg.deserialize_inRange _ _
  | .backend2Master .rstMsg =>
      refine iff_of_true (inRange_bind_ok.mpr ?_) (Nat.zero_le _)
      exact Backend2Master.RstMsg.deserialize_inRange _ _
  | .master2Backend .slaveCfgMsg =>
      refine iff_of_true (inRange_bind_ok.mpr ?_) (Nat.zero_le _)
      exact Master2Backend.SlaveCfgMsg.deserialize_inRange _ _
  | .master2Backend .rstMsg =>
      refine iff_of_true (inRange_bind_ok.mpr ?_) (Nat.zero_le _)
      exact Master2Backend.RstMsg.deserialize_inRange _ _
  | .slave2Backend .condDataMsg | .slave2Backend .resDataMsg =>
      refine iff_of_true (inRange_bind_ok.mpr ?_) (Nat.zero_le _)
      apply InRange.unless
      intro hsize
      apply (deserializeUint16_inRange (by omega)).bind
      intro length
      exact InRange.unless fun _ => inRange_ok _
  -- One size test in front of reads below that size.
  | .master2Slave .condCfgMsg | .master2Slave .resCfgMsg
  | .master2Slave .clipCfgMsg | .slave2Master .condCfgMsg
  | .slave2Master .resCfgMsg | .slave2Master .clipCfgMsg
  | .slave2Master .rstMsg | .backend2Master .modeCfgMsg
  | .backend2Master .ctrlMsg | .master2Backend .modeCfgMsg
  | .master2Backend .ctrlMsg | .slave2Backend .clipDataMsg =>
      refine iff_of_true (inRange_bind_ok.mpr ?_) (Nat.zero_le _)
      apply InRange.unless
      intro hsize
      repeat
        first
        | refine (inRange_readAt (by omega)).bind fun _ => ?_
        | refine (deserializeUint16_inRange (by omega)).bind fun _ => ?_
      exact inRange_ok _

namespace FrameParser

theorem construct_inRange_iff (cls : MessageClass) (payload : Bytes)
    (st : Statics) :
    InRange (construct (some cls) payload st) ↔
      unguardedSize cls ≤ payload.length :=
  inRange_bind_ok.trans (deserializeInto_inRange_iff cls payload st)

/-- `parse` evaluates an index outside its vector exactly on the frames that
reach `SyncMsg` with fewer than five payload bytes or `RstMsg` with fewer than
three. -/
theorem parse_inRange_iff (role : Role) (uid : UInt32) (raw_data : Bytes)
    (st : Statics) :
    InRange (parse role uid raw_data st) ↔
      ∀ cls payload, select role uid raw_data = some (cls, payload) →
        unguardedSize cls ≤ payload.length := by
  rw [parse_eq]
  cases hsel : select role uid raw_data with
  | none => exact iff_of_true (inRange_ok _) (by simp)
  | some sel =>
      obtain ⟨cls, payload⟩ := sel
      constructor
      · intro h cls' payload' heq
        cases heq
        exact (construct_inRange_iff cls payload st).mp h
      · intro h
        exact (construct_inRange_iff cls payload st).mpr (h cls payload rfl)

/-- A broadcast `SyncMsg` frame without payload. -/
def emptySyncFrame : Bytes :=
  [0xAB, 0xCD, 0x00, 0x00, 0x00, 0x05, 0x00, 0x00, 0xFF, 0xFF, 0xFF, 0xFF]

theorem parse_emptySyncFrame_not_inRange :
    ¬ InRange (parse .slave 0 emptySyncFrame {}) := by
  decide

/-! ## Messages and the frames they came from -/

/-- The decoding of a frame's payload under the layout of the class the frame
selects. -/
def decodeFrame (role : Role) (uid : UInt32) (raw_data : Bytes) :
    Option DecodedMessage :=
  (select role uid raw_data).bind fun (cls, payload) =>
    (decode cls payload).map (⟨cls, ·⟩)

/-- A returned message has the decoded fields, and a frame without a decoding
is answered with `nullptr` and untouched static fields. -/
def DescribesFrame (role : Role) (uid : UInt32) (st : Statics)
    (raw_data : Bytes) : Prop :=
  (∀ msg st', parse role uid raw_data st = .ok (some msg, st') →
    decodeFrame role uid raw_data = some (msg.decoded st')) ∧
  (decodeFrame role uid raw_data = none →
    parse role uid raw_data st = .ok (none, st))

theorem parse_of_select_none {role : Role} {uid : UInt32} {raw_data : Bytes}
    (h : select role uid raw_data = none) (st : Statics) :
    parse role uid raw_data st = .ok (none, st) := by
  rw [parse_eq, h]
  rfl

theorem parse_of_select {role : Role} {uid : UInt32} {raw_data : Bytes}
    {cls : MessageClass} {payload : Bytes}
    (h : select role uid raw_data = some (cls, payload)) (st : Statics) :
    parse role uid raw_data st =
      (do
        let (msg, st') ← deserializeInto cls payload st
        return (some msg, st')) := by
  rw [parse_eq, h]
  rfl

/-- A frame whose payload has its layout is parsed into the decoded fields and
changes no other class. -/
theorem parse_of_decode {role : Role} {uid : UInt32} {raw_data : Bytes}
    {cls : MessageClass} {payload : Bytes} {fields : cls.Fields}
    (hsel : select role uid raw_data = some (cls, payload))
    (hdec : decode cls payload = some fields) (st : Statics) :
    parse role uid raw_data st =
      .ok (some (Message.ofFields cls fields), st.store cls fields) := by
  rw [parse_of_select hsel, deserializeInto_of_decode hdec]
  rfl

/-- What the master's parser lets through, packet type by packet type. -/
theorem selectPacket_master {uid : UInt32} {packet_id : UInt8}
    {packet_data payload : Bytes} {cls : MessageClass}
    (h : selectPacket .master uid packet_id packet_data =
      some (cls, payload)) :
    (∃ packet id, packet_id = PacketType.slave2Master.toUInt8 ∧
      wireAddressed packet_data = some packet ∧
      Slave2MasterMessageID.ofUInt8? packet.message_id = some id ∧
      cls = .slave2Master id ∧ payload = packet.payload) ∨
    (∃ packet id, packet_id = PacketType.backend2Master.toUInt8 ∧
      wirePlain packet_data = some packet ∧
      Backend2MasterMessageID.ofUInt8? packet.message_id = some id ∧
      cls = .backend2Master id ∧ payload = packet.payload) ∨
    ∃ packet id, packet_id = PacketType.slave2Backend.toUInt8 ∧
      wireSlave2Backend packet_data = some packet ∧
      Slave2BackendMessageID.ofUInt8? packet.message_id = some id ∧
      cls = .slave2Backend id ∧ payload = packet.payload := by
  simp only [selectPacket] at h
  split at h
  next htype =>
    obtain ⟨packet, hpacket, h⟩ := Option.bind_eq_some_iff.mp h
    obtain ⟨id, hid, h⟩ := Option.bind_eq_some_iff.mp h
    cases h
    exact .inl ⟨packet, id, htype, hpacket, hid, rfl, rfl⟩
  next =>
    split at h
    next htype =>
      obtain ⟨packet, hpacket, h⟩ := Option.bind_eq_some_iff.mp h
      obtain ⟨id, hid, h⟩ := Option.bind_eq_some_iff.mp h
      cases h
      exact .inr (.inl ⟨packet, id, htype, hpacket, hid, rfl, rfl⟩)
    next =>
      rw [Option.ite_none_right_eq_some] at h
      obtain ⟨htype, h⟩ := h
      obtain ⟨packet, hpacket, h⟩ := Option.bind_eq_some_iff.mp h
      obtain ⟨id, hid, h⟩ := Option.bind_eq_some_iff.mp h
      cases h
      exact .inr (.inr ⟨packet, id, htype, hpacket, hid, rfl, rfl⟩)

/-- The classes of the frames that the master's parser lets through. -/
theorem class_of_select {raw_data payload : Bytes} {cls : MessageClass}
    (hsel : select .master 0 raw_data = some (cls, payload)) :
    (∃ id, cls = .slave2Master id) ∨ (∃ id, cls = .backend2Master id) ∨
      ∃ id, cls = .slave2Backend id := by
  obtain ⟨wire, -, hpacket⟩ := Option.bind_eq_some_iff.mp hsel
  rcases selectPacket_master hpacket with
    ⟨-, id, -, -, -, hcls, -⟩ | ⟨-, id, -, -, -, hcls, -⟩ |
      ⟨-, id, -, -, -, hcls, -⟩
  · exact .inl ⟨id, hcls⟩
  · exact .inr (.inl ⟨id, hcls⟩)
  · exact .inr (.inr ⟨id, hcls⟩)

/-- On the master a selected class is constructed: no class it selects reads
beyond its payload. -/
theorem deserializeInto_of_select {raw_data payload : Bytes}
    {cls : MessageClass}
    (hsel : select .master 0 raw_data = some (cls, payload)) (st : Statics) :
    ∃ fields, deserializeInto cls payload st =
      .ok (Message.ofFields cls fields, st.store cls fields) := by
  have hsize : unguardedSize cls = 0 := by
    obtain ⟨id, rfl⟩ | ⟨id, rfl⟩ | ⟨id, rfl⟩ := class_of_select hsel <;> rfl
  have hrange : InRange (deserializeInto cls payload st) :=
    (deserializeInto_inRange_iff cls payload st).mpr (hsize ▸ Nat.zero_le _)
  obtain ⟨⟨msg, st'⟩, hok⟩ := hrange
  obtain ⟨fields, rfl, rfl⟩ := deserializeInto_store hok
  exact ⟨fields, hok⟩

/-- Once a class is selected, `nullptr` is never returned. -/
theorem parse_ne_none_of_select {role : Role} {uid : UInt32}
    {raw_data : Bytes} {cls : MessageClass} {payload : Bytes}
    (h : select role uid raw_data = some (cls, payload)) (st st' : Statics) :
    parse role uid raw_data st ≠ .ok (none, st') := by
  rw [parse_of_select h]
  cases deserializeInto cls payload st with
  | error e => simp
  | ok r => simp

/-- The parser describes a frame exactly when the frame is refused before a
class is selected or its payload has that class's layout. -/
theorem describesFrame_iff (role : Role) (uid : UInt32) (st : Statics)
    (raw_data : Bytes) :
    DescribesFrame role uid st raw_data ↔
      ∀ cls payload, select role uid raw_data = some (cls, payload) →
        decode cls payload ≠ none := by
  constructor
  · rintro ⟨-, hnone⟩ cls payload hsel hdec
    refine parse_ne_none_of_select hsel st st (hnone ?_)
    simp [decodeFrame, hsel, hdec]
  · intro h
    cases hsel : select role uid raw_data with
    | none =>
        have hparse := parse_of_select_none hsel st
        constructor
        · intro msg st' hmsg
          rw [hparse] at hmsg
          cases hmsg
        · intro _
          exact hparse
    | some sel =>
        obtain ⟨cls, payload⟩ := sel
        obtain ⟨fields, hdec⟩ := Option.ne_none_iff_exists'.mp
          (h cls payload hsel)
        have hframe : decodeFrame role uid raw_data = some ⟨cls, fields⟩ := by
          simp [decodeFrame, hsel, hdec]
        constructor
        · intro msg st' hmsg
          rw [parse_of_decode hsel hdec] at hmsg
          cases hmsg
          rw [Message.decoded_ofFields]
          exact hframe
        · intro hno
          rw [hframe] at hno
          cases hno

/-- A conduction-data frame that announces two data bytes and carries none. -/
def shortCondDataFrame : Bytes :=
  [0xAB, 0xCD, 0x04, 0x00, 0x00, 0x09, 0x00, 0x00, 0x01, 0x00, 0x00, 0x00,
    0x00, 0x00, 0x02, 0x00]

/-- The frame is returned as a message, with a new length field next to the
data of an earlier frame. -/
theorem not_describesFrame_shortCondDataFrame :
    ¬ DescribesFrame .master 0 { s2bCondData := ⟨1, [0xFF]⟩ }
      shortCondDataFrame := by
  rintro ⟨hdec, -⟩
  have hparse : parse .master 0 shortCondDataFrame
      { s2bCondData := ⟨1, [0xFF]⟩ } =
        .ok (some ⟨.slave2Backend .condDataMsg, 0⟩,
          { s2bCondData := ⟨2, [0xFF]⟩ }) := rfl
  have hnone : decodeFrame .master 0 shortCondDataFrame = none := rfl
  have h := hdec _ _ hparse
  rw [hnone] at h
  cases h

end FrameParser

end WirelessHarness

import WirelessHarness.Protocol.RoundTrip

/-!
# The tables of the protocol document

The document gives every message a table of fields with their widths and
requires all numbers in little-endian order.  Twenty-one classes write their
table.  The resistance acknowledgement of a slave writes its three 16-bit
numbers high byte first, and the reset reply of the master writes lock and clip
status of a record the other way round.
-/

namespace WirelessHarness

open ByteOrder

/-! ## Tables -/

/-- The bytes of a number, lowest first. -/
def littleEndian (width n : ℕ) : Bytes :=
  (List.range width).map fun i => UInt8.ofNat (n / 256 ^ i)

/-- A row of a table with the value of its field. -/
inductive Row
  | u8 (value : UInt8)
  | u16 (value : UInt16)
  | u32 (value : UInt32)
  | data (bytes : Bytes)

def Row.wire : Row → Bytes
  | u8 value => littleEndian 1 value.toNat
  | u16 value => littleEndian 2 value.toNat
  | u32 value => littleEndian 4 value.toNat
  | data bytes => bytes

/-- The rows of a slave in the two slave config messages. -/
def SlaveConfig.table (slave : SlaveConfig) : List Row :=
  [.u32 slave.id, .u8 slave.conductionNum, .u8 slave.resistanceNum,
    .u8 slave.clipMode, .u16 slave.clipStatus]

/-- The rows of a slave in the reset message. -/
def SlaveResetConfig.table (slave : SlaveResetConfig) : List Row :=
  [.u32 slave.id, .u8 slave.lock, .u16 slave.clipStatus]

/-- The rows of a slave in the reply to it. -/
def SlaveResetConfig.replyTable (slave : SlaveResetConfig) : List Row :=
  [.u32 slave.id, .u16 slave.clipStatus, .u8 slave.lock]

/-- The message tables of the document. -/
def documentTable : (cls : MessageClass) → cls.Fields → List Row
  | .master2Slave .syncMsg, m => [.u8 m.mode, .u32 m.timestamp]
  | .master2Slave .condCfgMsg, m =>
      [.u8 m.timeSlot, .u8 m.interval, .u16 m.totalConductionNum,
        .u16 m.startConductionNum, .u16 m.conductionNum]
  | .master2Slave .resCfgMsg, m =>
      [.u8 m.timeSlot, .u8 m.interval, .u16 m.totalResistanceNum,
        .u16 m.startResistanceNum, .u16 m.resistanceNum]
  | .master2Slave .clipCfgMsg, m =>
      [.u8 m.interval, .u8 m.mode, .u16 m.clipPin]
  | .master2Slave .readCondDataMsg, reserve => [.u8 reserve]
  | .master2Slave .readResDataMsg, reserve => [.u8 reserve]
  | .master2Slave .readClipDataMsg, reserve => [.u8 reserve]
  | .master2Slave .rstMsg, m => [.u8 m.lock, .u16 m.clipLed]
  | .slave2Master .condCfgMsg, m =>
      [.u8 m.status, .u8 m.timeSlot, .u8 m.interval, .u16 m.totalConductionNum,
        .u16 m.startConductionNum, .u16 m.conductionNum]
  | .slave2Master .resCfgMsg, m =>
      [.u8 m.status, .u8 m.timeSlot, .u8 m.interval, .u16 m.totalResistanceNum,
        .u16 m.startResistanceNum, .u16 m.resistanceNum]
  | .slave2Master .clipCfgMsg, m =>
      [.u8 m.status, .u8 m.interval, .u8 m.mode, .u16 m.clipPin]
  | .slave2Master .rstMsg, m =>
      [.u8 m.status, .u8 m.lockStatus, .u16 m.clipLed]
  | .backend2Master .slaveCfgMsg, m =>
      .u8 m.slaveNum :: m.slaves.flatMap SlaveConfig.table
  | .backend2Master .modeCfgMsg, m => [.u8 m.mode]
  | .backend2Master .rstMsg, m =>
      .u8 m.slaveNum :: m.slaves.flatMap SlaveResetConfig.table
  | .backend2Master .ctrlMsg, m => [.u8 m.runningStatus]
  | .master2Backend .slaveCfgMsg, m =>
      .u8 m.status :: .u8 m.slaveNum :: m.slaves.flatMap SlaveConfig.table
  | .master2Backend .modeCfgMsg, m => [.u8 m.status, .u8 m.mode]
  | .master2Backend .rstMsg, m =>
      .u8 m.status :: .u8 m.slaveNum ::
        m.slaves.flatMap SlaveResetConfig.replyTable
  | .master2Backend .ctrlMsg, m => [.u8 m.status, .u8 m.runningStatus]
  | .slave2Backend .condDataMsg, m =>
      [.u16 m.conductionLength, .data m.conductionData]
  | .slave2Backend .resDataMsg, m =>
      [.u16 m.resistanceLength, .data m.resistanceData]
  | .slave2Backend .clipDataMsg, m => [.u16 m.clipData]

/-- What the document requires on the wire. -/
def documentBytes (cls : MessageClass) (fields : cls.Fields) : Bytes :=
  (documentTable cls fields).flatMap Row.wire

/-! ## Words and their bytes -/

theorem littleEndian_one (value : UInt8) :
    littleEndian 1 value.toNat = [value] := by
  simp [littleEndian, List.range_succ]

theorem littleEndian_two (value : UInt16) :
    littleEndian 2 value.toNat = bytes16 value := by
  simp only [littleEndian, List.range_succ, List.range_zero, List.nil_append,
    List.cons_append, List.map_cons, List.map_nil, bytes16, List.cons.injEq,
    ← UInt8.toNat_inj, and_true]
  simp [Nat.shiftRight_eq_div_pow]

theorem littleEndian_four (value : UInt32) :
    littleEndian 4 value.toNat = bytes32 value := by
  simp only [littleEndian, List.range_succ, List.range_zero, List.nil_append,
    List.cons_append, List.map_cons, List.map_nil, bytes32, List.cons.injEq,
    ← UInt8.toNat_inj, and_true]
  simp [Nat.shiftRight_eq_div_pow]

@[simp] theorem Row.wire_u8 (value : UInt8) : (Row.u8 value).wire = [value] :=
  littleEndian_one value

@[simp] theorem Row.wire_u16 (value : UInt16) :
    (Row.u16 value).wire = bytes16 value :=
  littleEndian_two value

@[simp] theorem Row.wire_u32 (value : UInt32) :
    (Row.u32 value).wire = bytes32 value :=
  littleEndian_four value

@[simp] theorem Row.wire_data (bytes : Bytes) : (Row.data bytes).wire = bytes :=
  rfl

@[simp] theorem SlaveConfig.wire_table (slave : SlaveConfig) :
    slave.table.flatMap Row.wire = slave.serialize := by
  simp [table, serialize]

@[simp] theorem SlaveResetConfig.wire_table (slave : SlaveResetConfig) :
    slave.table.flatMap Row.wire = slave.serialize := by
  simp [table, serialize]

@[simp] theorem SlaveResetConfig.wire_replyTable (slave : SlaveResetConfig) :
    slave.replyTable.flatMap Row.wire =
      bytes32 slave.id ++ (bytes16 slave.clipStatus ++ [slave.lock]) := by
  simp [replyTable]

/-! ## Serializing -/

/-- `serialize` of the class into a vector that holds `data`. -/
def serializeInto : (cls : MessageClass) → cls.Fields → Bytes → Bytes
  | .master2Slave .syncMsg, m => Master2Slave.SyncMsg.serialize m
  | .master2Slave .condCfgMsg, m => Master2Slave.CondCfgMsg.serialize m
  | .master2Slave .resCfgMsg, m => Master2Slave.ResCfgMsg.serialize m
  | .master2Slave .clipCfgMsg, m => Master2Slave.ClipCfgMsg.serialize m
  | .master2Slave .readCondDataMsg, reserve =>
      Master2Slave.serializeReserve reserve
  | .master2Slave .readResDataMsg, reserve =>
      Master2Slave.serializeReserve reserve
  | .master2Slave .readClipDataMsg, reserve =>
      Master2Slave.serializeReserve reserve
  | .master2Slave .rstMsg, m => Master2Slave.RstMsg.serialize m
  | .slave2Master .condCfgMsg, m => Slave2Master.CondCfgMsg.serialize m
  | .slave2Master .resCfgMsg, m => Slave2Master.ResCfgMsg.serialize m
  | .slave2Master .clipCfgMsg, m => Slave2Master.ClipCfgMsg.serialize m
  | .slave2Master .rstMsg, m => Slave2Master.RstMsg.serialize m
  | .backend2Master .slaveCfgMsg, m => Backend2Master.SlaveCfgMsg.serialize m
  | .backend2Master .modeCfgMsg, m => Backend2Master.ModeCfgMsg.serialize m
  | .backend2Master .rstMsg, m => Backend2Master.RstMsg.serialize m
  | .backend2Master .ctrlMsg, m => Backend2Master.CtrlMsg.serialize m
  | .master2Backend .slaveCfgMsg, m => Master2Backend.SlaveCfgMsg.serialize m
  | .master2Backend .modeCfgMsg, m => Master2Backend.ModeCfgMsg.serialize m
  | .master2Backend .rstMsg, m => Master2Backend.RstMsg.serialize m
  | .master2Backend .ctrlMsg, m => Master2Backend.CtrlMsg.serialize m
  | .slave2Backend .condDataMsg, m => Slave2Backend.CondDataMsg.serialize m
  | .slave2Backend .resDataMsg, m => Slave2Backend.ResDataMsg.serialize m
  | .slave2Backend .clipDataMsg, m => Slave2Backend.ClipDataMsg.serialize m

/-- What `serialize` leaves of the vector before it appends: `SyncMsg` clears
it. -/
def keptData : MessageClass → Bytes → Bytes
  | .master2Slave .syncMsg, _ => []
  | _, data => data

/-- The bytes appended are those of the class's table. -/
def FollowsDocument (cls : MessageClass) (fields : cls.Fields)
    (data : Bytes) : Prop :=
  serializeInto cls fields data = keptData cls data ++ documentBytes cls fields

/-- The payload of a packed message is what is appended to an empty vector. -/
theorem serializeInto_nil (cls : MessageClass) (fields : cls.Fields) :
    serializeInto cls fields [] = serializePayload cls fields := by
  rcases cls with id | id | id | id | id <;> cases id <;> rfl

/-- Both bytes of the word are the same. -/
def SameBytes (w : UInt16) : Prop :=
  w.toUInt8 = (w >>> 8).toUInt8

/-- Where writing the fields the other way round makes no difference. -/
def Indifferent : (cls : MessageClass) → cls.Fields → Prop
  | .slave2Master .resCfgMsg, m =>
      SameBytes m.totalResistanceNum ∧ SameBytes m.startResistanceNum ∧
        SameBytes m.resistanceNum
  | .master2Backend .rstMsg, m =>
      ∀ slave ∈ m.slaves, SameBytes slave.clipStatus ∧
        slave.lock = slave.clipStatus.toUInt8
  | _, _ => True

theorem reverse_bytes16_eq_iff (w : UInt16) :
    (bytes16 w).reverse = bytes16 w ↔ SameBytes w := by
  simp [bytes16, SameBytes, eq_comm]

/-- Records of equal width agree as a whole when each of them does. -/
theorem flatMap_eq_flatMap_iff {α : Type} {f g : α → Bytes}
    (hlen : ∀ x, (f x).length = (g x).length) (xs : List α) :
    xs.flatMap f = xs.flatMap g ↔ ∀ x ∈ xs, f x = g x := by
  induction xs with
  | nil => simp
  | cons x xs ih =>
      simp only [List.flatMap_cons, List.forall_mem_cons, ← ih]
      constructor
      · intro h
        exact List.append_inj h (hlen x)
      · rintro ⟨hx, hxs⟩
        rw [hx, hxs]

/-- The three read requests. -/
theorem serializeReserve_eq (reserve : UInt8) (data : Bytes) :
    Master2Slave.serializeReserve reserve data =
      data ++ [Row.u8 reserve].flatMap Row.wire := by
  simp [Master2Slave.serializeReserve]

theorem followsDocument_resCfgMsg_iff (m : Slave2Master.ResCfgMsg)
    (data : Bytes) :
    FollowsDocument (.slave2Master .resCfgMsg) m data ↔
      Indifferent (.slave2Master .resCfgMsg) m := by
  simp only [Indifferent, ← reverse_bytes16_eq_iff]
  simp [FollowsDocument, serializeInto, keptData, documentBytes,
    documentTable, Slave2Master.ResCfgMsg.serialize, bytes16]
  tauto

/-- A record of the reset reply as the code and as the document have it. -/
theorem serialize_eq_replyTable_iff (slave : SlaveResetConfig) :
    slave.serialize =
        bytes32 slave.id ++ (bytes16 slave.clipStatus ++ [slave.lock]) ↔
      SameBytes slave.clipStatus ∧ slave.lock = slave.clipStatus.toUInt8 := by
  simp only [SlaveResetConfig.serialize, List.append_assoc,
    List.append_cancel_left_eq, bytes16, SameBytes, List.cons_append,
    List.nil_append, List.cons.injEq, and_true]
  constructor
  · rintro ⟨hlock, hlow, -⟩
    exact ⟨hlow, hlock⟩
  · rintro ⟨hlow, hlock⟩
    exact ⟨hlock, hlow, by rw [← hlow, hlock]⟩

theorem followsDocument_rstMsg_iff (m : Master2Backend.RstMsg)
    (data : Bytes) :
    FollowsDocument (.master2Backend .rstMsg) m data ↔
      Indifferent (.master2Backend .rstMsg) m := by
  have hrecords : m.slaves.flatMap SlaveResetConfig.serialize =
        m.slaves.flatMap (fun slave => slave.replyTable.flatMap Row.wire) ↔
      Indifferent (.master2Backend .rstMsg) m := by
    rw [flatMap_eq_flatMap_iff]
    · simp only [SlaveResetConfig.wire_replyTable, serialize_eq_replyTable_iff]
      rfl
    · intro slave
      simp [SlaveResetConfig.serialize]
  rw [← hrecords]
  simp [FollowsDocument, serializeInto, keptData, documentBytes,
    documentTable, Master2Backend.RstMsg.serialize, List.flatMap_assoc]

/-- A class follows its table exactly where the fields it writes the other way
round cannot be told apart. -/
theorem followsDocument_iff (cls : MessageClass) (fields : cls.Fields)
    (data : Bytes) :
    FollowsDocument cls fields data ↔ Indifferent cls fields := by
  match cls with
  | .slave2Master .resCfgMsg => exact followsDocument_resCfgMsg_iff fields data
  | .master2Backend .rstMsg => exact followsDocument_rstMsg_iff fields data
  -- The remaining classes push their fields in the table's order.
  | .master2Slave .readCondDataMsg | .master2Slave .readResDataMsg
  | .master2Slave .readClipDataMsg =>
      exact iff_of_true (serializeReserve_eq fields data) trivial
  | .master2Slave .syncMsg | .master2Slave .condCfgMsg
  | .master2Slave .resCfgMsg | .master2Slave .clipCfgMsg
  | .master2Slave .rstMsg =>
      refine iff_of_true ?_ trivial
      simp [FollowsDocument, serializeInto, keptData, documentBytes,
        documentTable, Master2Slave.SyncMsg.serialize,
        Master2Slave.CondCfgMsg.serialize, Master2Slave.ResCfgMsg.serialize,
        Master2Slave.ClipCfgMsg.serialize, Master2Slave.RstMsg.serialize,
        ProtocolUtils.serializeUint32]
  | .slave2Master .condCfgMsg | .slave2Master .clipCfgMsg
  | .slave2Master .rstMsg =>
      refine iff_of_true ?_ trivial
      simp [FollowsDocument, serializeInto, keptData, documentBytes,
        documentTable, Slave2Master.CondCfgMsg.serialize,
        Slave2Master.ClipCfgMsg.serialize, Slave2Master.RstMsg.serialize]
  | .backend2Master id =>
      refine iff_of_true ?_ trivial
      cases id <;>
        simp [FollowsDocument, serializeInto, keptData, documentBytes,
          documentTable, Backend2Master.SlaveCfgMsg.serialize,
          Backend2Master.ModeCfgMsg.serialize, Backend2Master.RstMsg.serialize,
          Backend2Master.CtrlMsg.serialize, List.flatMap_assoc]
  | .master2Backend .slaveCfgMsg | .master2Backend .modeCfgMsg
  | .master2Backend .ctrlMsg =>
      refine iff_of_true ?_ trivial
      simp [FollowsDocument, serializeInto, keptData, documentBytes,
        documentTable, Master2Backend.SlaveCfgMsg.serialize,
        Master2Backend.ModeCfgMsg.serialize,
        Master2Backend.CtrlMsg.serialize, List.flatMap_assoc]
  | .slave2Backend id =>
      refine iff_of_true ?_ trivial
      cases id <;>
        simp [FollowsDocument, serializeInto, keptData, documentBytes,
          documentTable, Slave2Backend.CondDataMsg.serialize,
          Slave2Backend.ResDataMsg.serialize,
          Slave2Backend.ClipDataMsg.serialize]

/-- A resistance acknowledgement for one line: the number goes out as 256. -/
theorem not_followsDocument_resCfgMsg :
    ¬ ∀ cls fields data, Consistent cls fields →
      FollowsDocument cls fields data := by
  intro h
  have hbytes := h (.slave2Master .resCfgMsg) ⟨0, 0, 0, 0, 0, 1⟩ [] trivial
  revert hbytes
  simp only [FollowsDocument]
  decide

end WirelessHarness

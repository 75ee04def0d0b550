import WirelessHarness.Protocol.Parser

/-!
# Payload layouts

The layout of each message class as a table: `decode` reads a payload that has
exactly the table's bytes, in order and with multi-byte numbers little-endian,
and refuses every other payload.  This is the meaning a received payload
should have, to be compared with what the index-based `deserialize` functions
do.
-/

namespace WirelessHarness

open ByteOrder CheckedRead

/-! ## Layout tables -/

namespace Master2Slave

def SyncMsg.decode : Bytes → Option SyncMsg
  | [mode, t₀, t₁, t₂, t₃] => some ⟨mode, word32 t₀ t₁ t₂ t₃⟩
  | _ => none

def CondCfgMsg.decode : Bytes → Option CondCfgMsg
  | [timeSlot, interval, t₀, t₁, s₀, s₁, c₀, c₁] =>
      some ⟨timeSlot, interval, word16 t₀ t₁, word16 s₀ s₁, word16 c₀ c₁⟩
  | _ => none

def ResCfgMsg.decode : Bytes → Option ResCfgMsg
  | [timeSlot, interval, t₀, t₁, s₀, s₁, r₀, r₁] =>
      some ⟨timeSlot, interval, word16 t₀ t₁, word16 s₀ s₁, word16 r₀ r₁⟩
  | _ => none

def ClipCfgMsg.decode : Bytes → Option ClipCfgMsg
  | [interval, mode, p₀, p₁] => some ⟨interval, mode, word16 p₀ p₁⟩
  | _ => none

def decodeReserve : Bytes → Option UInt8
  | [reserve] => some reserve
  | _ => none

def RstMsg.decode : Bytes → Option RstMsg
  | [lock, l₀, l₁] => some ⟨lock, word16 l₀ l₁⟩
  | _ => none

end Master2Slave

namespace Slave2Master

def CondCfgMsg.decode : Bytes → Option CondCfgMsg
  | [status, timeSlot, interval, t₀, t₁, s₀, s₁, c₀, c₁] =>
      some ⟨status, timeSlot, interval, word16 t₀ t₁, word16 s₀ s₁,
        word16 c₀ c₁⟩
  | _ => none

def ResCfgMsg.decode : Bytes → Option ResCfgMsg
  | [status, timeSlot, interval, t₀, t₁, s₀, s₁, r₀, r₁] =>
      some ⟨status, timeSlot, interval, word16 t₀ t₁, word16 s₀ s₁,
        word16 r₀ r₁⟩
  | _ => none

def ClipCfgMsg.decode : Bytes → Option ClipCfgMsg
  | [status, interval, mode, p₀, p₁] =>
      some ⟨status, interval, mode, word16 p₀ p₁⟩
  | _ => none

def RstMsg.decode : Bytes → Option RstMsg
  | [status, lockStatus, l₀, l₁] => some ⟨status, lockStatus, word16 l₀ l₁⟩
  | _ => none

end Slave2Master

/-- A record of nine bytes and what follows it. -/
def SlaveConfig.decode : Bytes → Option (SlaveConfig × Bytes)
  | i₀ :: i₁ :: i₂ :: i₃ :: conductionNum :: resistanceNum :: clipMode ::
      s₀ :: s₁ :: rest =>
      some (⟨word32 i₀ i₁ i₂ i₃, conductionNum, resistanceNum, clipMode,
        word16 s₀ s₁⟩, rest)
  | _ => none

/-- A record of seven bytes and what follows it. -/
def SlaveResetConfig.decode : Bytes → Option (SlaveResetConfig × Bytes)
  | i₀ :: i₁ :: i₂ :: i₃ :: lock :: s₀ :: s₁ :: rest =>
      some (⟨word32 i₀ i₁ i₂ i₃, lock, word16 s₀ s₁⟩, rest)
  | _ => none

/-- Exactly `n` records and nothing after them. -/
def decodeRecords {α : Type} (record : Bytes → Option (α × Bytes)) :
    ℕ → Bytes → Option (List α)
  | 0, [] => some []
  | 0, _ :: _ => none
  | n + 1, data => do
      let (slave, rest) ← record data
      let slaves ← decodeRecords record n rest
      return slave :: slaves

namespace Backend2Master

def SlaveCfgMsg.decode : Bytes → Option SlaveCfgMsg
  | [] => none
  | slaveNum :: records =>
      (decodeRecords SlaveConfig.decode slaveNum.toNat records).map
        (⟨slaveNum, ·⟩)

def ModeCfgMsg.decode : Bytes → Option ModeCfgMsg
  | [mode] => some ⟨mode⟩
  | _ => none

def RstMsg.decode : Bytes → Option RstMsg
  | [] => none
  | slaveNum :: records =>
      (decodeRecords SlaveResetConfig.decode slaveNum.toNat records).map
        (⟨slaveNum, ·⟩)

def CtrlMsg.decode : Bytes → Option CtrlMsg
  | [runningStatus] => some ⟨runningStatus⟩
  | _ => none

end Backend2Master

namespace Master2Backend

def SlaveCfgMsg.decode : Bytes → Option SlaveCfgMsg
  | status :: slaveNum :: records =>
      (decodeRecords SlaveConfig.decode slaveNum.toNat records).map
        (⟨status, slaveNum, ·⟩)
  | _ => none

def ModeCfgMsg.decode : Bytes → Option ModeCfgMsg
  | [status, mode] => some ⟨status, mode⟩
  | _ => none

def RstMsg.decode : Bytes → Option RstMsg
  | status :: slaveNum :: records =>
      (decodeRecords SlaveResetConfig.decode slaveNum.toNat records).map
        (⟨status, slaveNum, ·⟩)
  | _ => none

def CtrlMsg.decode : Bytes → Option CtrlMsg
  | [status, runningStatus] => some ⟨status, runningStatus⟩
  | _ => none

end Master2Backend

namespace Slave2Backend

def CondDataMsg.decode : Bytes → Option CondDataMsg
  | l₀ :: l₁ :: conductionData =>
      if conductionData.length = (word16 l₀ l₁).toNat then
        some ⟨word16 l₀ l₁, conductionData⟩
      else none
  | _ => none

def ResDataMsg.decode : Bytes → Option ResDataMsg
  | l₀ :: l₁ :: resistanceData =>
      if resistanceData.length = (word16 l₀ l₁).toNat then
        some ⟨word16 l₀ l₁, resistanceData⟩
      else none
  | _ => none

def ClipDataMsg.decode : Bytes → Option ClipDataMsg
  | [c₀, c₁] => some ⟨word16 c₀ c₁⟩
  | _ => none

end Slave2Backend

/-! ## Fields of a message class -/

/-- The fields of the objects of a class; static except for `reserve`. -/
def MessageClass.Fields : MessageClass → Type
  | .master2Slave .syncMsg => Master2Slave.SyncMsg
  | .master2Slave .condCfgMsg => Master2Slave.CondCfgMsg
  | .master2Slave .resCfgMsg => Master2Slave.ResCfgMsg
  | .master2Slave .clipCfgMsg => Master2Slave.ClipCfgMsg
  | .master2Slave .readCondDataMsg => UInt8
  | .master2Slave .readResDataMsg => UInt8
  | .master2Slave .readClipDataMsg => UInt8
  | .master2Slave .rstMsg => Master2Slave.RstMsg
  | .slave2Master .condCfgMsg => Slave2Master.CondCfgMsg
  | .slave2Master .resCfgMsg => Slave2Master.ResCfgMsg
  | .slave2Master .clipCfgMsg => Slave2Master.ClipCfgMsg
  | .slave2Master .rstMsg => Slave2Master.RstMsg
  | .backend2Master .slaveCfgMsg => Backend2Master.SlaveCfgMsg
  | .backend2Master .modeCfgMsg => Backend2Master.ModeCfgMsg
  | .backend2Master .rstMsg => Backend2Master.RstMsg
  | .backend2Master .ctrlMsg => Backend2Master.CtrlMsg
  | .master2Backend .slaveCfgMsg => Master2Backend.SlaveCfgMsg
  | .master2Backend .modeCfgMsg => Master2Backend.ModeCfgMsg
  | .master2Backend .rstMsg => Master2Backend.RstMsg
  | .master2Backend .ctrlMsg => Master2Backend.CtrlMsg
  | .slave2Backend .condDataMsg => Slave2Backend.CondDataMsg
  | .slave2Backend .resDataMsg => Slave2Backend.ResDataMsg
  | .slave2Backend .clipDataMsg => Slave2Backend.ClipDataMsg

/-- The fields a payload of the class stands for. -/
def decode : (cls : MessageClass) → Bytes → Option cls.Fields
  | .master2Slave .syncMsg => Master2Slave.SyncMsg.decode
  | .master2Slave .condCfgMsg => Master2Slave.CondCfgMsg.decode
  | .master2Slave .resCfgMsg => Master2Slave.ResCfgMsg.decode
  | .master2Slave .clipCfgMsg => Master2Slave.ClipCfgMsg.decode
  | .master2Slave .readCondDataMsg => Master2Slave.decodeReserve
  | .master2Slave .readResDataMsg => Master2Slave.decodeReserve
  | .master2Slave .readClipDataMsg => Master2Slave.decodeReserve
  | .master2Slave .rstMsg => Master2Slave.RstMsg.decode
  | .slave2Master .condCfgMsg => Slave2Master.CondCfgMsg.decode
  | .slave2Master .resCfgMsg => Slave2Master.ResCfgMsg.decode
  | .slave2Master .clipCfgMsg => Slave2Master.ClipCfgMsg.decode
  | .slave2Master .rstMsg => Slave2Master.RstMsg.decode
  | .backend2Master .slaveCfgMsg => Backend2Master.SlaveCfgMsg.decode
  | .backend2Master .modeCfgMsg => Backend2Master.ModeCfgMsg.decode
  | .backend2Master .rstMsg => Backend2Master.RstMsg.decode
  | .backend2Master .ctrlMsg => Backend2Master.CtrlMsg.decode
  | .master2Backend .slaveCfgMsg => Master2Backend.SlaveCfgMsg.decode
  | .master2Backend .modeCfgMsg => Master2Backend.ModeCfgMsg.decode
  | .master2Backend .rstMsg => Master2Backend.RstMsg.decode
  | .master2Backend .ctrlMsg => Master2Backend.CtrlMsg.decode
  | .slave2Backend .condDataMsg => Slave2Backend.CondDataMsg.decode
  | .slave2Backend .resDataMsg => Slave2Backend.ResDataMsg.decode
  | .slave2Backend .clipDataMsg => Slave2Backend.ClipDataMsg.decode

/-- The fields of an object, most of which live in the static memory. -/
def Message.fields (st : Statics) : (msg : Message) → msg.cls.Fields
  | ⟨.master2Slave .syncMsg, _⟩ => st.m2sSync
  | ⟨.master2Slave .condCfgMsg, _⟩ => st.m2sCondCfg
  | ⟨.master2Slave .resCfgMsg, _⟩ => st.m2sResCfg
  | ⟨.master2Slave .clipCfgMsg, _⟩ => st.m2sClipCfg
  | ⟨.master2Slave .readCondDataMsg, reserve⟩ => reserve
  | ⟨.master2Slave .readResDataMsg, reserve⟩ => reserve
  | ⟨.master2Slave .readClipDataMsg, reserve⟩ => reserve
  | ⟨.master2Slave .rstMsg, _⟩ => st.m2sRst
  | ⟨.slave2Master .condCfgMsg, _⟩ => st.s2mCondCfg
  | ⟨.slave2Master .resCfgMsg, _⟩ => st.s2mResCfg
  | ⟨.slave2Master .clipCfgMsg, _⟩ => st.s2mClipCfg
  | ⟨.slave2Master .rstMsg, _⟩ => st.s2mRst
  | ⟨.backend2Master .slaveCfgMsg, _⟩ => st.b2mSlaveCfg
  | ⟨.backend2Master .modeCfgMsg, _⟩ => st.b2mModeCfg
  | ⟨.backend2Master .rstMsg, _⟩ => st.b2mRst
  | ⟨.backend2Master .ctrlMsg, _⟩ => st.b2mCtrl
  | ⟨.master2Backend .slaveCfgMsg, _⟩ => st.m2bSlaveCfg
  | ⟨.master2Backend .modeCfgMsg, _⟩ => st.m2bModeCfg
  | ⟨.master2Backend .rstMsg, _⟩ => st.m2bRst
  | ⟨.master2Backend .ctrlMsg, _⟩ => st.m2bCtrl
  | ⟨.slave2Backend .condDataMsg, _⟩ => st.s2bCondData
  | ⟨.slave2Backend .resDataMsg, _⟩ => st.s2bResData
  | ⟨.slave2Backend .clipDataMsg, _⟩ => st.s2bClipData

/-- Static memory in which the class's static fields are `fields` and every
other class's are those of `st`. -/
def Statics.store (st : Statics) : (cls : MessageClass) → cls.Fields → Statics
  | .master2Slave .syncMsg, fields => { st with m2sSync := fields }
  | .master2Slave .condCfgMsg, fields => { st with m2sCondCfg := fields }
  | .master2Slave .resCfgMsg, fields => { st with m2sResCfg := fields }
  | .master2Slave .clipCfgMsg, fields => { st with m2sClipCfg := fields }
  | .master2Slave .readCondDataMsg, _ => st
  | .master2Slave .readResDataMsg, _ => st
  | .master2Slave .readClipDataMsg, _ => st
  | .master2Slave .rstMsg, fields => { st with m2sRst := fields }
  | .slave2Master .condCfgMsg, fields => { st with s2mCondCfg := fields }
  | .slave2Master .resCfgMsg, fields => { st with s2mResCfg := fields }
  | .slave2Master .clipCfgMsg, fields => { st with s2mClipCfg := fields }
  | .slave2Master .rstMsg, fields => { st with s2mRst := fields }
  | .backend2Master .slaveCfgMsg, fields => { st with b2mSlaveCfg := fields }
  | .backend2Master .modeCfgMsg, fields => { st with b2mModeCfg := fields }
  | .backend2Master .rstMsg, fields => { st with b2mRst := fields }
  | .backend2Master .ctrlMsg, fields => { st with b2mCtrl := fields }
  | .master2Backend .slaveCfgMsg, fields => { st with m2bSlaveCfg := fields }
  | .master2Backend .modeCfgMsg, fields => { st with m2bModeCfg := fields }
  | .master2Backend .rstMsg, fields => { st with m2bRst := fields }
  | .master2Backend .ctrlMsg, fields => { st with m2bCtrl := fields }
  | .slave2Backend .condDataMsg, fields => { st with s2bCondData := fields }
  | .slave2Backend .resDataMsg, fields => { st with s2bResData := fields }
  | .slave2Backend .clipDataMsg, fields => { st with s2bClipData := fields }

/-- The object of the class with these fields. -/
def Message.ofFields : (cls : MessageClass) → cls.Fields → Message
  | .master2Slave .readCondDataMsg, reserve =>
      ⟨.master2Slave .readCondDataMsg, reserve⟩
  | .master2Slave .readResDataMsg, reserve =>
      ⟨.master2Slave .readResDataMsg, reserve⟩
  | .master2Slave .readClipDataMsg, reserve =>
      ⟨.master2Slave .readClipDataMsg, reserve⟩
  | cls, _ => ⟨cls, 0⟩

/-- A class together with values for its fields. -/
abbrev DecodedMessage := (cls : MessageClass) × cls.Fields

def Message.decoded (msg : Message) (st : Statics) : DecodedMessage :=
  ⟨msg.cls, msg.fields st⟩

theorem Message.decoded_ofFields (st : Statics) (cls : MessageClass)
    (fields : cls.Fields) :
    (Message.ofFields cls fields).decoded (st.store cls fields) =
      ⟨cls, fields⟩ := by
  rcases cls with id | id | id | id | id <;> cases id <;> rfl

@[simp] theorem Message.cls_ofFields (cls : MessageClass)
    (fields : cls.Fields) : (Message.ofFields cls fields).cls = cls := by
  rcases cls with id | id | id | id | id <;> cases id <;> rfl

/-- A class's `deserialize` stores fields of its own class and no others. -/
theorem deserializeInto_store {cls : MessageClass} {payload : Bytes}
    {st st' : Statics} {msg : Message}
    (h : deserializeInto cls payload st = .ok (msg, st')) :
    ∃ fields, msg = Message.ofFields cls fields ∧
      st' = st.store cls fields := by
  rcases cls with id | id | id | id | id <;> cases id <;>
    obtain ⟨fields, -, hfields⟩ := bind_eq_ok.mp h <;> cases hfields <;>
    exact ⟨fields, rfl, rfl⟩

/-! ## Deserializing a payload that has the layout -/

theorem SlaveConfig.deserialize_of_decode {done data rest : Bytes}
    {slave : SlaveConfig} (h : SlaveConfig.decode data = some (slave, rest)) :
    SlaveConfig.deserialize (done ++ data) done.length = .ok slave ∧
      ∃ bytes, bytes.length = 9 ∧ data = bytes ++ rest := by
  unfold decode at h
  split at h
  next i₀ i₁ i₂ i₃ c r m s₀ s₁ tail =>
    cases h
    refine ⟨?_, [i₀, i₁, i₂, i₃, c, r, m, s₀, s₁], rfl, rfl⟩
    simp [deserialize, ProtocolUtils.deserializeUint32, deserializeUint16,
      readAt, Nat.add_assoc]
  next => cases h

theorem SlaveResetConfig.deserialize_of_decode {done data rest : Bytes}
    {slave : SlaveResetConfig}
    (h : SlaveResetConfig.decode data = some (slave, rest)) :
    SlaveResetConfig.deserialize (done ++ data) done.length = .ok slave ∧
      ∃ bytes, bytes.length = 7 ∧ data = bytes ++ rest := by
  unfold decode at h
  split at h
  next i₀ i₁ i₂ i₃ lock s₀ s₁ tail =>
    cases h
    refine ⟨?_, [i₀, i₁, i₂, i₃, lock, s₀, s₁], rfl, rfl⟩
    simp [deserialize, ProtocolUtils.deserializeUint32, deserializeUint16,
      readAt, Nat.add_assoc]
  next => cases h

section

variable {α : Type} {record : Bytes → ℕ → Except OutOfRange α}
  {recordDecode : Bytes → Option (α × Bytes)} {width : ℕ}

/-- The record loop reads exactly the records the layout contains: it never
leaves early and stops at the end of the data. -/
theorem deserializeRecords_of_decode
    (hrecord : ∀ done data slave rest,
      recordDecode data = some (slave, rest) →
        record (done ++ data) done.length = .ok slave ∧
          ∃ bytes : Bytes, bytes.length = width ∧ data = bytes ++ rest)
    (hwidth : 0 < width) {n : ℕ} {data : Bytes} {slaves : List α}
    (h : decodeRecords recordDecode n data = some slaves) (done : Bytes) :
    deserializeRecords record width (done ++ data) n done.length =
        .ok slaves ∧
      data.length = n * width := by
  induction n generalizing done data slaves with
  | zero =>
      match data with
      | [] =>
          cases h
          exact ⟨rfl, by simp⟩
      | _ :: _ => simp [decodeRecords] at h
  | succ n ih =>
      simp only [decodeRecords, Option.bind_eq_bind,
        Option.bind_eq_some_iff, Prod.exists] at h
      obtain ⟨slave, rest, hslave, slaves', hrest, hcons⟩ := h
      cases hcons
      obtain ⟨hread, bytes, hbytes, rfl⟩ := hrecord done _ _ _ hslave
      obtain ⟨hloop, hlen⟩ := ih hrest (done ++ bytes)
      have hfits : ¬ (done ++ (bytes ++ rest)).length ≤
          done.length + (width - 1) := by
        simp only [List.length_append]
        omega
      have hoffset : done.length + width = (done ++ bytes).length := by
        rw [List.length_append, hbytes]
      constructor
      · rw [deserializeRecords, if_neg hfits, hread, ok_bind, hoffset,
          ← List.append_assoc, hloop]
        rfl
      · rw [List.length_append, hbytes, hlen]
        ring

/-- Behind the header of a list message there are records only: the size test
passes, and the loop reads them all. -/
theorem deserializeRecords_behind
    (hrecord : ∀ done data slave rest,
      recordDecode data = some (slave, rest) →
        record (done ++ data) done.length = .ok slave ∧
          ∃ bytes : Bytes, bytes.length = width ∧ data = bytes ++ rest)
    (hwidth : 0 < width) (header : Bytes) {n : ℕ} {records : Bytes}
    {slaves : List α}
    (h : decodeRecords recordDecode n records = some slaves) :
    ¬ ((header ++ records).length < header.length ∨
        ((header ++ records).length - header.length) % width ≠ 0) ∧
      deserializeRecords record width (header ++ records) n header.length =
        .ok slaves := by
  obtain ⟨hloop, hlen⟩ :=
    deserializeRecords_of_decode hrecord hwidth h header
  refine ⟨?_, hloop⟩
  rintro (hshort | hodd)
  · rw [List.length_append] at hshort
    omega
  · apply hodd
    rw [List.length_append, Nat.add_sub_cancel_left, hlen,
      Nat.mul_mod_left]

end

/-- Once the size test is passed the header is kept and the records are what the
loop reads. -/
theorem Backend2Master.SlaveCfgMsg.deserialize_of_records {slaveNum : UInt8}
    {records : Bytes} {slaves : List SlaveConfig} (self : SlaveCfgMsg)
    (hsize : ¬ ((slaveNum :: records).length < 1 ∨
      ((slaveNum :: records).length - 1) % 9 ≠ 0))
    (hloop : deserializeRecords SlaveConfig.deserialize 9
      (slaveNum :: records) slaveNum.toNat 1 = .ok slaves) :
    SlaveCfgMsg.deserialize (slaveNum :: records) self =
      .ok ⟨slaveNum, slaves⟩ := by
  have hread : deserialize (slaveNum :: records) self =
      deserializeRecords SlaveConfig.deserialize 9
        (slaveNum :: records) slaveNum.toNat 1 >>=
          fun slaves => .ok ⟨slaveNum, slaves⟩ :=
    if_neg hsize
  rw [hread]
  exact congrArg (· >>= _) hloop

theorem Backend2Master.SlaveCfgMsg.deserialize_of_decode {data : Bytes}
    {m : SlaveCfgMsg} (self : SlaveCfgMsg)
    (h : SlaveCfgMsg.decode data = some m) :
    SlaveCfgMsg.deserialize data self = .ok m := by
  match data with
  | [] => cases h
  | slaveNum :: records =>
      obtain ⟨slaves, hslaves, rfl⟩ := Option.map_eq_some_iff.mp h
      obtain ⟨hsize, hloop⟩ := deserializeRecords_behind
        (fun _ _ _ _ => SlaveConfig.deserialize_of_decode) (by decide)
        [slaveNum] hslaves
      exact deserialize_of_records self hsize hloop

theorem Backend2Master.RstMsg.deserialize_of_records {slaveNum : UInt8}
    {records : Bytes} {slaves : List SlaveResetConfig} (self : RstMsg)
    (hsize : ¬ ((slaveNum :: records).length < 1 ∨
      ((slaveNum :: records).length - 1) % 7 ≠ 0))
    (hloop : deserializeRecords SlaveResetConfig.deserialize 7
      (slaveNum :: records) slaveNum.toNat 1 = .ok slaves) :
    RstMsg.deserialize (slaveNum :: records) self =
      .ok ⟨slaveNum, slaves⟩ := by
  have hread : deserialize (slaveNum :: records) self =
      deserializeRecords SlaveResetConfig.deserialize 7
        (slaveNum :: records) slaveNum.toNat 1 >>=
          fun slaves => .ok ⟨slaveNum, slaves⟩ :=
    if_neg hsize
  rw [hread]
  exact congrArg (· >>= _) hloop

theorem Backend2Master.RstMsg.deserialize_of_decode {data : Bytes}
    {m : RstMsg} (self : RstMsg) (h : RstMsg.decode data = some m) :
    RstMsg.deserialize data self = .ok m := by
  match data with
  | [] => cases h
  | slaveNum :: records =>
      obtain ⟨slaves, hslaves, rfl⟩ := Option.map_eq_some_iff.mp h
      obtain ⟨hsize, hloop⟩ := deserializeRecords_behind
        (fun _ _ _ _ => SlaveResetConfig.deserialize_of_decode) (by decide)
        [slaveNum] hslaves
      exact deserialize_of_records self hsize hloop

theorem Master2Backend.SlaveCfgMsg.deserialize_of_records {status slaveNum : UInt8}
    {records : Bytes} {slaves : List SlaveConfig} (self : SlaveCfgMsg)
    (hsize : ¬ ((status :: slaveNum :: records).length < 2 ∨
      ((status :: slaveNum :: records).length - 2) % 9 ≠ 0))
    (hloop : deserializeRecords SlaveConfig.deserialize 9
      (status :: slaveNum :: records) slaveNum.toNat 2 = .ok slaves) :
    SlaveCfgMsg.deserialize (status :: slaveNum :: records) self =
      .ok ⟨status, slaveNum, slaves⟩ := by
  have hread : deserialize (status :: slaveNum :: records) self =
      deserializeRecords SlaveConfig.deserialize 9
        (status :: slaveNum :: records) slaveNum.toNat 2 >>=
          fun slaves => .ok ⟨status, slaveNum, slaves⟩ :=
    if_neg hsize
  rw [hread]
  exact congrArg (· >>= _) hloop

theorem Master2Backend.SlaveCfgMsg.deserialize_of_decode {data : Bytes}
    {m : SlaveCfgMsg} (self : SlaveCfgMsg)
    (h : SlaveCfgMsg.decode data = some m) :
    SlaveCfgMsg.deserialize data self = .ok m := by
  match data with
  | [] | [_] => cases h
  | status :: slaveNum :: records =>
      obtain ⟨slaves, hslaves, rfl⟩ := Option.map_eq_some_iff.mp h
      obtain ⟨hsize, hloop⟩ := deserializeRecords_behind
        (fun _ _ _ _ => SlaveConfig.deserialize_of_decode) (by decide)
        [status, slaveNum] hslaves
      exact deserialize_of_records self hsize hloop

theorem Master2Backend.RstMsg.deserialize_of_records {status slaveNum : UInt8}
    {records : Bytes} {slaves : List SlaveResetConfig} (self : RstMsg)
    (hsize : ¬ ((status :: slaveNum :: records).length < 2 ∨
      ((status :: slaveNum :: records).length - 2) % 7 ≠ 0))
    (hloop : deserializeRecords SlaveResetConfig.deserialize 7
      (status :: slaveNum :: records) slaveNum.toNat 2 = .ok slaves) :
    RstMsg.deserialize (status :: slaveNum :: records) self =
      .ok ⟨status, slaveNum, slaves⟩ := by
  have hread : deserialize (status :: slaveNum :: records) self =
      deserializeRecords SlaveResetConfig.deserialize 7
        (status :: slaveNum :: records) slaveNum.toNat 2 >>=
          fun slaves => .ok ⟨status, slaveNum, slaves⟩ :=
    if_neg hsize
  rw [hread]
  exact congrArg (· >>= _) hloop

theorem Master2Backend.RstMsg.deserialize_of_decode {data : Bytes}
    {m : RstMsg} (self : RstMsg) (h : RstMsg.decode data = some m) :
    RstMsg.deserialize data self = .ok m := by
  match data with
  | [] | [_] => cases h
  | status :: slaveNum :: records =>
      obtain ⟨slaves, hslaves, rfl⟩ := Option.map_eq_some_iff.mp h
      obtain ⟨hsize, hloop⟩ := deserializeRecords_behind
        (fun _ _ _ _ => SlaveResetConfig.deserialize_of_decode) (by decide)
        [status, slaveNum] hslaves
      exact deserialize_of_records self hsize hloop

theorem Slave2Backend.CondDataMsg.deserialize_of_decode {data : Bytes}
    {m : CondDataMsg} (self : CondDataMsg)
    (h : CondDataMsg.decode data = some m) :
    CondDataMsg.deserialize data self = .ok m := by
  match data with
  | [] | [_] => cases h
  | l₀ :: l₁ :: conductionData =>
      simp only [decode, Option.ite_none_right_eq_some] at h
      obtain ⟨hlen, hm⟩ := h
      cases hm
      simp [deserialize, deserializeUint16, readAt, hlen, Nat.add_comm 2]

theorem Slave2Backend.ResDataMsg.deserialize_of_decode {data : Bytes}
    {m : ResDataMsg} (self : ResDataMsg)
    (h : ResDataMsg.decode data = some m) :
    ResDataMsg.deserialize data self = .ok m := by
  match data with
  | [] | [_] => cases h
  | l₀ :: l₁ :: resistanceData =>
      simp only [decode, Option.ite_none_right_eq_some] at h
      obtain ⟨hlen, hm⟩ := h
      cases hm
      simp [deserialize, deserializeUint16, readAt, hlen, Nat.add_comm 2]

/-- A payload with its class's layout is decoded, whatever the static fields
held before, and no other class is touched. -/
theorem deserializeInto_of_decode {cls : MessageClass} {payload : Bytes}
    {fields : cls.Fields} (h : decode cls payload = some fields)
    (st : Statics) :
    deserializeInto cls payload st =
      .ok (Message.ofFields cls fields, st.store cls fields) := by
  match cls with
  | .backend2Master .slaveCfgMsg =>
      rw [deserializeInto,
        Backend2Master.SlaveCfgMsg.deserialize_of_decode _ h]
      rfl
  | .backend2Master .rstMsg =>
      rw [deserializeInto, Backend2Master.RstMsg.deserialize_of_decode _ h]
      rfl
  | .master2Backend .slaveCfgMsg =>
      rw [deserializeInto,
        Master2Backend.SlaveCfgMsg.deserialize_of_decode _ h]
      rfl
  | .master2Backend .rstMsg =>
      rw [deserializeInto, Master2Backend.RstMsg.deserialize_of_decode _ h]
      rfl
  | .slave2Backend .condDataMsg =>
      rw [deserializeInto,
        Slave2Backend.CondDataMsg.deserialize_of_decode _ h]
      rfl
  | .slave2Backend .resDataMsg =>
      rw [deserializeInto, Slave2Backend.ResDataMsg.deserialize_of_decode _ h]
      rfl
  -- The other classes have one size: the table names every byte.
  | .master2Slave .syncMsg | .master2Slave .condCfgMsg
  | .master2Slave .resCfgMsg | .master2Slave .clipCfgMsg
  | .master2Slave .readCondDataMsg | .master2Slave .readResDataMsg
  | .master2Slave .readClipDataMsg | .master2Slave .rstMsg
  | .slave2Master .condCfgMsg | .slave2Master .resCfgMsg
  | .slave2Master .clipCfgMsg | .slave2Master .rstMsg
  | .backend2Master .modeCfgMsg | .backend2Master .ctrlMsg
  | .master2Backend .modeCfgMsg | .master2Backend .ctrlMsg
  | .slave2Backend .clipDataMsg =>
      simp only [decode, Master2Slave.SyncMsg.decode.eq_def,
        Master2Slave.CondCfgMsg.decode.eq_def,
        Master2Slave.ResCfgMsg.decode.eq_def,
        Master2Slave.ClipCfgMsg.decode.eq_def,
        Master2Slave.decodeReserve.eq_def, Master2Slave.RstMsg.decode.eq_def,
        Slave2Master.CondCfgMsg.decode.eq_def,
        Slave2Master.ResCfgMsg.decode.eq_def,
        Slave2Master.ClipCfgMsg.decode.eq_def,
        Slave2Master.RstMsg.decode.eq_def,
        Backend2Master.ModeCfgMsg.decode.eq_def,
        Backend2Master.CtrlMsg.decode.eq_def,
        Master2Backend.ModeCfgMsg.decode.eq_def,
        Master2Backend.CtrlMsg.decode.eq_def,
        Slave2Backend.ClipDataMsg.decode.eq_def] at h
      split at h <;> cases h
      rfl

end WirelessHarness

import WirelessHarness.Protocol.Frame

/-!
# Message classes

One structure for the static fields of each message class, with the class's
`serialize` and `deserialize`.  All fields are static in the source, so a
`deserialize` receives the values left by earlier frames and returns the new
ones; the only ordinary members are the `reserve` bytes of the three read
requests, whose classes have no structure here.
-/

namespace WirelessHarness

open ByteOrder CheckedRead ProtocolUtils

/-! ## Master2Slave -/

namespace Master2Slave

structure SyncMsg where
  mode : UInt8 := 0
  timestamp : UInt32 := 0
deriving DecidableEq, Repr

/-- The only class that clears the output vector first. -/
def SyncMsg.serialize (self : SyncMsg) (_data : Bytes) : Bytes :=
  serializeUint32 [self.mode] self.timestamp

/-- A wrong size is logged and then ignored. -/
def SyncMsg.deserialize (data : Bytes) (_self : SyncMsg) :
    Except OutOfRange SyncMsg := do
  let mode ← readAt data 0
  let timestamp ← deserializeUint32 data 1
  return ⟨mode, timestamp⟩

structure CondCfgMsg where
  timeSlot : UInt8 := 0
  interval : UInt8 := 0
  totalConductionNum : UInt16 := 0
  startConductionNum : UInt16 := 0
  conductionNum : UInt16 := 0
deriving DecidableEq, Repr

def CondCfgMsg.serialize (self : CondCfgMsg) (data : Bytes) : Bytes :=
  data ++ [self.timeSlot, self.interval] ++ bytes16 self.totalConductionNum ++
    bytes16 self.startConductionNum ++ bytes16 self.conductionNum

def CondCfgMsg.deserialize (data : Bytes) (self : CondCfgMsg) :
    Except OutOfRange CondCfgMsg := do
  if data.length ≠ 8 then
    return self
  let timeSlot ← readAt data 0
  let interval ← readAt data 1
  let totalConductionNum ← deserializeUint16 data 2
  let startConductionNum ← deserializeUint16 data 4
  let conductionNum ← deserializeUint16 data 6
  return ⟨timeSlot, interval, totalConductionNum, startConductionNum,
    conductionNum⟩

structure ResCfgMsg where
  timeSlot : UInt8 := 0
  interval : UInt8 := 0
  totalResistanceNum : UInt16 := 0
  startResistanceNum : UInt16 := 0
  resistanceNum : UInt16 := 0
deriving DecidableEq, Repr

def ResCfgMsg.serialize (self : ResCfgMsg) (data : Bytes) : Bytes :=
  data ++ [self.timeSlot, self.interval] ++ bytes16 self.totalResistanceNum ++
    bytes16 self.startResistanceNum ++ bytes16 self.resistanceNum

def ResCfgMsg.deserialize (data : Bytes) (self : ResCfgMsg) :
    Except OutOfRange ResCfgMsg := do
  if data.length ≠ 8 then
    return self
  let timeSlot ← readAt data 0
  let interval ← readAt data 1
  let totalResistanceNum ← deserializeUint16 data 2
  let startResistanceNum ← deserializeUint16 data 4
  let resistanceNum ← deserializeUint16 data 6
  return ⟨timeSlot, interval, totalResistanceNum, startResistanceNum,
    resistanceNum⟩

structure ClipCfgMsg where
  interval : UInt8 := 0
  mode : UInt8 := 0
  clipPin : UInt16 := 0
deriving DecidableEq, Repr

def ClipCfgMsg.serialize (self : ClipCfgMsg) (data : Bytes) : Bytes :=
  data ++ [self.interval, self.mode] ++ bytes16 self.clipPin

def ClipCfgMsg.deserialize (data : Bytes) (self : ClipCfgMsg) :
    Except OutOfRange ClipCfgMsg := do
  if data.length ≠ 4 then
    return self
  let interval ← readAt data 0
  let mode ← readAt data 1
  let clipPin ← deserializeUint16 data 2
  return ⟨interval, mode, clipPin⟩

/-- `ReadCondDataMsg`, `ReadResDataMsg` and `ReadClipDataMsg` all serialize
their `reserve` byte. -/
def serializeReserve (reserve : UInt8) (data : Bytes) : Bytes :=
  data ++ [reserve]

/-- The three read requests keep `reserve` in the object. -/
def deserializeReserve (data : Bytes) (reserve : UInt8) :
    Except OutOfRange UInt8 := do
  if data.length ≠ 1 then
    return reserve
  readAt data 0

structure RstMsg where
  lock : UInt8 := 0
  clipLed : UInt16 := 0
deriving DecidableEq, Repr

def RstMsg.serialize (self : RstMsg) (data : Bytes) : Bytes :=
  data ++ [self.lock] ++ bytes16 self.clipLed

/-- A wrong size is logged and then ignored. -/
def RstMsg.deserialize (data : Bytes) (_self : RstMsg) :
    Except OutOfRange RstMsg := do
  let lock ← readAt data 0
  let clipLed ← deserializeUint16 data 1
  return ⟨lock, clipLed⟩

end Master2Slave

/-! ## Slave2Master -/

namespace Slave2Master

structure CondCfgMsg where
  status : UInt8 := 0
  timeSlot : UInt8 := 0
  interval : UInt8 := 0
  totalConductionNum : UInt16 := 0
  startConductionNum : UInt16 := 0
  conductionNum : UInt16 := 0
deriving DecidableEq, Repr

def CondCfgMsg.serialize (self : CondCfgMsg) (data : Bytes) : Bytes :=
  data ++ [self.status, self.timeSlot, self.interval] ++
    bytes16 self.totalConductionNum ++ bytes16 self.startConductionNum ++
    bytes16 self.conductionNum

def CondCfgMsg.deserialize (data : Bytes) (self : CondCfgMsg) :
    Except OutOfRange CondCfgMsg := do
  if data.length ≠ 9 then
    return self
  let status ← readAt data 0
  let timeSlot ← readAt data 1
  let interval ← readAt data 2
  let totalConductionNum ← deserializeUint16 data 3
  let startConductionNum ← deserializeUint16 data 5
  let conductionNum ← deserializeUint16 data 7
  return ⟨status, timeSlot, interval, totalConductionNum,
    startConductionNum, conductionNum⟩

structure ResCfgMsg where
  status : UInt8 := 0
  timeSlot : UInt8 := 0
  interval : UInt8 := 0
  totalResistanceNum : UInt16 := 0
  startResistanceNum : UInt16 := 0
  resistanceNum : UInt16 := 0
deriving DecidableEq, Repr

/-- The three 16-bit fields go out high byte first. -/
def ResCfgMsg.serialize (self : ResCfgMsg) (data : Bytes) : Bytes :=
  data ++ [self.status, self.timeSlot, self.interval] ++
    (bytes16 self.totalResistanceNum).reverse ++
    (bytes16 self.startResistanceNum).reverse ++
    (bytes16 self.resistanceNum).reverse

def ResCfgMsg.deserialize (data : Bytes) (self : ResCfgMsg) :
    Except OutOfRange ResCfgMsg := do
  if data.length ≠ 9 then
    return self
  let status ← readAt data 0
  let timeSlot ← readAt data 1
  let interval ← readAt data 2
  let totalResistanceNum ← deserializeUint16 data 3
  let startResistanceNum ← deserializeUint16 data 5
  let resistanceNum ← deserializeUint16 data 7
  return ⟨status, timeSlot, interval, totalResistanceNum,
    startResistanceNum, resistanceNum⟩

structure ClipCfgMsg where
  status : UInt8 := 0
  interval : UInt8 := 0
  mode : UInt8 := 0
  clipPin : UInt16 := 0
deriving DecidableEq, Repr

def ClipCfgMsg.serialize (self : ClipCfgMsg) (data : Bytes) : Bytes :=
  data ++ [self.status, self.interval, self.mode] ++ bytes16 self.clipPin

def ClipCfgMsg.deserialize (data : Bytes) (self : ClipCfgMsg) :
    Except OutOfRange ClipCfgMsg := do
  if data.length ≠ 5 then
    return self
  let status ← readAt data 0
  let interval ← readAt data 1
  let mode ← readAt data 2
  let clipPin ← deserializeUint16 data 3
  return ⟨status, interval, mode, clipPin⟩

structure RstMsg where
  status : UInt8 := 0
  lockStatus : UInt8 := 0
  clipLed : UInt16 := 0
deriving DecidableEq, Repr

def RstMsg.serialize (self : RstMsg) (data : Bytes) : Bytes :=
  data ++ [self.status, self.lockStatus] ++ bytes16 self.clipLed

def RstMsg.deserialize (data : Bytes) (self : RstMsg) :
    Except OutOfRange RstMsg := do
  if data.length ≠ 4 then
    return self
  let status ← readAt data 0
  let lockStatus ← readAt data 1
  let clipLed ← deserializeUint16 data 2
  return ⟨status, lockStatus, clipLed⟩

end Slave2Master

/-! ## Records of the list messages

The backend-to-master and master-to-backend classes declare their record types
separately, with the same wire layout. -/

structure SlaveConfig where
  id : UInt32
  conductionNum : UInt8
  resistanceNum : UInt8
  clipMode : UInt8
  clipStatus : UInt16
deriving DecidableEq, Repr

namespace SlaveConfig

def serialize (slave : SlaveConfig) : Bytes :=
  bytes32 slave.id ++
    [slave.conductionNum, slave.resistanceNum, slave.clipMode] ++
    bytes16 slave.clipStatus

/-- One iteration's nine reads at `offset`. -/
def deserialize (data : Bytes) (offset : ℕ) :
    Except OutOfRange SlaveConfig := do
  let id ← deserializeUint32 data offset
  let conductionNum ← readAt data (offset + 4)
  let resistanceNum ← readAt data (offset + 5)
  let clipMode ← readAt data (offset + 6)
  let clipStatus ← deserializeUint16 data (offset + 7)
  return ⟨id, conductionNum, resistanceNum, clipMode, clipStatus⟩

end SlaveConfig

structure SlaveResetConfig where
  id : UInt32
  lock : UInt8
  clipStatus : UInt16
deriving DecidableEq, Repr

namespace SlaveResetConfig

def serialize (slave : SlaveResetConfig) : Bytes :=
  bytes32 slave.id ++ [slave.lock] ++ bytes16 slave.clipStatus

/-- One iteration's seven reads at `offset`. -/
def deserialize (data : Bytes) (offset : ℕ) :
    Except OutOfRange SlaveResetConfig := do
  let id ← deserializeUint32 data offset
  let lock ← readAt data (offset + 4)
  let clipStatus ← deserializeUint16 data (offset + 5)
  return ⟨id, lock, clipStatus⟩

end SlaveResetConfig

/-- The record loop of the four list messages: at most `n` records of `width`
bytes from `offset`, left early when a whole record no longer fits. -/
def deserializeRecords {α : Type} (record : Bytes → ℕ → Except OutOfRange α)
    (width : ℕ) (data : Bytes) : ℕ → ℕ → Except OutOfRange (List α)
  | 0, _ => return []
  | n + 1, offset => do
      if data.length ≤ offset + (width - 1) then
        return []
      let slave ← record data offset
      let slaves ← deserializeRecords record width data n (offset + width)
      return slave :: slaves

/-! ## Backend2Master -/

namespace Backend2Master

structure SlaveCfgMsg where
  slaveNum : UInt8 := 0
  slaves : List SlaveConfig := []
deriving DecidableEq, Repr

def SlaveCfgMsg.serialize (self : SlaveCfgMsg) (data : Bytes) : Bytes :=
  data ++ [self.slaveNum] ++ self.slaves.flatMap SlaveConfig.serialize

def SlaveCfgMsg.deserialize (data : Bytes) (self : SlaveCfgMsg) :
    Except OutOfRange SlaveCfgMsg := do
  if data.length < 1 ∨ (data.length - 1) % 9 ≠ 0 then
    return self
  let slaveNum ← readAt data 0
  let slaves ←
    deserializeRecords SlaveConfig.deserialize 9 data slaveNum.toNat 1
  return ⟨slaveNum, slaves⟩

structure ModeCfgMsg where
  mode : UInt8 := 0
deriving DecidableEq, Repr

def ModeCfgMsg.serialize (self : ModeCfgMsg) (data : Bytes) : Bytes :=
  data ++ [self.mode]

def ModeCfgMsg.deserialize (data : Bytes) (self : ModeCfgMsg) :
    Except OutOfRange ModeCfgMsg := do
  if data.length ≠ 1 then
    return self
  let mode ← readAt data 0
  return ⟨mode⟩

structure RstMsg where
  slaveNum : UInt8 := 0
  slaves : List SlaveResetConfig := []
deriving DecidableEq, Repr

def RstMsg.serialize (self : RstMsg) (data : Bytes) : Bytes :=
  data ++ [self.slaveNum] ++ self.slaves.flatMap SlaveResetConfig.serialize

def RstMsg.deserialize (data : Bytes) (self : RstMsg) :
    Except OutOfRange RstMsg := do
  if data.length < 1 ∨ (data.length - 1) % 7 ≠ 0 then
    return self
  let slaveNum ← readAt data 0
  let slaves ←
    deserializeRecords SlaveResetConfig.deserialize 7 data slaveNum.toNat 1
  return ⟨slaveNum, slaves⟩

structure CtrlMsg where
  runningStatus : UInt8 := 0
deriving DecidableEq, Repr

def CtrlMsg.serialize (self : CtrlMsg) (data : Bytes) : Bytes :=
  data ++ [self.runningStatus]

def CtrlMsg.deserialize (data : Bytes) (self : CtrlMsg) :
    Except OutOfRange CtrlMsg := do
  if data.length ≠ 1 then
    return self
  let runningStatus ← readAt data 0
  return ⟨runningStatus⟩

end Backend2Master

/-! ## Master2Backend -/

namespace Master2Backend

structure SlaveCfgMsg where
  status : UInt8 := 0
  slaveNum : UInt8 := 0
  slaves : List SlaveConfig := []
deriving DecidableEq, Repr

def SlaveCfgMsg.serialize (self : SlaveCfgMsg) (data : Bytes) : Bytes :=
  data ++ [self.status, self.slaveNum] ++
    self.slaves.flatMap SlaveConfig.serialize

def SlaveCfgMsg.deserialize (data : Bytes) (self : SlaveCfgMsg) :
    Except OutOfRange SlaveCfgMsg := do
  if data.length < 2 ∨ (data.length - 2) % 9 ≠ 0 then
    return self
  let status ← readAt data 0
  let slaveNum ← readAt data 1
  let slaves ←
    deserializeRecords SlaveConfig.deserialize 9 data slaveNum.toNat 2
  return ⟨status, slaveNum, slaves⟩

structure ModeCfgMsg where
  status : UInt8 := 0
  mode : UInt8 := 0
deriving DecidableEq, Repr

def ModeCfgMsg.serialize (self : ModeCfgMsg) (data : Bytes) : Bytes :=
  data ++ [self.status, self.mode]

def ModeCfgMsg.deserialize (data : Bytes) (self : ModeCfgMsg) :
    Except OutOfRange ModeCfgMsg := do
  if data.length ≠ 2 then
    return self
  let status ← readAt data 0
  let mode ← readAt data 1
  return ⟨status, mode⟩

structure RstMsg where
  status : UInt8 := 0
  slaveNum : UInt8 := 0
  slaves : List SlaveResetConfig := []
deriving DecidableEq, Repr

def RstMsg.serialize (self : RstMsg) (data : Bytes) : Bytes :=
  data ++ [self.status, self.slaveNum] ++
    self.slaves.flatMap SlaveResetConfig.serialize

def RstMsg.deserialize (data : Bytes) (self : RstMsg) :
    Except OutOfRange RstMsg := do
  if data.length < 2 ∨ (data.length - 2) % 7 ≠ 0 then
    return self
  let status ← readAt data 0
  let slaveNum ← readAt data 1
  let slaves ←
    deserializeRecords SlaveResetConfig.deserialize 7 data slaveNum.toNat 2
  return ⟨status, slaveNum, slaves⟩

structure CtrlMsg where
  status : UInt8 := 0
  runningStatus : UInt8 := 0
deriving DecidableEq, Repr

def CtrlMsg.serialize (self : CtrlMsg) (data : Bytes) : Bytes :=
  data ++ [self.status, self.runningStatus]

def CtrlMsg.deserialize (data : Bytes) (self : CtrlMsg) :
    Except OutOfRange CtrlMsg := do
  if data.length ≠ 2 then
    return self
  let status ← readAt data 0
  let runningStatus ← readAt data 1
  return ⟨status, runningStatus⟩

end Master2Backend

/-! ## Slave2Backend -/

namespace Slave2Backend

structure CondDataMsg where
  conductionLength : UInt16 := 0
  conductionData : Bytes := []
deriving DecidableEq, Repr

def CondDataMsg.serialize (self : CondDataMsg) (data : Bytes) : Bytes :=
  data ++ bytes16 self.conductionLength ++ self.conductionData

/-- The length field is stored before it is compared with the data. -/
def CondDataMsg.deserialize (data : Bytes) (self : CondDataMsg) :
    Except OutOfRange CondDataMsg := do
  if data.length < 2 then
    return self
  let conductionLength ← deserializeUint16 data 0
  if data.length ≠ 2 + conductionLength.toNat then
    return { self with conductionLength }
  return ⟨conductionLength, data.drop 2⟩

structure ResDataMsg where
  resistanceLength : UInt16 := 0
  resistanceData : Bytes := []
deriving DecidableEq, Repr

def ResDataMsg.serialize (self : ResDataMsg) (data : Bytes) : Bytes :=
  data ++ bytes16 self.resistanceLength ++ self.resistanceData

/-- The length field is stored before it is compared with the data. -/
def ResDataMsg.deserialize (data : Bytes) (self : ResDataMsg) :
    Except OutOfRange ResDataMsg := do
  if data.length < 2 then
    return self
  let resistanceLength ← deserializeUint16 data 0
  if data.length ≠ 2 + resistanceLength.toNat then
    return { self with resistanceLength }
  return ⟨resistanceLength, data.drop 2⟩

structure ClipDataMsg where
  clipData : UInt16 := 0
deriving DecidableEq, Repr

def ClipDataMsg.serialize (self : ClipDataMsg) (data : Bytes) : Bytes :=
  data ++ bytes16 self.clipData

def ClipDataMsg.deserialize (data : Bytes) (self : ClipDataMsg) :
    Except OutOfRange ClipDataMsg := do
  if data.length ≠ 2 then
    return self
  let clipData ← deserializeUint16 data 0
  return ⟨clipData⟩

end Slave2Backend

/-- The static fields of every message class, as one program's memory holds
them.  The initial values are those of `protocal.cpp`. -/
structure Statics where
  m2sSync : Master2Slave.SyncMsg := {}
  m2sCondCfg : Master2Slave.CondCfgMsg := {}
  m2sResCfg : Master2Slave.ResCfgMsg := {}
  m2sClipCfg : Master2Slave.ClipCfgMsg := {}
  m2sRst : Master2Slave.RstMsg := {}
  s2mCondCfg : Slave2Master.CondCfgMsg := {}
  s2mResCfg : Slave2Master.ResCfgMsg := {}
  s2mClipCfg : Slave2Master.ClipCfgMsg := {}
  s2mRst : Slave2Master.RstMsg := {}
  b2mSlaveCfg : Backend2Master.SlaveCfgMsg := {}
  b2mModeCfg : Backend2Master.ModeCfgMsg := {}
  b2mRst : Backend2Master.RstMsg := {}
  b2mCtrl : Backend2Master.CtrlMsg := {}
  m2bSlaveCfg : Master2Backend.SlaveCfgMsg := {}
  m2bModeCfg : Master2Backend.ModeCfgMsg := {}
  m2bRst : Master2Backend.RstMsg := {}
  m2bCtrl : Master2Backend.CtrlMsg := {}
  s2bCondData : Slave2Backend.CondDataMsg := {}
  s2bResData : Slave2Backend.ResDataMsg := {}
  s2bClipData : Slave2Backend.ClipDataMsg := {}
deriving DecidableEq, Repr

end WirelessHarness

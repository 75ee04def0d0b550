import WirelessHarness.Protocol.Packing

/-!
# Commands between the master's tasks

The values the command interface hands to the `SlaveManager`, and what the
forwarders need of the queue and the event group between the two tasks.
-/

namespace WirelessHarness

open ByteOrder

/-! ## Command values -/

/-- `uint8_t id[4]`. -/
abbrev IdBytes := Vector UInt8 4

/-- `memcpy(id, &dev.id, sizeof(dev.id))`. -/
def memcpyId (id : UInt32) : IdBytes :=
  ⟨(bytes32 id).toArray, rfl⟩

/-- `__ProcessBase::get_id`, the `memcpy` back. -/
def get_id (id : IdBytes) : UInt32 :=
  word32 id[0] id[1] id[2] id[3]

@[simp] theorem get_id_memcpyId (id : UInt32) :
    get_id (memcpyId id) = id :=
  word32_bytes id

structure CfgCmd where
  id : IdBytes
  cond : UInt16
  Z : UInt16
  clip_exist : Bool
  clip_mode : UInt8
  clip_pin : UInt16
  totalHarnessNum : UInt16
  startHarnessNum : UInt16
  slave_dev_num : UInt16
  is_last_dev : Bool
deriving DecidableEq, Repr

/-- `memset(&cfg_cmd, 0, sizeof(cfg_cmd))`. -/
def CfgCmd.zero : CfgCmd where
  id := Vector.replicate 4 0
  cond := 0
  Z := 0
  clip_exist := false
  clip_mode := 0
  clip_pin := 0
  totalHarnessNum := 0
  startHarnessNum := 0
  slave_dev_num := 0
  is_last_dev := false

/-- A received byte is cast to the enumeration without a test. -/
abbrev SysMode := UInt8

def CONDUCTION_TEST : SysMode := 0

structure ModeCmd where
  mode : SysMode
deriving DecidableEq, Repr

structure ResetCmd where
  id : IdBytes
  clip : UInt16
  lock : UInt8
deriving DecidableEq, Repr

def ResetCmd.zero : ResetCmd :=
  ⟨Vector.replicate 4 0, 0, 0⟩

/-- A received byte is cast to the enumeration without a test. -/
abbrev CtrlType := UInt8

def DEV_DISABLE : CtrlType := 0

def DEV_ENABLE : CtrlType := 1

structure CtrlCmd where
  ctrl : CtrlType
deriving DecidableEq, Repr

/-- `DEV_QUERY` is never forwarded. -/
inductive CmdType
  | DEV_CONF
  | DEV_MODE
  | DEV_RESET
  | DEV_CTRL
deriving DecidableEq, Repr

structure DataForward where
  type : CmdType
  cfg_cmd : CfgCmd
  mode_cmd : ModeCmd
  rst_cmd : ResetCmd
  ctrl_cmd : CtrlCmd
deriving DecidableEq, Repr

/-- `std::fill` with 0 in the constructor of `DataForwardBase`. -/
def DataForward.zero : DataForward :=
  ⟨.DEV_CONF, .zero, ⟨0⟩, .zero, ⟨0⟩⟩

/-! ## The event group -/

/-- The bits of `PCmanagerMsg::event` that either task uses. -/
inductive EventBit
  | FORWARD_SUCCESS_EVENT
  | CONFIG_SUCCESS_EVENT
  | MODE_SUCCESS_EVENT
  | RESET_SUCCESS_EVENT
  | CTRL_SUCCESS_EVENT
deriving DecidableEq, Repr

abbrev EventGroup := EventBit → Bool

namespace EventGroup

def set (event : EventGroup) (bit : EventBit) : EventGroup :=
  Function.update event bit true

def clear (event : EventGroup) (bit : EventBit) : EventGroup :=
  Function.update event bit false

@[simp] theorem set_apply (event : EventGroup) (bit b : EventBit) :
    event.set bit b = if b = bit then true else event b := by
  simp [set, Function.update_apply]

@[simp] theorem clear_apply (event : EventGroup) (bit b : EventBit) :
    event.clear bit b = if b = bit then false else event b := by
  simp [clear, Function.update_apply]

end EventGroup

/-- What a forwarder sees of the other tasks in state `σ`:
`DataForwardBase::forward`, which is `false` when the queue or the event times
out, and `event.get()`. -/
structure CommandPort (σ : Type) where
  forward : DataForward → σ → Bool × σ
  event : σ → EventGroup

/-- The port that also keeps the commands it forwards. -/
def CommandPort.logged {σ : Type} (port : CommandPort σ) :
    CommandPort (σ × List DataForward) where
  forward data_forward s :=
    let (ok, t) := port.forward data_forward s.1
    (ok, t, s.2 ++ [data_forward])
  event s := port.event s.1

/-! ## Configuring one device -/

namespace DeviceConfigProcessor

def CONDUCTION_TEST_INTERVAL : UInt8 := 20

/-- `wirte_cond_info_msg` after the assignments of `__cond_config`. -/
def condCfgMsg (cfg_cmd : CfgCmd) (timeSlot : UInt8) :
    Master2Slave.CondCfgMsg where
  timeSlot := timeSlot
  interval := CONDUCTION_TEST_INTERVAL
  totalConductionNum := cfg_cmd.totalHarnessNum
  startConductionNum := cfg_cmd.startHarnessNum
  conductionNum := cfg_cmd.cond

/-- The frame `__cond_config` sends. -/
def cond_frame (cfg_cmd : CfgCmd) (timeSlot : UInt8) : Bytes :=
  FramePacker.packMaster2Slave
    (PacketPacker.master2SlavePack .condCfgMsg (condCfgMsg cfg_cmd timeSlot)
      (get_id cfg_cmd.id))

end DeviceConfigProcessor

end WirelessHarness

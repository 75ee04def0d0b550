import WirelessHarness.Master.Commands

/-!
# Forwarding backend commands

The four forwarders of `pc_message.hpp` and `ProtocolMessageForward`, over an
arbitrary port to the `SlaveManager`.  A forwarder's reply message has static
fields, all of which it assigns, so the reply is built as a value.
-/

namespace WirelessHarness

open CheckedRead

/-- `status = !is_success`. -/
def rspStatus (is_success : Bool) : UInt8 :=
  if is_success then 0 else 1

/-- One `forward()` followed by the test of a success event: a time-out leaves
`is_success` alone. -/
def forwardChecked {σ : Type} (port : CommandPort σ) (bit : EventBit)
    (data_forward : DataForward) (is_success : Bool) (s : σ) : Bool × σ :=
  let (ok, t) := port.forward data_forward s
  (if ok then is_success && port.event t bit else is_success, t)

/-! ## SlaveConfig -/

/-- The members of the forwarder `SlaveConfig` that survive a call. -/
structure SlaveConfigForward where
  cfg_cmd : CfgCmd := .zero
  data_forward : DataForward := .zero

namespace SlaveConfigForward

/-- The first loop: the total over all devices. -/
def countHarness (cfg_cmd : CfgCmd) (slaves : List SlaveConfig) : CfgCmd :=
  slaves.foldl
    (fun cfg_cmd dev =>
      { cfg_cmd with
        totalHarnessNum :=
          cfg_cmd.totalHarnessNum + dev.conductionNum.toUInt16 })
    cfg_cmd

/-- The command of the next device, from the one of the device before it. -/
def nextCmd (slave_num index : UInt16) (cfg_cmd : CfgCmd)
    (dev : SlaveConfig) : CfgCmd :=
  { cfg_cmd with
    is_last_dev := decide (index = slave_num)
    slave_dev_num := slave_num
    id := memcpyId dev.id
    startHarnessNum := cfg_cmd.startHarnessNum + cfg_cmd.cond
    Z := dev.resistanceNum.toUInt16
    cond := dev.conductionNum.toUInt16
    clip_exist := true
    clip_pin := dev.clipStatus
    clip_mode := dev.clipMode }

/-- The state of the second loop. -/
structure LoopState (σ : Type) where
  self : SlaveConfigForward
  is_success : Bool
  index : UInt16
  rsp_slaves : List SlaveConfig
  sys : σ

variable {σ : Type}

def configDevice (port : CommandPort σ) (slave_num : UInt16)
    (l : LoopState σ) (dev : SlaveConfig) : LoopState σ :=
  let index := l.index + 1
  let cfg_cmd := nextCmd slave_num index l.self.cfg_cmd dev
  let data_forward := { l.self.data_forward with cfg_cmd }
  let (is_success, sys) :=
    forwardChecked port .CONFIG_SUCCESS_EVENT data_forward l.is_success l.sys
  { self := ⟨cfg_cmd, data_forward⟩
    is_success
    index
    rsp_slaves := l.rsp_slaves ++ [dev]
    sys }

/-- The state in front of the second loop. -/
def startLoop (self : SlaveConfigForward) (slaves : List SlaveConfig)
    (sys : σ) : LoopState σ where
  self :=
    { cfg_cmd := countHarness .zero slaves
      data_forward := { self.data_forward with type := .DEV_CONF } }
  is_success := true
  index := 0
  rsp_slaves := []
  sys := sys

def forwardLoop (port : CommandPort σ) (self : SlaveConfigForward)
    (slaves : List SlaveConfig) (sys : σ) : LoopState σ :=
  slaves.foldl (configDevice port (UInt16.ofNat slaves.length))
    (startLoop self slaves sys)

/-- `slaves` are `Backend2Master::SlaveCfgMsg::slaves`. -/
def forward (port : CommandPort σ) (self : SlaveConfigForward)
    (slaves : List SlaveConfig) (sys : σ) : Bytes × SlaveConfigForward × σ :=
  let slave_num := UInt16.ofNat slaves.length
  let l := forwardLoop port self slaves sys
  let rsp_msg : Master2Backend.SlaveCfgMsg :=
    ⟨rspStatus l.is_success, slave_num.toUInt8, l.rsp_slaves⟩
  (FramePacker.packMaster2Backend
    (PacketPacker.master2BackendPack .slaveCfgMsg rsp_msg), l.self, l.sys)

end SlaveConfigForward

/-! ## ModeConfig -/

structure ModeConfigForward where
  data_forward : DataForward := .zero

namespace ModeConfigForward

variable {σ : Type}

/-- `mode` is `Backend2Master::ModeCfgMsg::mode`. -/
def forward (port : CommandPort σ) (self : ModeConfigForward) (mode : UInt8)
    (sys : σ) : Bytes × ModeConfigForward × σ :=
  let data_forward :=
    { self.data_forward with type := .DEV_MODE, mode_cmd := ⟨mode⟩ }
  let (is_success, sys) :=
    forwardChecked port .MODE_SUCCESS_EVENT data_forward true sys
  let rsp_msg : Master2Backend.ModeCfgMsg := ⟨rspStatus is_success, mode⟩
  (FramePacker.packMaster2Backend
    (PacketPacker.master2BackendPack .modeCfgMsg rsp_msg), ⟨data_forward⟩, sys)

end ModeConfigForward

/-! ## ResetConfig -/

structure ResetConfigForward where
  data_forward : DataForward := .zero

namespace ResetConfigForward

variable {σ : Type}

structure LoopState (σ : Type) where
  self : ResetConfigForward
  is_success : Bool
  rsp_slaves : List SlaveResetConfig
  sys : σ

def resetDevice (port : CommandPort σ) (l : LoopState σ)
    (dev : SlaveResetConfig) : LoopState σ :=
  let rst_cmd : ResetCmd := ⟨memcpyId dev.id, dev.clipStatus, dev.lock⟩
  let data_forward := { l.self.data_forward with rst_cmd }
  let (is_success, sys) :=
    forwardChecked port .RESET_SUCCESS_EVENT data_forward l.is_success l.sys
  { self := ⟨data_forward⟩
    is_success
    rsp_slaves := l.rsp_slaves ++ [dev]
    sys }

/-- `slaves` are `Backend2Master::RstMsg::slaves`. -/
def forward (port : CommandPort σ) (self : ResetConfigForward)
    (slaves : List SlaveResetConfig) (sys : σ) :
    Bytes × ResetConfigForward × σ :=
  let slave_num := UInt16.ofNat slaves.length
  let l := slaves.foldl (resetDevice port)
    { self := ⟨{ self.data_forward with type := .DEV_RESET }⟩
      is_success := true
      rsp_slaves := []
      sys }
  let rsp_msg : Master2Backend.RstMsg :=
    ⟨rspStatus l.is_success, slave_num.toUInt8, l.rsp_slaves⟩
  (FramePacker.packMaster2Backend
    (PacketPacker.master2BackendPack .rstMsg rsp_msg), l.self, l.sys)

end ResetConfigForward

/-! ## ControlConfig -/

structure ControlConfigForward where
  data_forward : DataForward := .zero

namespace ControlConfigForward

variable {σ : Type}

/-- `runningStatus` is `Backend2Master::CtrlMsg::runningStatus`. -/
def forward (port : CommandPort σ) (self : ControlConfigForward)
    (runningStatus : UInt8) (sys : σ) : Bytes × ControlConfigForward × σ :=
  let data_forward :=
    { self.data_forward with type := .DEV_CTRL, ctrl_cmd := ⟨runningStatus⟩ }
  let (is_success, sys) :=
    forwardChecked port .CTRL_SUCCESS_EVENT data_forward true sys
  let rsp_msg : Master2Backend.CtrlMsg :=
    ⟨rspStatus is_success, runningStatus⟩
  (FramePacker.packMaster2Backend
    (PacketPacker.master2BackendPack .ctrlMsg rsp_msg), ⟨data_forward⟩, sys)

end ControlConfigForward

/-! ## ProtocolMessageForward -/

structure ProtocolMessageForward where
  rx_msg_id : Backend2MasterMessageID := .slaveCfgMsg
  slave_config : SlaveConfigForward := {}
  mode_config : ModeConfigForward := {}
  reset_config : ResetConfigForward := {}
  control_config : ControlConfigForward := {}
  rsp_packet : Bytes := []
  statics : Statics := {}

namespace ProtocolMessageForward

variable {σ : Type}

/-- `msg->process()`: only backend commands set the id dispatched on. -/
def processMessage (self : ProtocolMessageForward) (msg : Message) :
    ProtocolMessageForward :=
  match msg.cls with
  | .backend2Master id => { self with rx_msg_id := id }
  | _ => self

/-- The `switch` on `rx_msg_id`. -/
def dispatch (port : CommandPort σ) (self : ProtocolMessageForward)
    (sys : σ) : ProtocolMessageForward × σ :=
  match self.rx_msg_id with
  | .slaveCfgMsg =>
      let (rsp_packet, slave_config, sys) :=
        self.slave_config.forward port self.statics.b2mSlaveCfg.slaves sys
      ({ self with rsp_packet, slave_config }, sys)
  | .modeCfgMsg =>
      let (rsp_packet, mode_config, sys) :=
        self.mode_config.forward port self.statics.b2mModeCfg.mode sys
      ({ self with rsp_packet, mode_config }, sys)
  | .rstMsg =>
      let (rsp_packet, reset_config, sys) :=
        self.reset_config.forward port self.statics.b2mRst.slaves sys
      ({ self with rsp_packet, reset_config }, sys)
  | .ctrlMsg =>
      let (rsp_packet, control_config, sys) :=
        self.control_config.forward port self.statics.b2mCtrl.runningStatus sys
      ({ self with rsp_packet, control_config }, sys)

/-- The reply is the new `rsp_packet`. -/
def forward (port : CommandPort σ) (self : ProtocolMessageForward)
    (raw_data : Bytes) (sys : σ) :
    Except OutOfRange (ProtocolMessageForward × σ) := do
  let (msg?, statics) ← FrameParser.parse .master 0 raw_data self.statics
  let self := { self with statics }
  match msg? with
  | some msg => return dispatch port (self.processMessage msg) sys
  | none => return ({ self with rsp_packet := [] }, sys)

/-- A frame with a backend command is dispatched on its id, with its fields in
the static memory. -/
theorem forward_of_decode (port : CommandPort σ)
    (self : ProtocolMessageForward) {raw_data payload : Bytes}
    {id : Backend2MasterMessageID}
    {fields : (MessageClass.backend2Master id).Fields}
    (hsel : FrameParser.select .master 0 raw_data =
      some (.backend2Master id, payload))
    (hdec : decode (.backend2Master id) payload = some fields) (sys : σ) :
    forward port self raw_data sys =
      .ok (dispatch port
        { self with
          statics := self.statics.store (.backend2Master id) fields
          rx_msg_id := id } sys) := by
  rw [forward, FrameParser.parse_of_decode hsel hdec]
  cases id <;> rfl

end ProtocolMessageForward

end WirelessHarness

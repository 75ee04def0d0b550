import WirelessHarness.Master.Partition

/-!
# What a backend command forwards

The commands that a forwarder hands to the `SlaveManager` do not depend on the
answers, and the reply depends on them only through its status: every
forwarder checks its commands one after the other.
-/

namespace WirelessHarness

open CheckedRead

variable {σ : Type}

/-- Forward commands in turn, each followed by the test of the event. -/
def forwardAll (port : CommandPort σ) (bit : EventBit)
    (data_forwards : List DataForward) (is_success : Bool) (s : σ) :
    Bool × σ :=
  data_forwards.foldl
    (fun l data_forward => forwardChecked port bit data_forward l.1 l.2)
    (is_success, s)

@[simp] theorem forwardAll_nil (port : CommandPort σ) (bit : EventBit)
    (is_success : Bool) (s : σ) :
    forwardAll port bit [] is_success s = (is_success, s) := rfl

theorem forwardAll_cons (port : CommandPort σ) (bit : EventBit)
    (data_forward : DataForward) (data_forwards : List DataForward)
    (is_success : Bool) (s : σ) :
    forwardAll port bit (data_forward :: data_forwards) is_success s =
      forwardAll port bit data_forwards
        (forwardChecked port bit data_forward is_success s).1
        (forwardChecked port bit data_forward is_success s).2 := rfl

/-- What the port logs is what was to be forwarded. -/
theorem log_forwardAll (port : CommandPort σ) (bit : EventBit)
    (data_forwards : List DataForward) (is_success : Bool)
    (s : σ × List DataForward) :
    (forwardAll port.logged bit data_forwards is_success s).2.2 =
      s.2 ++ data_forwards := by
  induction data_forwards generalizing is_success s with
  | nil => simp
  | cons data_forward data_forwards ih =>
      rw [forwardAll_cons, ih]
      simp [forwardChecked, CommandPort.logged]

namespace SlaveConfigForward

/-- The commands of one call. -/
def dataForwards (self : SlaveConfigForward) (slaves : List SlaveConfig) :
    List DataForward :=
  (cfgCmds (UInt16.ofNat slaves.length) 0 (countHarness .zero slaves)
    slaves).map fun cfg_cmd =>
      { self.data_forward with type := .DEV_CONF, cfg_cmd }

theorem foldl_configDevice (port : CommandPort σ) (slave_num : UInt16)
    (slaves : List SlaveConfig) (l : LoopState σ) :
    let l' := slaves.foldl (configDevice port slave_num) l
    let data_forwards := (cfgCmds slave_num l.index l.self.cfg_cmd slaves).map
      fun cfg_cmd => { l.self.data_forward with cfg_cmd }
    let r := forwardAll port .CONFIG_SUCCESS_EVENT data_forwards l.is_success
      l.sys
    l'.is_success = r.1 ∧ l'.sys = r.2 ∧
      l'.rsp_slaves = l.rsp_slaves ++ slaves := by
  induction slaves generalizing l with
  | nil => simp [cfgCmds]
  | cons dev slaves ih =>
      obtain ⟨hsuccess, hsys, hslaves⟩ := ih (configDevice port slave_num l dev)
      refine ⟨hsuccess, hsys, ?_⟩
      rw [List.foldl_cons, hslaves]
      simp [configDevice]

end SlaveConfigForward

namespace ResetConfigForward

/-- The commands of one call. -/
def dataForwards (self : ResetConfigForward)
    (slaves : List SlaveResetConfig) : List DataForward :=
  slaves.map fun dev =>
    { self.data_forward with
      type := .DEV_RESET
      rst_cmd := ⟨memcpyId dev.id, dev.clipStatus, dev.lock⟩ }

theorem foldl_resetDevice (port : CommandPort σ)
    (slaves : List SlaveResetConfig) (l : LoopState σ) :
    let l' := slaves.foldl (resetDevice port) l
    let data_forwards := slaves.map fun dev =>
      { l.self.data_forward with
        rst_cmd := ⟨memcpyId dev.id, dev.clipStatus, dev.lock⟩ }
    let r := forwardAll port .RESET_SUCCESS_EVENT data_forwards l.is_success
      l.sys
    l'.is_success = r.1 ∧ l'.sys = r.2 ∧
      l'.rsp_slaves = l.rsp_slaves ++ slaves := by
  induction slaves generalizing l with
  | nil => simp
  | cons dev slaves ih =>
      obtain ⟨hsuccess, hsys, hslaves⟩ := ih (resetDevice port l dev)
      refine ⟨hsuccess, hsys, ?_⟩
      rw [List.foldl_cons, hslaves]
      simp [resetDevice]

end ResetConfigForward

namespace ProtocolMessageForward

/-- The kind of command that a message id names. -/
def kind : Backend2MasterMessageID → CmdType
  | .slaveCfgMsg => .DEV_CONF
  | .modeCfgMsg => .DEV_MODE
  | .rstMsg => .DEV_RESET
  | .ctrlMsg => .DEV_CTRL

/-- The event that a forwarder tests. -/
def successBit : Backend2MasterMessageID → EventBit
  | .slaveCfgMsg => .CONFIG_SUCCESS_EVENT
  | .modeCfgMsg => .MODE_SUCCESS_EVENT
  | .rstMsg => .RESET_SUCCESS_EVENT
  | .ctrlMsg => .CTRL_SUCCESS_EVENT

/-- The commands that the forwarder of `rx_msg_id` forwards. -/
def dataForwards (self : ProtocolMessageForward) : List DataForward :=
  match self.rx_msg_id with
  | .slaveCfgMsg =>
      self.slave_config.dataForwards self.statics.b2mSlaveCfg.slaves
  | .modeCfgMsg =>
      [{ self.mode_config.data_forward with
        type := .DEV_MODE
        mode_cmd := ⟨self.statics.b2mModeCfg.mode⟩ }]
  | .rstMsg => self.reset_config.dataForwards self.statics.b2mRst.slaves
  | .ctrlMsg =>
      [{ self.control_config.data_forward with
        type := .DEV_CTRL
        ctrl_cmd := ⟨self.statics.b2mCtrl.runningStatus⟩ }]

/-- The reply of the forwarder of `rx_msg_id`. -/
def reply (self : ProtocolMessageForward) (is_success : Bool) : Bytes :=
  FramePacker.packMaster2Backend
    (match self.rx_msg_id with
    | .slaveCfgMsg =>
        PacketPacker.master2BackendPack .slaveCfgMsg
          ⟨rspStatus is_success,
            (UInt16.ofNat self.statics.b2mSlaveCfg.slaves.length).toUInt8,
            self.statics.b2mSlaveCfg.slaves⟩
    | .modeCfgMsg =>
        PacketPacker.master2BackendPack .modeCfgMsg
          ⟨rspStatus is_success, self.statics.b2mModeCfg.mode⟩
    | .rstMsg =>
        PacketPacker.master2BackendPack .rstMsg
          ⟨rspStatus is_success,
            (UInt16.ofNat self.statics.b2mRst.slaves.length).toUInt8,
            self.statics.b2mRst.slaves⟩
    | .ctrlMsg =>
        PacketPacker.master2BackendPack .ctrlMsg
          ⟨rspStatus is_success, self.statics.b2mCtrl.runningStatus⟩)

/-- A command checks its `DataForward`s in turn and answers with the
result. -/
theorem dispatch_eq (port : CommandPort σ) (self : ProtocolMessageForward)
    (sys : σ) :
    let r := forwardAll port (successBit self.rx_msg_id) self.dataForwards
      true sys
    (dispatch port self sys).1.rsp_packet = self.reply r.1 ∧
      (dispatch port self sys).2 = r.2 := by
  cases hid : self.rx_msg_id with
  | slaveCfgMsg =>
      obtain ⟨hsuccess, hsys, hslaves⟩ :=
        SlaveConfigForward.foldl_configDevice port
        (UInt16.ofNat self.statics.b2mSlaveCfg.slaves.length)
        self.statics.b2mSlaveCfg.slaves
        (SlaveConfigForward.startLoop self.slave_config
          self.statics.b2mSlaveCfg.slaves sys)
      simp only [dispatch, dataForwards, reply, hid, successBit,
        SlaveConfigForward.forward, SlaveConfigForward.forwardLoop]
      refine ⟨?_, hsys⟩
      rw [hslaves, hsuccess]
      rfl
  | modeCfgMsg =>
      simp only [dispatch, dataForwards, reply, hid, successBit,
        ModeConfigForward.forward, forwardAll_cons, forwardAll_nil]
      exact ⟨trivial, trivial⟩
  | rstMsg =>
      obtain ⟨hsuccess, hsys, hslaves⟩ :=
        ResetConfigForward.foldl_resetDevice port
        self.statics.b2mRst.slaves
        { self := ⟨{ self.reset_config.data_forward with type := .DEV_RESET }⟩
          is_success := true
          rsp_slaves := []
          sys }
      simp only [dispatch, dataForwards, reply, hid, successBit,
        ResetConfigForward.forward]
      refine ⟨?_, hsys⟩
      rw [hslaves, hsuccess]
      rfl
  | ctrlMsg =>
      simp only [dispatch, dataForwards, reply, hid, successBit,
        ControlConfigForward.forward, forwardAll_cons, forwardAll_nil]
      exact ⟨trivial, trivial⟩

/-- What the port logs of a command. -/
theorem log_dispatch (port : CommandPort σ) (self : ProtocolMessageForward)
    (s : σ × List DataForward) :
    (dispatch port.logged self s).2.2 = s.2 ++ self.dataForwards := by
  rw [(dispatch_eq port.logged self s).2, log_forwardAll]

theorem type_of_mem_dataForwards {self : ProtocolMessageForward}
    {data_forward : DataForward} (h : data_forward ∈ self.dataForwards) :
    data_forward.type = kind self.rx_msg_id := by
  unfold dataForwards at h
  cases hid : self.rx_msg_id with
  | slaveCfgMsg =>
      rw [hid] at h
      obtain ⟨cfg_cmd, -, rfl⟩ := List.mem_map.mp h
      rfl
  | modeCfgMsg =>
      rw [hid] at h
      rw [List.mem_singleton.mp h]
      rfl
  | rstMsg =>
      rw [hid] at h
      obtain ⟨dev, -, rfl⟩ := List.mem_map.mp h
      rfl
  | ctrlMsg =>
      rw [hid] at h
      rw [List.mem_singleton.mp h]
      rfl

/-- A command leaves the message fields and the id alone. -/
theorem statics_dispatch (port : CommandPort σ)
    (self : ProtocolMessageForward) (sys : σ) :
    (dispatch port self sys).1.statics = self.statics ∧
      (dispatch port self sys).1.rx_msg_id = self.rx_msg_id := by
  cases hid : self.rx_msg_id <;> simp only [dispatch, hid, and_true]

end ProtocolMessageForward

end WirelessHarness

import WirelessHarness.Master.PcMessage

/-!
# The slave manager

The command dispatch of `SlaveManager::task` and the functions it calls.
Whether a device answers its configuration is decided outside; every call of
`DeviceConfigProcessor::process` and of `DeviceModeProcessor::process` is
recorded.
-/

namespace WirelessHarness

structure SlaveDev where
  id : IdBytes
  timeSlot : UInt8
deriving DecidableEq, Repr

inductive CfgState
  | CONGIG_START
  | CONFIG_PROCESSING
  | CONFIG_DONE
deriving DecidableEq, Repr

/-- One call of `DeviceConfigProcessor::process` and its result. -/
structure ConfigCall where
  cfg_cmd : CfgCmd
  timeSlot : UInt8
  result : Bool
deriving DecidableEq, Repr

/-- `radio n` is whether the `n`-th device configuration succeeds.  The timer
is represented by its period in ticks and whether it is active. -/
structure SlaveManager where
  radio : ℕ → Bool
  event : EventGroup := fun _ => false
  slave_dev : List SlaveDev := []
  timeSlot : UInt8 := 0
  running : Bool := false
  slave_dev_index : UInt16 := 0
  slave_num : UInt16 := 0
  cfg_state : CfgState := .CONGIG_START
  wait_for_data : Bool := false
  sync_sem : Bool := false
  sync_timer_active : Bool := false
  sync_timer_period : ℕ := 500
  totalConductionNum : UInt16 := 0
  mode : SysMode := CONDUCTION_TEST
  ctrl : CtrlType := DEV_DISABLE
  sync_frame : Bytes := []
  configCalls : List ConfigCall := []
  modeCalls : List ModeCmd := []

namespace SlaveManager

/-- `DeviceConfigProcessor::process`. -/
def cfgProcess (s : SlaveManager) (cfg_cmd : CfgCmd) (timeSlot : UInt8) :
    Bool × SlaveManager :=
  let result := s.radio s.configCalls.length
  (result, { s with
    totalConductionNum := cfg_cmd.totalHarnessNum
    configCalls := s.configCalls ++ [ConfigCall.mk cfg_cmd timeSlot result] })

/-- The `switch` of `config_process`. -/
def configDispatch (s : SlaveManager) (cfg_cmd : CfgCmd) :
    Bool × SlaveManager :=
  match s.cfg_state with
  | .CONGIG_START =>
      let s := { s with
        timeSlot := 0
        slave_dev_index := 0
        slave_num := cfg_cmd.slave_dev_num
        slave_dev := [] }
      s.cfgProcess cfg_cmd s.timeSlot
  | .CONFIG_PROCESSING => s.cfgProcess cfg_cmd s.timeSlot
  | .CONFIG_DONE => (true, s)

def config_process (s : SlaveManager) (cfg_cmd : CfgCmd) : SlaveManager :=
  let (ret, s) := s.configDispatch cfg_cmd
  let s := { s with
    slave_dev := s.slave_dev ++ [SlaveDev.mk cfg_cmd.id s.timeSlot]
    timeSlot := s.timeSlot + 1
    slave_dev_index := s.slave_dev_index + 1 }
  let s := { s with
    cfg_state :=
      if cfg_cmd.slave_dev_num ≤ s.slave_dev_index then .CONGIG_START
      else .CONFIG_PROCESSING }
  { s with
    event :=
      if ret then s.event.set .CONFIG_SUCCESS_EVENT
      else s.event.clear .CONFIG_SUCCESS_EVENT }

/-- `DeviceModeProcessor::process`, which returns true. -/
def modeProcess (s : SlaveManager) (mode_cmd : ModeCmd) : SlaveManager :=
  { s with
    mode := mode_cmd.mode
    modeCalls := s.modeCalls ++ [mode_cmd]
    event := s.event.set .MODE_SUCCESS_EVENT }

def SYNC_TIMER_PERIOD_REDUNDANCY_TICKS : ℕ := 100

/-- In ticks of one millisecond, narrowed to the 16 bits of the result. -/
def get_timer_period (s : SlaveManager) : UInt16 :=
  if s.mode = CONDUCTION_TEST then
    UInt16.ofNat (DeviceConfigProcessor.CONDUCTION_TEST_INTERVAL.toNat *
      s.totalConductionNum.toNat + SYNC_TIMER_PERIOD_REDUNDANCY_TICKS)
  else 1000

/-- `DeviceCtrlProcessor::process`, which returns true. -/
def ctrlProcess (s : SlaveManager) (ctrl_cmd : CtrlCmd) : SlaveManager :=
  { s with
    ctrl := ctrl_cmd.ctrl
    sync_frame := FramePacker.packMaster2Slave
      (PacketPacker.master2SlavePack .syncMsg ⟨s.mode, 0⟩ 0xFFFFFFFF)
    event := s.event.set .CTRL_SUCCESS_EVENT }

def ctrl_process (s : SlaveManager) (ctrl_cmd : CtrlCmd) : SlaveManager :=
  let s := s.ctrlProcess ctrl_cmd
  if s.ctrl = DEV_ENABLE then
    if 0 < s.slave_num then
      if s.running = false then
        { s with
          running := true
          slave_dev_index := 0
          wait_for_data := false
          sync_sem := true
          sync_timer_period := s.get_timer_period.toNat
          sync_timer_active := true }
      else s
    else s
  else
    { s with running := false, sync_timer_active := false }

/-- One command taken from `data_forward_queue`. -/
def handle (s : SlaveManager) (forward_data : DataForward) : SlaveManager :=
  let s :=
    match forward_data.type with
    | .DEV_CONF =>
        if s.running = false then s.config_process forward_data.cfg_cmd else s
    | .DEV_MODE =>
        if s.running = false then s.modeProcess forward_data.mode_cmd else s
    | .DEV_RESET => s
    | .DEV_CTRL => s.ctrl_process forward_data.ctrl_cmd
  { s with event := s.event.set .FORWARD_SUCCESS_EVENT }

/-- The manager as the forwarders see it when no wait times out: the command
is handled, and the wait clears its event. -/
def port : CommandPort SlaveManager where
  forward forward_data s :=
    let s := s.handle forward_data
    (true, { s with event := s.event.clear .FORWARD_SUCCESS_EVENT })
  event s := s.event

/-! ## What a command changes -/

/-- The state after a forwarded command, `FORWARD_SUCCESS_EVENT` cleared. -/
def forwarded (s : SlaveManager) (forward_data : DataForward) : SlaveManager :=
  (port.forward forward_data s).2

/-- A configuration command is recorded with its result, which the event then
shows. -/
theorem config_process_spec (s : SlaveManager) (cfg_cmd : CfgCmd)
    (hstate : s.cfg_state ≠ .CONFIG_DONE) :
    let result := s.radio s.configCalls.length
    (∃ timeSlot, (s.config_process cfg_cmd).configCalls =
        s.configCalls ++ [ConfigCall.mk cfg_cmd timeSlot result]) ∧
      (s.config_process cfg_cmd).event .CONFIG_SUCCESS_EVENT = result ∧
      (s.config_process cfg_cmd).running = s.running ∧
      (s.config_process cfg_cmd).cfg_state ≠ .CONFIG_DONE := by
  intro result
  have hnext : (s.config_process cfg_cmd).cfg_state ≠ .CONFIG_DONE := by
    simp only [config_process]
    split <;> exact CfgState.noConfusion
  have hevent (event : EventGroup) :
      (if result then event.set .CONFIG_SUCCESS_EVENT
        else event.clear .CONFIG_SUCCESS_EVENT) .CONFIG_SUCCESS_EVENT =
        result := by
    cases result <;> simp
  cases hcase : s.cfg_state with
  | CONGIG_START =>
      refine ⟨⟨0, ?_⟩, ?_, ?_, hnext⟩
      · simp [config_process, configDispatch, hcase, cfgProcess, result]
      · simpa [config_process, configDispatch, hcase, cfgProcess]
          using hevent s.event
      · simp [config_process, configDispatch, hcase, cfgProcess]
  | CONFIG_PROCESSING =>
      refine ⟨⟨s.timeSlot, ?_⟩, ?_, ?_, hnext⟩
      · simp [config_process, configDispatch, hcase, cfgProcess, result]
      · simpa [config_process, configDispatch, hcase, cfgProcess]
          using hevent s.event
      · simp [config_process, configDispatch, hcase, cfgProcess]
  | CONFIG_DONE => exact absurd hcase hstate

/-- Setting and clearing `FORWARD_SUCCESS_EVENT` is all a discarded command
does. -/
theorem forwarded_of_discarded (s : SlaveManager) (forward_data : DataForward)
    (htype : forward_data.type = .DEV_CONF ∨ forward_data.type = .DEV_MODE)
    (hrunning : s.running = true) :
    s.forwarded forward_data =
      { s with event :=
        (s.event.set .FORWARD_SUCCESS_EVENT).clear .FORWARD_SUCCESS_EVENT } := by
  rcases htype with htype | htype <;>
    simp [forwarded, port, handle, htype, hrunning]

theorem forwarded_conf (s : SlaveManager) (forward_data : DataForward)
    (htype : forward_data.type = .DEV_CONF) (hrunning : s.running = false) :
    s.forwarded forward_data =
      let t := s.config_process forward_data.cfg_cmd
      { t with event :=
        (t.event.set .FORWARD_SUCCESS_EVENT).clear .FORWARD_SUCCESS_EVENT } := by
  simp [forwarded, port, handle, htype, hrunning]

/-- A stopped manager configures the device. -/
theorem forwarded_conf_spec (s : SlaveManager) (forward_data : DataForward)
    (htype : forward_data.type = .DEV_CONF) (hrunning : s.running = false)
    (hstate : s.cfg_state ≠ .CONFIG_DONE) :
    ∃ call : ConfigCall, call.cfg_cmd = forward_data.cfg_cmd ∧
      (s.forwarded forward_data).configCalls = s.configCalls ++ [call] ∧
      (s.forwarded forward_data).event .CONFIG_SUCCESS_EVENT = call.result ∧
      (s.forwarded forward_data).running = false ∧
      (s.forwarded forward_data).cfg_state ≠ .CONFIG_DONE := by
  obtain ⟨⟨timeSlot, hcalls⟩, hevent, hrun, hst⟩ :=
    s.config_process_spec forward_data.cfg_cmd hstate
  rw [forwarded_conf s forward_data htype hrunning]
  refine ⟨_, rfl, hcalls, ?_, hrun.trans hrunning, hst⟩
  simpa using hevent

theorem forwarded_mode (s : SlaveManager) (forward_data : DataForward)
    (htype : forward_data.type = .DEV_MODE) (hrunning : s.running = false) :
    s.forwarded forward_data =
      let t := s.modeProcess forward_data.mode_cmd
      { t with event :=
        (t.event.set .FORWARD_SUCCESS_EVENT).clear .FORWARD_SUCCESS_EVENT } := by
  simp [forwarded, port, handle, htype, hrunning]

theorem forwarded_ctrl (s : SlaveManager) (forward_data : DataForward)
    (htype : forward_data.type = .DEV_CTRL) :
    s.forwarded forward_data =
      let t := s.ctrl_process forward_data.ctrl_cmd
      { t with event :=
        (t.event.set .FORWARD_SUCCESS_EVENT).clear .FORWARD_SUCCESS_EVENT } := by
  simp [forwarded, port, handle, htype]

theorem forwarded_reset (s : SlaveManager) (forward_data : DataForward)
    (htype : forward_data.type = .DEV_RESET) :
    s.forwarded forward_data =
      { s with event :=
        (s.event.set .FORWARD_SUCCESS_EVENT).clear .FORWARD_SUCCESS_EVENT } := by
  simp [forwarded, port, handle, htype]

/-- Success is reported whatever the command does. -/
theorem ctrl_process_spec (s : SlaveManager) (ctrl_cmd : CtrlCmd) :
    (s.ctrl_process ctrl_cmd).event = s.event.set .CTRL_SUCCESS_EVENT ∧
      (s.ctrl_process ctrl_cmd).cfg_state = s.cfg_state ∧
      (s.ctrl_process ctrl_cmd).running =
        (decide (ctrl_cmd.ctrl = DEV_ENABLE) &&
          (s.running || decide (0 < s.slave_num))) := by
  unfold ctrl_process ctrlProcess
  by_cases henable : ctrl_cmd.ctrl = DEV_ENABLE
  · by_cases hnum : 0 < s.slave_num
    · cases hrunning : s.running <;> simp [henable, hnum]
    · simp [henable, hnum]
  · simp [henable]

/-- A control command starts a stopped manager that has devices, stops the
manager, or only stores the new sync frame. -/
theorem ctrl_process_cases (s : SlaveManager) (ctrl_cmd : CtrlCmd) :
    (ctrl_cmd.ctrl = DEV_ENABLE ∧ 0 < s.slave_num ∧ s.running = false ∧
      s.ctrl_process ctrl_cmd = { s.ctrlProcess ctrl_cmd with
        running := true
        slave_dev_index := 0
        wait_for_data := false
        sync_sem := true
        sync_timer_period := s.get_timer_period.toNat
        sync_timer_active := true }) ∨
    (ctrl_cmd.ctrl = DEV_ENABLE ∧ (s.slave_num = 0 ∨ s.running = true) ∧
      s.ctrl_process ctrl_cmd = s.ctrlProcess ctrl_cmd) ∨
    (ctrl_cmd.ctrl ≠ DEV_ENABLE ∧
      s.ctrl_process ctrl_cmd = { s.ctrlProcess ctrl_cmd with
        running := false
        sync_timer_active := false }) := by
  have hctrl : (s.ctrlProcess ctrl_cmd).ctrl = ctrl_cmd.ctrl := rfl
  have hslave_num : (s.ctrlProcess ctrl_cmd).slave_num = s.slave_num := rfl
  have hrun : (s.ctrlProcess ctrl_cmd).running = s.running := rfl
  simp only [ctrl_process, hctrl, hslave_num, hrun]
  by_cases henable : ctrl_cmd.ctrl = DEV_ENABLE
  · by_cases hnum : 0 < s.slave_num
    · by_cases hrunning : s.running = false
      · left
        refine ⟨henable, hnum, hrunning, ?_⟩
        rw [if_pos henable, if_pos hnum, if_pos hrunning]
        rfl
      · right; left
        refine ⟨henable, Or.inr (eq_true_of_ne_false hrunning), ?_⟩
        rw [if_pos henable, if_pos hnum, if_neg hrunning]
    · right; left
      have hzero : s.slave_num = 0 := by
        rw [← UInt16.toNat_inj]
        rw [UInt16.lt_iff_toNat_lt] at hnum
        exact Nat.le_zero.mp (Nat.not_lt.mp hnum)
      refine ⟨henable, Or.inl hzero, ?_⟩
      rw [if_pos henable, if_neg hnum]
  · right; right
    exact ⟨henable, if_neg henable⟩

end SlaveManager

end WirelessHarness

import WirelessHarness.Master.SlaveManager
import WirelessHarness.Support.Runs

/-!
# Replies to backend commands

The status of a reply is read from a success event that a discarded command
leaves as earlier commands set it, and `ctrl_process` reports success before
it looks at the number of slaves.  A reply tells the truth exactly when
neither matters.
-/

namespace WirelessHarness

open CheckedRead Runs

namespace CommandReply

/-! ## Commands -/

/-- The commands of the backend. -/
inductive Command
  | slaveCfg (m : Backend2Master.SlaveCfgMsg)
  | modeCfg (m : Backend2Master.ModeCfgMsg)
  | rst (m : Backend2Master.RstMsg)
  | ctrl (m : Backend2Master.CtrlMsg)

def Command.id : Command → Backend2MasterMessageID
  | .slaveCfg _ => .slaveCfgMsg
  | .modeCfg _ => .modeCfgMsg
  | .rst _ => .rstMsg
  | .ctrl _ => .ctrlMsg

def Command.fields :
    (c : Command) → (MessageClass.backend2Master c.id).Fields
  | .slaveCfg m => m
  | .modeCfg m => m
  | .rst m => m
  | .ctrl m => m

/-- The command a frame carries. -/
def command? (raw_data : Bytes) : Option Command :=
  match FrameParser.decodeFrame .master 0 raw_data with
  | some ⟨.backend2Master .slaveCfgMsg, m⟩ => some (.slaveCfg m)
  | some ⟨.backend2Master .modeCfgMsg, m⟩ => some (.modeCfg m)
  | some ⟨.backend2Master .rstMsg, m⟩ => some (.rst m)
  | some ⟨.backend2Master .ctrlMsg, m⟩ => some (.ctrl m)
  | _ => none

theorem decodeFrame_of_command? {raw_data : Bytes} {c : Command}
    (h : command? raw_data = some c) :
    FrameParser.decodeFrame .master 0 raw_data =
      some ⟨.backend2Master c.id, c.fields⟩ := by
  unfold command? at h
  split at h
  case h_1 heq => cases h; exact heq
  case h_2 heq => cases h; exact heq
  case h_3 heq => cases h; exact heq
  case h_4 heq => cases h; exact heq
  case h_5 => cases h

/-! ## The system -/

/-- The command interface and the manager, with no wait timing out. -/
structure System where
  pc : ProtocolMessageForward
  manager : SlaveManager

/-- Between commands the manager's loop and the timer callback change the
variables of the test cycle. -/
inductive Event
  | command (raw_data : Bytes)
  | cycle (wait_for_data sync_sem sync_timer_active : Bool)

/-- Commands are given as the frames that carry them. -/
def step (s : System) : Event → Option System
  | .command raw_data =>
      match command? raw_data,
        s.pc.forward SlaveManager.port raw_data s.manager with
      | some _, .ok (pc, manager) => some ⟨pc, manager⟩
      | _, _ => none
  | .cycle wait_for_data sync_sem sync_timer_active =>
      some { s with manager :=
        { s.manager with wait_for_data, sync_sem, sync_timer_active } }

/-- After power-on.  Two members of the manager are not initialized. -/
def Boot (s : System) : Prop :=
  s.pc = {} ∧ s.manager =
    { radio := s.manager.radio
      slave_dev_index := s.manager.slave_dev_index
      totalConductionNum := s.manager.totalConductionNum }

/-- The status byte of a reply frame, behind the header and the message id. -/
def replyStatus (rsp_packet : Bytes) : Option UInt8 :=
  rsp_packet[8]?

/-- The manager applied the command: every listed device was configured
successfully, the mode was set, or the system is running or stopped as
requested. -/
def Applied (c : Command) (s s' : SlaveManager) : Prop :=
  match c with
  | .slaveCfg m =>
      (s'.configCalls.drop s.configCalls.length).map
          (fun call => (get_id call.cfg_cmd.id, call.result)) =
        m.slaves.map fun dev => (dev.id, true)
  | .modeCfg m =>
      s'.modeCalls = s.modeCalls ++ [⟨m.mode⟩] ∧ s'.mode = m.mode
  | .rst _ => True
  | .ctrl m => s'.running = decide (m.runningStatus = DEV_ENABLE)

/-- The reply has status 0 exactly when the command was applied.  Nothing is
said about resets. -/
def Truthful (s : System) : Event → Prop
  | .command raw_data => ∀ c s', command? raw_data = some c →
      c.id ≠ .rstMsg → step s (.command raw_data) = some s' →
        (replyStatus s'.pc.rsp_packet = some 0 ↔
          Applied c s.manager s'.manager)
  | .cycle _ _ _ => True

/-- The branch that leaves the event or reports too early is not taken with
the event set. -/
def Unaffected (c : Command) (s : SlaveManager) : Prop :=
  match c with
  | .slaveCfg m => m.slaves = [] ∨ s.running = false ∨
      s.event .CONFIG_SUCCESS_EVENT = false
  | .modeCfg _ => s.running = false ∨ s.event .MODE_SUCCESS_EVENT = false
  | .rst _ => True
  | .ctrl m => m.runningStatus ≠ DEV_ENABLE ∨ s.running = true ∨
      0 < s.slave_num

def UnaffectedAt (s : System) : Event → Prop
  | .command raw_data => ∀ c, command? raw_data = some c →
      Unaffected c s.manager
  | .cycle _ _ _ => True

instance (c : Command) (s : SlaveManager) : Decidable (Unaffected c s) :=
  match c with
  | .slaveCfg _ => inferInstanceAs (Decidable (_ ∨ _ ∨ _))
  | .modeCfg _ => inferInstanceAs (Decidable (_ ∨ _))
  | .rst _ => .isTrue trivial
  | .ctrl _ => inferInstanceAs (Decidable (_ ∨ _ ∨ _))

instance (s : System) : (e : Event) → Decidable (UnaffectedAt s e)
  | .command raw_data =>
      match h : command? raw_data with
      | none => .isTrue fun _ hc =>
          absurd (h.symm.trans hc) (Option.some_ne_none _).symm
      | some c => decidable_of_iff (Unaffected c s.manager)
          ⟨fun hc _ h' => Option.some.inj (h.symm.trans h') ▸ hc,
            fun hall => hall c h⟩
  | .cycle _ _ _ => .isTrue trivial

/-! ## Forwarding a command -/

theorem forward_of_command? {raw_data : Bytes} {c : Command}
    (h : command? raw_data = some c) (s : System) :
    s.pc.forward SlaveManager.port raw_data s.manager =
      .ok (ProtocolMessageForward.dispatch SlaveManager.port
        { s.pc with
          statics := s.pc.statics.store (.backend2Master c.id) c.fields
          rx_msg_id := c.id } s.manager) := by
  obtain ⟨⟨cls, payload⟩, hsel, hd⟩ :=
    Option.bind_eq_some_iff.mp (decodeFrame_of_command? h)
  obtain ⟨fields, hdec, heq⟩ := Option.map_eq_some_iff.mp hd
  cases heq
  exact s.pc.forward_of_decode SlaveManager.port hsel hdec s.manager

/-- The dispatch of a command's frame. -/
def dispatched (c : Command) (s : System) : System :=
  let r := ProtocolMessageForward.dispatch SlaveManager.port
    { s.pc with
      statics := s.pc.statics.store (.backend2Master c.id) c.fields
      rx_msg_id := c.id } s.manager
  ⟨r.1, r.2⟩

theorem step_command {raw_data : Bytes} {c : Command}
    (h : command? raw_data = some c) (s : System) :
    step s (.command raw_data) = some (dispatched c s) := by
  simp only [step, h, forward_of_command? h]
  rfl

/-- The status is the first byte of every reply's payload. -/
theorem replyStatus_packMaster2Backend (message_id status : UInt8)
    (rest : Bytes) :
    replyStatus (FramePacker.packMaster2Backend
      ⟨message_id, status :: rest⟩) = some status := rfl

theorem rspStatus_eq_zero_iff (is_success : Bool) :
    rspStatus is_success = 0 ↔ is_success = true := by
  cases is_success <;> decide

/-! ## Device configurations -/

section

open SlaveConfigForward

/-- The command one iteration of the loop forwards. -/
def iterationCmd (slave_num : UInt16) (l : LoopState SlaveManager)
    (dev : SlaveConfig) : DataForward :=
  { l.self.data_forward with
    cfg_cmd := nextCmd slave_num (l.index + 1) l.self.cfg_cmd dev }

theorem sys_configDevice (slave_num : UInt16) (l : LoopState SlaveManager)
    (dev : SlaveConfig) :
    (configDevice SlaveManager.port slave_num l dev).sys =
      l.sys.forwarded (iterationCmd slave_num l dev) := rfl

theorem is_success_configDevice (slave_num : UInt16)
    (l : LoopState SlaveManager) (dev : SlaveConfig) :
    (configDevice SlaveManager.port slave_num l dev).is_success =
      (l.is_success && (l.sys.forwarded (iterationCmd slave_num l dev)).event
        .CONFIG_SUCCESS_EVENT) := rfl

/-- A running manager discards every command, and the event stays as it was. -/
theorem foldl_configDevice_running (slave_num : UInt16)
    (slaves : List SlaveConfig) (l : LoopState SlaveManager)
    (htype : l.self.data_forward.type = .DEV_CONF)
    (hrunning : l.sys.running = true) :
    let l' := slaves.foldl (configDevice SlaveManager.port slave_num) l
    l'.sys.configCalls = l.sys.configCalls ∧
      l'.sys.cfg_state = l.sys.cfg_state ∧
      l'.is_success = (l.is_success &&
        (slaves.isEmpty || l.sys.event .CONFIG_SUCCESS_EVENT)) := by
  induction slaves generalizing l with
  | nil => simp
  | cons dev slaves ih =>
      have hforwarded := l.sys.forwarded_of_discarded
        (iterationCmd slave_num l dev) (Or.inl htype) hrunning
      have hsys := (sys_configDevice slave_num l dev).trans hforwarded
      have hsuccess := is_success_configDevice slave_num l dev
      rw [hforwarded] at hsuccess
      obtain ⟨hcalls, hstate, hrest⟩ :=
        ih (configDevice SlaveManager.port slave_num l dev) htype
          (by rw [hsys]; exact hrunning)
      rw [hsys] at hcalls hstate hrest
      refine ⟨hcalls, hstate, hrest.trans ?_⟩
      rw [hsuccess]
      cases l.is_success <;> cases hevent : l.sys.event .CONFIG_SUCCESS_EVENT <;>
        simp [hevent]

/-- A stopped manager configures every device, and the loop succeeds when all
of them do. -/
theorem foldl_configDevice_stopped (slave_num : UInt16)
    (slaves : List SlaveConfig) (l : LoopState SlaveManager)
    (htype : l.self.data_forward.type = .DEV_CONF)
    (hrunning : l.sys.running = false)
    (hstate : l.sys.cfg_state ≠ .CONFIG_DONE) :
    let l' := slaves.foldl (configDevice SlaveManager.port slave_num) l
    ∃ calls, l'.sys.configCalls = l.sys.configCalls ++ calls ∧
      calls.map (fun call => get_id call.cfg_cmd.id) =
        slaves.map SlaveConfig.id ∧
      l'.is_success = (l.is_success && calls.all ConfigCall.result) ∧
      l'.sys.cfg_state ≠ .CONFIG_DONE := by
  induction slaves generalizing l with
  | nil => exact ⟨[], by simp, rfl, by simp, hstate⟩
  | cons dev slaves ih =>
      obtain ⟨call, hcmd, hcalls, hevent, hrun, hst⟩ :=
        l.sys.forwarded_conf_spec (iterationCmd slave_num l dev) htype
          hrunning hstate
      have hsys := sys_configDevice slave_num l dev
      have hsuccess := is_success_configDevice slave_num l dev
      rw [hevent] at hsuccess
      obtain ⟨calls, hrest, hids, hall, hdone⟩ :=
        ih (configDevice SlaveManager.port slave_num l dev) htype
          (by rw [hsys]; exact hrun) (by rw [hsys]; exact hst)
      refine ⟨call :: calls, ?_, ?_, ?_, hdone⟩
      · rw [List.foldl_cons, hrest, hsys, hcalls, List.append_assoc,
          List.singleton_append]
      · rw [List.map_cons, List.map_cons, hids, hcmd]
        exact congrArg (· :: _) (get_id_memcpyId dev.id)
      · rw [List.foldl_cons, hall, hsuccess, List.all_cons, Bool.and_assoc]

end

/-! ## One command -/

theorem map_pair_eq_iff {calls : List ConfigCall} {slaves : List SlaveConfig}
    (hids : calls.map (fun call => get_id call.cfg_cmd.id) =
      slaves.map SlaveConfig.id) :
    calls.map (fun call => (get_id call.cfg_cmd.id, call.result)) =
        slaves.map (fun dev => (dev.id, true)) ↔
      calls.all ConfigCall.result = true := by
  induction calls generalizing slaves with
  | nil =>
      cases slaves with
      | nil => simp
      | cons dev slaves => simp at hids
  | cons call calls ih =>
      cases slaves with
      | nil => simp at hids
      | cons dev slaves =>
          simp only [List.map_cons, List.cons.injEq] at hids
          simp [hids.1, ih hids.2]

theorem truthful_slaveCfg {s : System} (m : Backend2Master.SlaveCfgMsg)
    (hstate : s.manager.cfg_state ≠ .CONFIG_DONE) :
    let r := s.pc.slave_config.forward SlaveManager.port m.slaves s.manager
    (replyStatus r.1 = some 0 ↔
        Applied (.slaveCfg m) s.manager r.2.2) ↔
      Unaffected (.slaveCfg m) s.manager := by
  intro r
  let l := SlaveConfigForward.forwardLoop SlaveManager.port
    s.pc.slave_config m.slaves s.manager
  have hstatus : replyStatus r.1 = some (rspStatus l.is_success) :=
    replyStatus_packMaster2Backend _ _ _
  have hmanager : r.2.2 = l.sys := rfl
  rw [hstatus, hmanager, Option.some.injEq, rspStatus_eq_zero_iff]
  simp only [Applied, Unaffected]
  cases hrunning : s.manager.running with
  | true =>
      obtain ⟨hcalls, -, hsuccess⟩ := foldl_configDevice_running
        (UInt16.ofNat m.slaves.length) m.slaves
        (SlaveConfigForward.startLoop s.pc.slave_config m.slaves s.manager)
        rfl hrunning
      have hl : l.is_success = (m.slaves.isEmpty ||
          s.manager.event .CONFIG_SUCCESS_EVENT) := hsuccess
      have hc : l.sys.configCalls = s.manager.configCalls := hcalls
      rw [hl, hc, List.drop_length, List.map_nil]
      cases m.slaves with
      | nil => simp
      | cons dev slaves =>
          cases s.manager.event .CONFIG_SUCCESS_EVENT <;> simp
  | false =>
      obtain ⟨calls, hcalls, hids, hsuccess, -⟩ := foldl_configDevice_stopped
        (UInt16.ofNat m.slaves.length) m.slaves
        (SlaveConfigForward.startLoop s.pc.slave_config m.slaves s.manager)
        rfl hrunning hstate
      have hl : l.is_success = calls.all ConfigCall.result := hsuccess
      have hc : l.sys.configCalls = s.manager.configCalls ++ calls := hcalls
      rw [hl, hc, List.drop_left, map_pair_eq_iff hids]
      simp

theorem truthful_modeCfg {s : System} (m : Backend2Master.ModeCfgMsg) :
    let r := s.pc.mode_config.forward SlaveManager.port m.mode s.manager
    (replyStatus r.1 = some 0 ↔
        Applied (.modeCfg m) s.manager r.2.2) ↔
      Unaffected (.modeCfg m) s.manager := by
  intro r
  let data_forward : DataForward :=
    { s.pc.mode_config.data_forward with
      type := .DEV_MODE
      mode_cmd := ⟨m.mode⟩ }
  have hstatus : replyStatus r.1 = some (rspStatus
      ((s.manager.forwarded data_forward).event .MODE_SUCCESS_EVENT)) :=
    replyStatus_packMaster2Backend _ _ _
  have hmanager : r.2.2 = s.manager.forwarded data_forward := rfl
  rw [hstatus, hmanager, Option.some.injEq, rspStatus_eq_zero_iff]
  simp only [Applied, Unaffected]
  cases hrunning : s.manager.running with
  | true =>
      rw [s.manager.forwarded_of_discarded data_forward (Or.inr rfl) hrunning]
      cases hevent : s.manager.event .MODE_SUCCESS_EVENT <;> simp [hevent]
  | false =>
      rw [s.manager.forwarded_mode data_forward rfl hrunning]
      simp [SlaveManager.modeProcess, data_forward]

theorem truthful_ctrl {s : System} (m : Backend2Master.CtrlMsg) :
    let r := s.pc.control_config.forward SlaveManager.port m.runningStatus
      s.manager
    (replyStatus r.1 = some 0 ↔
        Applied (.ctrl m) s.manager r.2.2) ↔
      Unaffected (.ctrl m) s.manager := by
  intro r
  let data_forward : DataForward :=
    { s.pc.control_config.data_forward with
      type := .DEV_CTRL
      ctrl_cmd := ⟨m.runningStatus⟩ }
  obtain ⟨hevent, -, hrunning⟩ := s.manager.ctrl_process_spec ⟨m.runningStatus⟩
  have hforwarded := s.manager.forwarded_ctrl data_forward rfl
  have hctrl : (s.manager.ctrl_process ⟨m.runningStatus⟩).event
      .CTRL_SUCCESS_EVENT = true := by
    rw [hevent]
    simp
  have hset : (s.manager.forwarded data_forward).event .CTRL_SUCCESS_EVENT =
      true := by
    rw [hforwarded]
    simpa using hctrl
  have hrun : (s.manager.forwarded data_forward).running =
      (decide (m.runningStatus = DEV_ENABLE) &&
        (s.manager.running || decide (0 < s.manager.slave_num))) := by
    rw [hforwarded]
    exact hrunning
  have hstatus : replyStatus r.1 = some (rspStatus
      ((s.manager.forwarded data_forward).event .CTRL_SUCCESS_EVENT)) :=
    replyStatus_packMaster2Backend _ _ _
  have hmanager : r.2.2 = s.manager.forwarded data_forward := rfl
  rw [hstatus, hmanager, Option.some.injEq, rspStatus_eq_zero_iff, hset]
  simp only [Applied, Unaffected, hrun]
  by_cases henable : m.runningStatus = DEV_ENABLE
  · cases s.manager.running <;> simp [henable]
  · simp [henable]

/-! ## Runs -/

theorem cfg_state_forwarded (s : SlaveManager) (forward_data : DataForward)
    (hstate : s.cfg_state ≠ .CONFIG_DONE) :
    (s.forwarded forward_data).cfg_state ≠ .CONFIG_DONE := by
  cases htype : forward_data.type with
  | DEV_CONF =>
      cases hrunning : s.running with
      | true =>
          rw [s.forwarded_of_discarded forward_data (Or.inl htype) hrunning]
          exact hstate
      | false =>
          obtain ⟨-, -, -, -, -, hst⟩ :=
            s.forwarded_conf_spec forward_data htype hrunning hstate
          exact hst
  | DEV_MODE =>
      cases hrunning : s.running with
      | true =>
          rw [s.forwarded_of_discarded forward_data (Or.inr htype) hrunning]
          exact hstate
      | false =>
          rw [s.forwarded_mode forward_data htype hrunning]
          exact hstate
  | DEV_RESET =>
      rw [s.forwarded_reset forward_data htype]
      exact hstate
  | DEV_CTRL =>
      rw [s.forwarded_ctrl forward_data htype]
      obtain ⟨-, hst, -⟩ := s.ctrl_process_spec forward_data.ctrl_cmd
      simp only [hst]
      exact hstate

theorem cfg_state_foldl_configDevice (slave_num : UInt16)
    (slaves : List SlaveConfig)
    (l : SlaveConfigForward.LoopState SlaveManager)
    (hstate : l.sys.cfg_state ≠ .CONFIG_DONE) :
    (slaves.foldl (SlaveConfigForward.configDevice SlaveManager.port slave_num)
      l).sys.cfg_state ≠ .CONFIG_DONE := by
  induction slaves generalizing l with
  | nil => exact hstate
  | cons dev slaves ih => exact ih _ (cfg_state_forwarded _ _ hstate)

theorem cfg_state_foldl_resetDevice (slaves : List SlaveResetConfig)
    (l : ResetConfigForward.LoopState SlaveManager)
    (hstate : l.sys.cfg_state ≠ .CONFIG_DONE) :
    (slaves.foldl (ResetConfigForward.resetDevice SlaveManager.port)
      l).sys.cfg_state ≠ .CONFIG_DONE := by
  induction slaves generalizing l with
  | nil => exact hstate
  | cons dev slaves ih => exact ih _ (cfg_state_forwarded _ _ hstate)

/-- A batch is never left in `CONFIG_DONE`. -/
def Inv (s : System) : Prop :=
  s.manager.cfg_state ≠ .CONFIG_DONE

theorem inv_of_boot {s : System} (h : Boot s) : Inv s := by
  rw [Inv, h.2]
  exact CfgState.noConfusion

theorem inv_step (s : System) (e : Event) (s' : System) (hs : Inv s)
    (hstep : step s e = some s') : Inv s' := by
  cases e with
  | command raw_data =>
      cases hc : command? raw_data with
      | none => simp [step, hc] at hstep
      | some c =>
          rw [step_command hc, Option.some.injEq] at hstep
          subst hstep
          cases c with
          | slaveCfg m => exact cfg_state_foldl_configDevice _ _ _ hs
          | modeCfg m => exact cfg_state_forwarded _ _ hs
          | rst m => exact cfg_state_foldl_resetDevice _ _ hs
          | ctrl m => exact cfg_state_forwarded _ _ hs
  | cycle wait_for_data sync_sem sync_timer_active =>
      cases hstep
      exact hs

/-- Each command's reply, from a state of a run. -/
theorem truthful_dispatched {s : System} (c : Command) (hs : Inv s)
    (hrst : c.id ≠ .rstMsg) :
    (replyStatus (dispatched c s).pc.rsp_packet = some 0 ↔
        Applied c s.manager (dispatched c s).manager) ↔
      Unaffected c s.manager := by
  cases c with
  | slaveCfg m => exact truthful_slaveCfg m hs
  | modeCfg m => exact truthful_modeCfg m
  | rst m => exact absurd rfl hrst
  | ctrl m => exact truthful_ctrl m

theorem truthful_iff (s : System) (e : Event) (hs : Inv s) :
    Truthful s e ↔ UnaffectedAt s e := by
  cases e with
  | cycle wait_for_data sync_sem sync_timer_active => exact Iff.rfl
  | command raw_data =>
      constructor
      · intro h c hc
        by_cases hrst : c.id = .rstMsg
        · cases c with
          | rst m => exact trivial
          | slaveCfg m | modeCfg m | ctrl m => cases hrst
        · exact (truthful_dispatched c hs hrst).mp
            (h c _ hc hrst (step_command hc s))
      · intro h c s' hc hrst hstep
        rw [step_command hc, Option.some.injEq] at hstep
        subst hstep
        exact (truthful_dispatched c hs hrst).mpr (h c hc)

/-- The replies of a run all tell the truth exactly when no command of the run
is discarded, or let through without a slave, with its success event set. -/
theorem meets_truthful_iff (s : System) (hboot : Boot s) (es : List Event) :
    Meets step Truthful s es ↔ Meets step UnaffectedAt s es :=
  meets_congr_of_invariant inv_step truthful_iff (inv_of_boot hboot) es

/-! ## A start without slaves -/

/-- All device configurations succeed. -/
def bootSystem : System :=
  ⟨{}, { radio := fun _ => true }⟩

def modeFrame : Bytes :=
  FramePacker.packBackend2Master
    (PacketPacker.backend2MasterPack .modeCfgMsg ⟨2⟩)

def configFrame : Bytes :=
  FramePacker.packBackend2Master
    (PacketPacker.backend2MasterPack .slaveCfgMsg
      ⟨2, [⟨7, 2, 0, 0, 0⟩, ⟨8, 1, 0, 0, 0⟩]⟩)

def ctrlFrame : Bytes :=
  FramePacker.packBackend2Master
    (PacketPacker.backend2MasterPack .ctrlMsg ⟨DEV_ENABLE⟩)

def stopFrame : Bytes :=
  FramePacker.packBackend2Master
    (PacketPacker.backend2MasterPack .ctrlMsg ⟨DEV_DISABLE⟩)

/-- Two devices are configured, the system is started and stopped, and the
mode is set before and after. -/
def restarted : List Event :=
  [.command modeFrame, .command configFrame, .command ctrlFrame,
    .cycle true false true, .command stopFrame, .command modeFrame]

/-- All of these replies tell the truth. -/
theorem meets_truthful_restarted :
    Meets step Truthful bootSystem restarted :=
  (meets_truthful_iff bootSystem ⟨rfl, rfl⟩ restarted).mpr
    (by decide +kernel)

/-- Nothing is configured, the start is reported with status 0, and the system
is not running. -/
theorem not_meets_truthful_start :
    ¬ Meets step Truthful bootSystem [.command ctrlFrame] := by
  rintro ⟨htruthful, -⟩
  have h := htruthful (.ctrl ⟨DEV_ENABLE⟩) _ rfl (by decide) rfl
  have happlied : false = true := h.mp rfl
  cases happlied

end CommandReply

end WirelessHarness

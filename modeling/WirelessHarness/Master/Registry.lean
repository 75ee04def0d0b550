import WirelessHarness.Master.Dispatch
import WirelessHarness.Master.TestCycle

/-!
# The device registry of the slave manager

A configuration reaches the manager one device at a time.  The first command of
a batch clears the registry, every command adds its device with the next time
slot, and the last one returns to the start state; `slave_dev_index` counts the
devices in between.  A running manager discards whole batches, since only a
control command starts or stops it.
-/

namespace WirelessHarness

open CheckedRead Runs

/-! ## One configuration command -/

namespace SlaveManager

/-- The registry entries of the devices, with their time slots. -/
def devices (slaves : List SlaveConfig) : List SlaveDev :=
  slaves.mapIdx fun k dev => ⟨memcpyId dev.id, UInt8.ofNat k⟩

/-- After the commands of the first devices of a batch of `n`. -/
structure Registers (s : SlaveManager) (slaves : List SlaveConfig) (n : ℕ) :
    Prop where
  slave_dev : s.slave_dev = devices slaves
  timeSlot : s.timeSlot = UInt8.ofNat slaves.length
  slave_dev_index : s.slave_dev_index.toNat = slaves.length
  slave_num : s.slave_num.toNat = n

/-- At the start of a batch, or in the middle of it. -/
def Configuring (s : SlaveManager) (slaves : List SlaveConfig) (n : ℕ) :
    Prop :=
  slaves = [] ∧ s.cfg_state = .CONGIG_START ∨
    s.cfg_state = .CONFIG_PROCESSING ∧ s.Registers slaves n

/-- The command configures the device as one of `n`. -/
structure Configures (n : ℕ) (forward_data : DataForward)
    (dev : SlaveConfig) : Prop where
  type : forward_data.type = .DEV_CONF
  id : forward_data.cfg_cmd.id = memcpyId dev.id
  slave_dev_num : forward_data.cfg_cmd.slave_dev_num.toNat = n

/-- What a configuration leaves alone. -/
structure SameControl (s t : SlaveManager) : Prop where
  running : t.running = s.running
  ctrl : t.ctrl = s.ctrl
  mode : t.mode = s.mode
  sync_frame : t.sync_frame = s.sync_frame
  sync_sem : t.sync_sem = s.sync_sem
  sync_timer_active : t.sync_timer_active = s.sync_timer_active

theorem sameControl_config_process (s : SlaveManager) (cfg_cmd : CfgCmd) :
    SameControl s (s.config_process cfg_cmd) := by
  cases hstate : s.cfg_state <;> constructor <;>
    simp [config_process, configDispatch, hstate, cfgProcess]

/-- A command adds its device, and the last one ends the batch. -/
theorem Configuring.config_process {s : SlaveManager}
    {slaves : List SlaveConfig} {n : ℕ} (h : s.Configuring slaves n)
    {forward_data : DataForward} {dev : SlaveConfig}
    (hdev : Configures n forward_data dev) (hlt : slaves.length < 65535) :
    (s.config_process forward_data.cfg_cmd).Registers (slaves ++ [dev]) n ∧
      (s.config_process forward_data.cfg_cmd).cfg_state =
        if n ≤ slaves.length + 1 then .CONGIG_START
        else .CONFIG_PROCESSING := by
  have hdevices : devices (slaves ++ [dev]) =
      devices slaves ++ [⟨memcpyId dev.id, UInt8.ofNat slaves.length⟩] :=
    List.mapIdx_concat
  have hslot : UInt8.ofNat (slaves ++ [dev]).length =
      UInt8.ofNat slaves.length + 1 := by
    rw [List.length_append, List.length_singleton, UInt8.ofNat_add]
    rfl
  obtain ⟨rfl, hstart⟩ | ⟨hprocessing, hregisters⟩ := h
  · have hend : forward_data.cfg_cmd.slave_dev_num ≤ 0 + 1 ↔ n ≤ 0 + 1 := by
      rw [UInt16.le_iff_toNat_le, hdev.slave_dev_num]
      rfl
    constructor
    · constructor
      · simp [SlaveManager.config_process, configDispatch, hstart, cfgProcess,
          hdev.id, devices]
      · simp [SlaveManager.config_process, configDispatch, hstart, cfgProcess]
      · simp [SlaveManager.config_process, configDispatch, hstart, cfgProcess]
      · simp [SlaveManager.config_process, configDispatch, hstart, cfgProcess,
          hdev.slave_dev_num]
    · simp only [SlaveManager.config_process, configDispatch, hstart,
        cfgProcess, hend, List.length_nil]
  · have hindex : (s.slave_dev_index + 1).toNat = slaves.length + 1 := by
      rw [UInt16.toNat_add, hregisters.slave_dev_index]
      change (slaves.length + 1) % 65536 = slaves.length + 1
      omega
    have hend : forward_data.cfg_cmd.slave_dev_num ≤ s.slave_dev_index + 1 ↔
        n ≤ slaves.length + 1 := by
      rw [UInt16.le_iff_toNat_le, hdev.slave_dev_num, hindex]
    constructor
    · constructor
      · simp [SlaveManager.config_process, configDispatch, hprocessing,
          cfgProcess, hdev.id, hdevices, hregisters.slave_dev,
          hregisters.timeSlot]
      · simp only [SlaveManager.config_process, configDispatch, hprocessing,
          cfgProcess, hregisters.timeSlot, hslot]
      · simp only [SlaveManager.config_process, configDispatch, hprocessing,
          cfgProcess, hindex, List.length_append, List.length_singleton]
      · simp only [SlaveManager.config_process, configDispatch, hprocessing,
          cfgProcess, hregisters.slave_num]
    · simp only [SlaveManager.config_process, configDispatch, hprocessing,
        cfgProcess, hend]

end SlaveManager

/-! ## Batches -/

namespace Registry

/-- The commands `SlaveConfig::forward` issues for one message. -/
structure Batch where
  self : SlaveConfigForward
  slaves : List SlaveConfig
  ne_nil : slaves ≠ []
  length_le : slaves.length ≤ 255

def Batch.dataForwards (batch : Batch) : List DataForward :=
  batch.self.dataForwards batch.slaves

theorem forall₂_cfgCmds {n : ℕ} {slave_num : UInt16}
    (hnum : slave_num.toNat = n) (data_forward : DataForward)
    (slaves : List SlaveConfig) (index : UInt16) (cfg_cmd : CfgCmd) :
    List.Forall₂ (SlaveManager.Configures n)
      ((SlaveConfigForward.cfgCmds slave_num index cfg_cmd slaves).map
        fun cfg_cmd => { data_forward with type := .DEV_CONF, cfg_cmd })
      slaves := by
  induction slaves generalizing index cfg_cmd with
  | nil => exact .nil
  | cons dev slaves ih => exact .cons ⟨rfl, rfl, hnum⟩ (ih _ _)

theorem Batch.forall₂ (batch : Batch) :
    List.Forall₂ (SlaveManager.Configures batch.slaves.length)
      batch.dataForwards batch.slaves := by
  refine forall₂_cfgCmds (UInt16.toNat_ofNat_of_lt' ?_) _ _ _ _
  have hle := batch.length_le
  simp only [UInt16.size]
  omega

theorem Batch.type_of_mem (batch : Batch) {forward_data : DataForward}
    (h : forward_data ∈ batch.dataForwards) :
    forward_data.type = .DEV_CONF := by
  obtain ⟨cfg_cmd, -, rfl⟩ := List.mem_map.mp h
  rfl

/-! ## The manager between batches -/

/-- `pending` are the commands of the present batch that have not been taken;
`registered` are the devices of the last batch that arrived while the manager
was not running. -/
structure State where
  task : TestCycle.State
  pending : List DataForward := []
  registered : List SlaveConfig := []

/-- Other commands come between batches; the timer and the test cycle go on at
any time. -/
inductive Event
  | batch (batch : Batch)
  | next
  | command (forward_data : DataForward)
  | cycle (e : TestCycle.Event)

def step (s : State) : Event → Option State
  | .batch batch =>
      if s.pending = [] then
        some { s with
          pending := batch.dataForwards
          registered :=
            if s.task.manager.running then s.registered else batch.slaves }
      else none
  | .next =>
      match s.pending with
      | [] => none
      | forward_data :: pending =>
          (TestCycle.step s.task (.command forward_data)).map fun task =>
            { s with task, pending }
  | .command forward_data =>
      if s.pending = [] ∧ forward_data.type ≠ .DEV_CONF then
        (TestCycle.step s.task (.command forward_data)).map fun task =>
          { s with task }
      else none
  | .cycle e =>
      match e with
      | .command _ => none
      | e => (TestCycle.step s.task e).map fun task => { s with task }

/-- After power-on. -/
def Boot (s : State) : Prop :=
  s = { task := s.task } ∧ TestCycle.Boot s.task

/-- The broadcast `SyncMsg` frame of a mode. -/
def syncFrame (mode : SysMode) : Bytes :=
  FramePacker.packMaster2Slave
    (PacketPacker.master2SlavePack .syncMsg ⟨mode, 0⟩ 0xFFFFFFFF)

/-- A running manager has devices, is enabled and holds the sync frame of its
mode. -/
def Controlled (m : SlaveManager) : Prop :=
  m.running = true →
    0 < m.slave_num ∧ m.ctrl = DEV_ENABLE ∧ m.sync_frame = syncFrame m.mode

/-- The registry is that of the last batch that counts. -/
structure Registered (s : State) : Prop where
  cfg_state : s.task.manager.cfg_state = .CONGIG_START
  slave_dev : s.task.manager.slave_dev = SlaveManager.devices s.registered
  timeSlots : (s.task.manager.slave_dev.map SlaveDev.timeSlot).Nodup
  slave_num : s.task.manager.slave_num.toNat = s.registered.length
  controlled : Controlled s.task.manager

/-! ## Running and stopped -/

/-- A manager that has been started has devices, and runs while it is
enabled. -/
def Started (m : SlaveManager) : Prop :=
  0 < m.slave_num ∧ (m.ctrl = DEV_ENABLE → m.running = true)

/-- Only a manager that has been started has a token, a running timer or a
round of the test cycle. -/
structure CycleInv (t : TestCycle.State) : Prop where
  inv : TestCycle.Inv t
  controlled : Controlled t.manager
  started : t.manager.sync_sem = true ∨ t.manager.sync_timer_active = true ∨
    t.phase ≠ .polling → Started t.manager
  syncs : ∀ call ∈ t.syncs, call.running = true

theorem cycleInv_boot {t : TestCycle.State} (ht : TestCycle.Boot t) :
    CycleInv t := by
  refine ⟨TestCycle.inv_boot ht, ?_, ?_, ?_⟩ <;> rw [ht]
  · rintro ⟨⟩
  · rintro (h | h | h)
    · cases h
    · cases h
    · exact absurd rfl h
  · simp

/-- A round of the test cycle starts nothing and stops nothing. -/
theorem CycleInv.cycle {t t' : TestCycle.State} {e : TestCycle.Event}
    (ht : CycleInv t) (he : ∀ forward_data, e ≠ .command forward_data)
    (h : TestCycle.step t e = some t') : CycleInv t' := by
  have hinv := ht.inv.step h
  obtain ⟨hinv₀, hcontrolled, hstarted, hsyncs⟩ := ht
  cases TestCycle.stepped_iff.mp h with
  | command forward_data hphase => exact absurd rfl (he forward_data)
  | take hphase hctrl hsync =>
      have hst := hstarted (Or.inl hsync)
      exact ⟨hinv, hcontrolled, fun _ => hst, hsyncs⟩
  | stop giver hphase hwait =>
      have hst := hstarted (Or.inr (Or.inr (by simp [hphase])))
      exact ⟨hinv, hcontrolled, fun _ => hst, hsyncs⟩
  | resume giver hphase =>
      have hst := hstarted (Or.inr (Or.inr (by simp [hphase])))
      exact ⟨hinv, hcontrolled, fun _ => hst, hsyncs⟩
  | send giver hphase hwait =>
      have hst := hstarted (Or.inr (Or.inr (by simp [hphase])))
      refine ⟨hinv, hcontrolled, fun _ => hst, ?_⟩
      intro call hcall
      rcases List.mem_append.mp hcall with hcall | hcall
      · exact hsyncs call hcall
      · rw [List.mem_singleton.mp hcall]
        exact hst.2 (hinv₀.enabled (by simp [hphase]))
  | sent hphase =>
      have hst := hstarted (Or.inr (Or.inr (by simp [hphase])))
      exact ⟨hinv, hcontrolled, fun _ => hst, hsyncs⟩
  | start hphase =>
      have hst := hstarted (Or.inr (Or.inr (by simp [hphase])))
      exact ⟨hinv, hcontrolled, fun _ => hst, hsyncs⟩
  | expire hactive =>
      have hst := hstarted (Or.inr (Or.inl hactive))
      exact ⟨hinv, hcontrolled, fun _ => hst, hsyncs⟩

/-- What is the same but for configurations. -/
structure SameRegistry (s t : SlaveManager) : Prop where
  cfg_state : t.cfg_state = s.cfg_state
  slave_dev : t.slave_dev = s.slave_dev
  timeSlot : t.timeSlot = s.timeSlot
  slave_num : t.slave_num = s.slave_num

/-- A round of the test cycle does not touch the registry. -/
theorem sameRegistry_cycle {t t' : TestCycle.State} {e : TestCycle.Event}
    (he : ∀ forward_data, e ≠ .command forward_data)
    (h : TestCycle.step t e = some t') :
    SameRegistry t.manager t'.manager ∧
      t'.manager.slave_dev_index = t.manager.slave_dev_index ∧
      t'.manager.running = t.manager.running := by
  cases TestCycle.stepped_iff.mp h with
  | command forward_data hphase => exact absurd rfl (he forward_data)
  | _ => exact ⟨⟨rfl, rfl, rfl, rfl⟩, rfl, rfl⟩

/-- A command for a running manager that it discards. -/
theorem handle_of_discarded {m : SlaveManager} {forward_data : DataForward}
    (htype : forward_data.type = .DEV_CONF) (hrunning : m.running = true) :
    m.handle forward_data =
      { m with event := m.event.set .FORWARD_SUCCESS_EVENT } := by
  simp [SlaveManager.handle, htype, hrunning]

theorem handle_of_stopped {m : SlaveManager} {forward_data : DataForward}
    (htype : forward_data.type = .DEV_CONF) (hrunning : m.running = false) :
    m.handle forward_data =
      { m.config_process forward_data.cfg_cmd with
        event := (m.config_process forward_data.cfg_cmd).event.set
          .FORWARD_SUCCESS_EVENT } := by
  simp [SlaveManager.handle, htype, hrunning]

/-- The other commands leave the registry alone, and the manager controlled. -/
theorem handle_other {m : SlaveManager} {forward_data : DataForward}
    (htype : forward_data.type ≠ .DEV_CONF) (hm : Controlled m) :
    SameRegistry m (m.handle forward_data) ∧
      Controlled (m.handle forward_data) ∧
      ((m.sync_sem = true ∨ m.sync_timer_active = true → Started m) →
        (m.handle forward_data).sync_sem = true ∨
          (m.handle forward_data).sync_timer_active = true →
            Started (m.handle forward_data)) := by
  cases hcase : forward_data.type with
  | DEV_CONF => exact absurd hcase htype
  | DEV_MODE =>
      cases hrunning : m.running with
      | false =>
          have heq : m.handle forward_data =
              { m.modeProcess forward_data.mode_cmd with
                event := (m.modeProcess forward_data.mode_cmd).event.set
                  .FORWARD_SUCCESS_EVENT } := by
            simp [SlaveManager.handle, hcase, hrunning]
          rw [heq]
          refine ⟨⟨rfl, rfl, rfl, rfl⟩, fun h => ?_, fun hst h => hst h⟩
          have hstopped : m.running = true := h
          rw [hrunning] at hstopped
          cases hstopped
      | true =>
          have heq : m.handle forward_data =
              { m with event := m.event.set .FORWARD_SUCCESS_EVENT } := by
            simp [SlaveManager.handle, hcase, hrunning]
          rw [heq]
          exact ⟨⟨rfl, rfl, rfl, rfl⟩, hm, fun hst h => hst h⟩
  | DEV_RESET =>
      have heq : m.handle forward_data =
          { m with event := m.event.set .FORWARD_SUCCESS_EVENT } := by
        simp [SlaveManager.handle, hcase]
      rw [heq]
      exact ⟨⟨rfl, rfl, rfl, rfl⟩, hm, fun hst h => hst h⟩
  | DEV_CTRL =>
      have heq : m.handle forward_data =
          { m.ctrl_process forward_data.ctrl_cmd with
            event := (m.ctrl_process forward_data.ctrl_cmd).event.set
              .FORWARD_SUCCESS_EVENT } := by
        simp [SlaveManager.handle, hcase]
      rw [heq]
      obtain ⟨henable, hnum, -, hctrl⟩ | ⟨henable, hkept, hctrl⟩ |
          ⟨hdisable, hctrl⟩ := m.ctrl_process_cases forward_data.ctrl_cmd <;>
        rw [hctrl]
      · exact ⟨⟨rfl, rfl, rfl, rfl⟩, fun _ => ⟨hnum, henable, rfl⟩,
          fun _ _ => ⟨hnum, fun _ => rfl⟩⟩
      · refine ⟨⟨rfl, rfl, rfl, rfl⟩, fun h => ⟨(hm h).1, henable, rfl⟩, ?_⟩
        intro hst h
        obtain ⟨hnum, -⟩ := hst h
        refine ⟨hnum, fun _ => ?_⟩
        obtain hzero | hrunning := hkept
        · rw [hzero] at hnum
          exact absurd hnum (by decide)
        · exact hrunning
      · refine ⟨⟨rfl, rfl, rfl, rfl⟩, by rintro ⟨⟩, ?_⟩
        rintro hst (h | h)
        · exact ⟨(hst (Or.inl h)).1, fun henable => absurd henable hdisable⟩
        · cases h

/-! ## The registry along a run -/

/-- The registry is that of `slaves`. -/
structure Holds (m : SlaveManager) (slaves : List SlaveConfig) : Prop where
  cfg_state : m.cfg_state = .CONGIG_START
  slave_dev : m.slave_dev = SlaveManager.devices slaves
  slave_num : m.slave_num.toNat = slaves.length
  length_le : slaves.length ≤ 255

theorem Holds.congr {m m' : SlaveManager} {slaves : List SlaveConfig}
    (h : Holds m slaves) (hm : SameRegistry m m') : Holds m' slaves :=
  ⟨hm.cfg_state.trans h.cfg_state, hm.slave_dev.trans h.slave_dev,
    hm.slave_num ▸ h.slave_num, h.length_le⟩

/-- The time slots are numbered and there are at most 255. -/
theorem Holds.nodup {m : SlaveManager} {slaves : List SlaveConfig}
    (h : Holds m slaves) : (m.slave_dev.map SlaveDev.timeSlot).Nodup := by
  have hle := h.length_le
  rw [h.slave_dev, List.nodup_iff_injective_get]
  rintro ⟨i, hi⟩ ⟨j, hj⟩ hij
  simp only [SlaveManager.devices, List.length_map, List.length_mapIdx]
    at hi hj
  simp only [SlaveManager.devices, List.get_eq_getElem, List.getElem_map,
    List.getElem_mapIdx] at hij
  have htoNat := congrArg UInt8.toNat hij
  rw [UInt8.toNat_ofNat', UInt8.toNat_ofNat'] at htoNat
  refine Fin.ext ?_
  simp only
  omega

/-- Between batches, or while a running manager discards one, the registry is
that of the last batch; otherwise a stopped manager is at the first commands
of it. -/
inductive Progress (s : State) : Prop
  | settled (holds : Holds s.task.manager s.registered)
      (discarded : s.pending ≠ [] → s.task.manager.running = true)
      (type : ∀ forward_data ∈ s.pending, forward_data.type = .DEV_CONF)
  | configuring (slaves rest : List SlaveConfig)
      (registered : s.registered = slaves ++ rest)
      (ne_nil : rest ≠ [])
      (length_le : s.registered.length ≤ 255)
      (stopped : s.task.manager.running = false)
      (done : s.task.manager.Configuring slaves s.registered.length)
      (pending : List.Forall₂ (SlaveManager.Configures s.registered.length)
        s.pending rest)

structure Inv (s : State) : Prop where
  cycle : CycleInv s.task
  progress : Progress s

theorem inv_boot {s : State} (hs : Boot s) : Inv s := by
  obtain ⟨hs, htask⟩ := hs
  refine ⟨cycleInv_boot htask, .settled ?_ ?_ ?_⟩ <;> rw [hs]
  · rw [htask]
    exact ⟨rfl, rfl, rfl, Nat.zero_le _⟩
  · exact fun h => absurd rfl h
  · simp

/-- A batch arrives. -/
theorem Inv.batch {s : State} (hs : Inv s) (hpending : s.pending = [])
    (batch : Batch) :
    Inv { s with
      pending := batch.dataForwards
      registered :=
        if s.task.manager.running then s.registered else batch.slaves } := by
  refine ⟨hs.cycle, ?_⟩
  cases hs.progress with
  | settled holds discarded type =>
      cases hrunning : s.task.manager.running with
      | true =>
          exact .settled holds (fun _ => hrunning) fun _ => batch.type_of_mem
      | false =>
          exact .configuring [] batch.slaves rfl batch.ne_nil batch.length_le
            hrunning (Or.inl ⟨rfl, holds.cfg_state⟩) batch.forall₂
  | configuring slaves rest registered ne_nil length_le stopped done pending =>
      rw [hpending] at pending
      cases pending
      exact absurd rfl ne_nil

/-- The next command of the batch is taken. -/
theorem Inv.next {s : State} (hs : Inv s) {forward_data : DataForward}
    {pending' : List DataForward}
    (hpending : s.pending = forward_data :: pending')
    {task : TestCycle.State}
    (h : TestCycle.step s.task (.command forward_data) = some task) :
    Inv { s with task, pending := pending' } := by
  have hinv := hs.cycle.inv.step h
  obtain ⟨-, hcontrolled, hstarted, hsyncs⟩ := hs.cycle
  cases TestCycle.stepped_iff.mp h with
  | command _ hphase =>
  cases hs.progress with
  | settled holds discarded type =>
      have hrunning := discarded (by simp [hpending])
      have htype := type forward_data (by simp [hpending])
      have heq := handle_of_discarded htype hrunning
      refine ⟨⟨hinv, ?_, ?_, hsyncs⟩, .settled ?_ ?_ ?_⟩
      · rw [heq]
        exact hcontrolled
      · rw [heq]
        exact hstarted
      · rw [heq]
        exact holds.congr ⟨rfl, rfl, rfl, rfl⟩
      · rw [heq]
        exact fun _ => hrunning
      · intro d hd
        exact type d (by simp [hpending, hd])
  | configuring slaves rest registered ne_nil length_le stopped done pending =>
      rw [hpending] at pending
      cases pending with
      | @cons _ dev _ rest' hdev hrest =>
      have hlength : s.registered.length =
          slaves.length + 1 + rest'.length := by
        rw [registered, List.length_append, List.length_cons]
        omega
      have heq := handle_of_stopped hdev.type stopped
      obtain ⟨hregisters, hstate⟩ := done.config_process hdev (by omega)
      have hsame := s.task.manager.sameControl_config_process
        forward_data.cfg_cmd
      have hnum : 0 < (s.task.manager.config_process
          forward_data.cfg_cmd).slave_num := by
        rw [UInt16.lt_iff_toNat_lt, hregisters.slave_num]
        change 0 < s.registered.length
        omega
      have hstopped := hsame.running.trans stopped
      have hregistered : s.registered = slaves ++ [dev] ++ rest' := by
        rw [registered, List.append_assoc]
        rfl
      refine ⟨⟨hinv, ?_, ?_, hsyncs⟩, ?_⟩
      · rw [heq]
        intro hrunning
        rw [hstopped] at hrunning
        cases hrunning
      · rw [heq]
        intro h
        refine ⟨hnum, fun henable => ?_⟩
        have hst : Started s.task.manager := by
          refine hstarted ?_
          obtain h | h | h := h
          · exact Or.inl (hsame.sync_sem ▸ h)
          · exact Or.inr (Or.inl (hsame.sync_timer_active ▸ h))
          · exact absurd hphase h
        exact hsame.running.trans (hst.2 (hsame.ctrl ▸ henable))
      · cases rest' with
        | nil =>
            have hall : s.registered = slaves ++ [dev] := by
              rw [hregistered, List.append_nil]
            cases hrest
            refine .settled ?_ (fun h => absurd rfl h) (by simp)
            rw [heq]
            refine ⟨?_, ?_, hregisters.slave_num, length_le⟩
            · refine hstate.trans (if_pos ?_)
              rw [hlength, List.length_nil]
            · simp only [hall]
              exact hregisters.slave_dev
        | cons dev' rest'' =>
            refine .configuring (slaves ++ [dev]) (dev' :: rest'') hregistered
              (List.cons_ne_nil _ _) length_le ?_ (Or.inr ⟨?_, ?_⟩) hrest
            · rw [heq]
              exact hstopped
            · rw [heq]
              refine hstate.trans (if_neg ?_)
              rw [hlength, List.length_cons]
              omega
            · rw [heq]
              exact ⟨hregisters.slave_dev, hregisters.timeSlot,
                hregisters.slave_dev_index, hregisters.slave_num⟩

/-- Another command is taken between batches. -/
theorem Inv.command {s : State} (hs : Inv s) (hpending : s.pending = [])
    {forward_data : DataForward} (htype : forward_data.type ≠ .DEV_CONF)
    {task : TestCycle.State}
    (h : TestCycle.step s.task (.command forward_data) = some task) :
    Inv { s with task } := by
  have hinv := hs.cycle.inv.step h
  obtain ⟨-, hcontrolled, hstarted, hsyncs⟩ := hs.cycle
  cases TestCycle.stepped_iff.mp h with
  | command _ hphase =>
  obtain ⟨hsame, hcontrolled', hstarted'⟩ := handle_other htype hcontrolled
  refine ⟨⟨hinv, hcontrolled', ?_, hsyncs⟩, ?_⟩
  · rintro (h | h | h)
    · refine hstarted' (fun h => hstarted ?_) (Or.inl h)
      exact h.imp_right Or.inl
    · refine hstarted' (fun h => hstarted ?_) (Or.inr h)
      exact h.imp_right Or.inl
    · exact absurd hphase h
  · cases hs.progress with
    | settled holds discarded type =>
        exact .settled (holds.congr hsame) (fun h => absurd hpending h) type
    | configuring slaves rest registered ne_nil length_le stopped done
        pending =>
        rw [hpending] at pending
        cases pending
        exact absurd rfl ne_nil

/-- The timer expires or the test cycle goes on. -/
theorem Inv.cycle_step {s : State} (hs : Inv s) {e : TestCycle.Event}
    (he : ∀ forward_data, e ≠ .command forward_data)
    {task : TestCycle.State} (h : TestCycle.step s.task e = some task) :
    Inv { s with task } := by
  obtain ⟨hsame, hindex, hrunning⟩ := sameRegistry_cycle he h
  refine ⟨hs.cycle.cycle he h, ?_⟩
  cases hs.progress with
  | settled holds discarded type =>
      exact .settled (holds.congr hsame)
        (fun hne => hrunning.trans (discarded hne)) type
  | configuring slaves rest registered ne_nil length_le stopped done pending =>
      refine .configuring slaves rest registered ne_nil length_le
        (hrunning.trans stopped) ?_ pending
      obtain ⟨hnil, hstart⟩ | ⟨hprocessing, hregisters⟩ := done
      · exact Or.inl ⟨hnil, hsame.cfg_state.trans hstart⟩
      · refine Or.inr ⟨hsame.cfg_state.trans hprocessing, ?_⟩
        exact ⟨hsame.slave_dev.trans hregisters.slave_dev,
          hsame.timeSlot.trans hregisters.timeSlot,
          hindex ▸ hregisters.slave_dev_index,
          hsame.slave_num ▸ hregisters.slave_num⟩

theorem Inv.step {s s' : State} {e : Event} (hs : Inv s)
    (h : Registry.step s e = some s') : Inv s' := by
  cases e with
  | batch batch =>
      obtain ⟨hpending, h⟩ := Option.ite_none_right_eq_some.mp h
      cases h
      exact hs.batch hpending batch
  | next =>
      simp only [Registry.step] at h
      split at h
      · cases h
      · next forward_data pending hpending =>
          obtain ⟨task, htask, rfl⟩ := Option.map_eq_some_iff.mp h
          exact hs.next hpending htask
  | command forward_data =>
      obtain ⟨⟨hpending, htype⟩, h⟩ := Option.ite_none_right_eq_some.mp h
      obtain ⟨task, htask, rfl⟩ := Option.map_eq_some_iff.mp h
      exact hs.command hpending htype htask
  | cycle e =>
      simp only [Registry.step] at h
      split at h
      · cases h
      · next he =>
          obtain ⟨task, htask, rfl⟩ := Option.map_eq_some_iff.mp h
          exact hs.cycle_step he htask

/-- At every batch boundary the registry is that of the last batch that counts,
and a sync frame is only ever sent while the manager is running. -/
theorem registered_of_boundary {s₀ s : State} {es : List Event}
    (hboot : Boot s₀) (hrun : run step s₀ es = some s) :
    (s.pending = [] → Registered s) ∧
      ∀ call ∈ s.task.syncs, call.running = true := by
  have hs := run_invariant (fun _ _ _ h => h.step) (inv_boot hboot) hrun
  refine ⟨fun hpending => ?_, hs.cycle.syncs⟩
  cases hs.progress with
  | settled holds discarded type =>
      exact ⟨holds.cfg_state, holds.slave_dev, holds.nodup, holds.slave_num,
        hs.cycle.controlled⟩
  | configuring slaves rest registered ne_nil length_le stopped done pending =>
      rw [hpending] at pending
      cases pending
      exact absurd rfl ne_nil

/-- A device with two lines and one with a single line. -/
def twoDevices : Batch where
  self := {}
  slaves := [⟨1, 2, 0, 0, 0⟩, ⟨2, 1, 0, 0, 0⟩]
  ne_nil := by decide
  length_le := by decide

def otherDevice : Batch where
  self := {}
  slaves := [⟨3, 4, 0, 0, 0⟩]
  ne_nil := by decide
  length_le := by decide

/-- Configure two devices, start the test and send the first sync frame; the
configuration of another device comes too late. -/
def lateBatch : List Event :=
  [.batch otherDevice, .next, .batch twoDevices, .next, .next,
    .command TestCycle.enable, .cycle .take, .cycle .send, .cycle .sent,
    .cycle .start, .batch otherDevice, .next]

theorem registered_lateBatch :
    ∃ s, run step { task := TestCycle.powerOn } lateBatch = some s ∧
      s.registered = twoDevices.slaves ∧
      Registered s ∧ ∀ call ∈ s.task.syncs, call.running = true := by
  have hboot : Boot { task := TestCycle.powerOn } := ⟨rfl, rfl⟩
  have hrun : run step { task := TestCycle.powerOn } lateBatch = some _ := rfl
  obtain ⟨hregistered, hsyncs⟩ := registered_of_boundary hboot hrun
  exact ⟨_, hrun, rfl, hregistered rfl, hsyncs⟩

end Registry

end WirelessHarness

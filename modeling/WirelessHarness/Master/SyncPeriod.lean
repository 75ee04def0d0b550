import WirelessHarness.Master.CommandReply
import WirelessHarness.Master.Partition
import WirelessHarness.Protocol.RoundTrip

/-!
# The period of the synchronization

A scan takes as many timer callbacks as the harness has lines, and the master
starts the next one when its timer expires.  The period is computed from the
total of the configuration and returned in 16 bits: it covers the scan up to
3271 lines, and the list messages allow 65025.
-/

namespace WirelessHarness

open CheckedRead SlaveManager

/-! ## Configurations the master receives -/

theorem length_deserializeRecords_le {α : Type}
    {record : Bytes → ℕ → Except OutOfRange α} {width : ℕ} {data : Bytes}
    {n offset : ℕ} {slaves : List α}
    (h : deserializeRecords record width data n offset = .ok slaves) :
    slaves.length ≤ n := by
  induction n generalizing offset slaves with
  | zero =>
      cases h
      exact le_rfl
  | succ n ih =>
      rw [deserializeRecords] at h
      split at h
      · cases h
        exact Nat.zero_le _
      · obtain ⟨slave, -, h⟩ := bind_eq_ok.mp h
        obtain ⟨rest, hrest, h⟩ := bind_eq_ok.mp h
        cases h
        exact Nat.succ_le_succ (ih hrest)

/-- The count is one byte. -/
theorem Backend2Master.SlaveCfgMsg.length_slaves_le {data : Bytes}
    {self m : SlaveCfgMsg} (hself : self.slaves.length ≤ 255)
    (h : SlaveCfgMsg.deserialize data self = .ok m) :
    m.slaves.length ≤ 255 := by
  unfold SlaveCfgMsg.deserialize at h
  split at h
  · cases h
    exact hself
  · obtain ⟨slaveNum, -, h⟩ := bind_eq_ok.mp h
    obtain ⟨slaves, hslaves, h⟩ := bind_eq_ok.mp h
    cases h
    have hnum := slaveNum.toNat_lt
    have hlen := length_deserializeRecords_le hslaves
    simp only
    omega

/-- The other classes keep their fields elsewhere. -/
theorem Statics.store_b2mSlaveCfg (st : Statics) {cls : MessageClass}
    (fields : cls.Fields) (h : cls ≠ .backend2Master .slaveCfgMsg) :
    (st.store cls fields).b2mSlaveCfg = st.b2mSlaveCfg := by
  rcases cls with id | id | id | id | id <;> cases id <;>
    first
    | rfl
    | exact absurd rfl h

namespace FrameParser

/-- The static fields after the master's parser has seen a byte vector. -/
def parseStatics (st : Statics) (raw_data : Bytes) : Statics :=
  match parse .master 0 raw_data st with
  | .ok (_, st') => st'
  | .error _ => st

/-- No frame makes the list of slaves longer than its count allows. -/
theorem length_slaves_parseStatics {st : Statics} (raw_data : Bytes)
    (hst : st.b2mSlaveCfg.slaves.length ≤ 255) :
    (parseStatics st raw_data).b2mSlaveCfg.slaves.length ≤ 255 := by
  unfold parseStatics
  split
  next msg st' hparse =>
    cases hsel : select .master 0 raw_data with
    | none =>
        rw [parse_of_select_none hsel] at hparse
        cases hparse
        exact hst
    | some sel =>
        obtain ⟨cls, payload⟩ := sel
        rw [parse_of_select hsel] at hparse
        obtain ⟨⟨msg', st''⟩, hmsg, hparse⟩ := bind_eq_ok.mp hparse
        cases hparse
        by_cases hcls : cls = .backend2Master .slaveCfgMsg
        · subst hcls
          obtain ⟨m, hm, hmsg⟩ := bind_eq_ok.mp hmsg
          cases hmsg
          exact Backend2Master.SlaveCfgMsg.length_slaves_le hst hm
        · obtain ⟨fields, -, rfl⟩ := deserializeInto_store hmsg
          rw [Statics.store_b2mSlaveCfg st fields hcls]
          exact hst
  next => exact hst

end FrameParser

/-- The slaves of the last configuration among the frames received since
power-on. -/
def receivedSlaves (frames : List Bytes) : List SlaveConfig :=
  (frames.foldl FrameParser.parseStatics {}).b2mSlaveCfg.slaves

theorem length_receivedSlaves_le (frames : List Bytes) :
    (receivedSlaves frames).length ≤ 255 := by
  have hall : ∀ st : Statics, st.b2mSlaveCfg.slaves.length ≤ 255 →
      (frames.foldl FrameParser.parseStatics st).b2mSlaveCfg.slaves.length ≤
        255 := by
    induction frames with
    | nil => exact fun st hst => hst
    | cons raw_data frames ih =>
        intro st hst
        exact ih _ (FrameParser.length_slaves_parseStatics raw_data hst)
  exact hall {} (Nat.zero_le _)

/-- The frame of a configuration. -/
def slaveCfgFrame (m : Backend2Master.SlaveCfgMsg) : Bytes :=
  FramePacker.packBackend2Master
    (PacketPacker.backend2MasterPack .slaveCfgMsg m)

/-- A configuration that counts its slaves right is received whole. -/
theorem receivedSlaves_slaveCfgFrame {m : Backend2Master.SlaveCfgMsg}
    (h : m.slaveNum.toNat = m.slaves.length) :
    receivedSlaves [slaveCfgFrame m] = m.slaves := by
  have hdec := @decode_serializePayload (.backend2Master .slaveCfgMsg) m
    (by simp) h
  have hlen :=
    @length_serializePayload_backend2Master .slaveCfgMsg m h
  have hsel := FrameParser.select_packBackend2Master 0 .slaveCfgMsg hlen
  have hparse := FrameParser.parse_of_decode hsel hdec {}
  change (FrameParser.parseStatics {} (slaveCfgFrame m)).b2mSlaveCfg.slaves = _
  unfold FrameParser.parseStatics
  rw [show FrameParser.parse .master 0 (slaveCfgFrame m) {} = _ from hparse]
  rfl

/-! ## The manager after a configuration -/

namespace SyncPeriod

open SlaveConfigForward CommandReply

/-- A stopped manager takes the total of the last command. -/
theorem forwarded_total (s : SlaveManager) (forward_data : DataForward)
    (htype : forward_data.type = .DEV_CONF) (hrunning : s.running = false)
    (hstate : s.cfg_state ≠ .CONFIG_DONE) :
    (s.forwarded forward_data).totalConductionNum =
        forward_data.cfg_cmd.totalHarnessNum ∧
      (s.forwarded forward_data).mode = s.mode := by
  rw [forwarded_conf s forward_data htype hrunning]
  cases hcase : s.cfg_state with
  | CONGIG_START =>
      simp [config_process, configDispatch, hcase, cfgProcess]
  | CONFIG_PROCESSING =>
      simp [config_process, configDispatch, hcase, cfgProcess]
  | CONFIG_DONE => exact absurd hcase hstate

/-- After the loop over the devices. -/
theorem foldl_configDevice_total (slave_num : UInt16)
    (slaves : List SlaveConfig) (l : LoopState SlaveManager)
    (htype : l.self.data_forward.type = .DEV_CONF)
    (hrunning : l.sys.running = false)
    (hstate : l.sys.cfg_state ≠ .CONFIG_DONE)
    (htotal : slaves = [] → l.sys.totalConductionNum =
      l.self.cfg_cmd.totalHarnessNum) :
    let l' := slaves.foldl (configDevice SlaveManager.port slave_num) l
    l'.sys.running = false ∧ l'.sys.mode = l.sys.mode ∧
      l'.sys.totalConductionNum = l.self.cfg_cmd.totalHarnessNum := by
  induction slaves generalizing l with
  | nil => exact ⟨hrunning, rfl, htotal rfl⟩
  | cons dev slaves ih =>
      have hsys := sys_configDevice slave_num l dev
      obtain ⟨-, -, -, -, hrun, hst⟩ := l.sys.forwarded_conf_spec
        (iterationCmd slave_num l dev) htype hrunning hstate
      obtain ⟨htot, hmode⟩ := forwarded_total l.sys
        (iterationCmd slave_num l dev) htype hrunning hstate
      rw [← hsys] at hrun hst htot hmode
      obtain ⟨hrun', hmode', htot'⟩ :=
        ih (configDevice SlaveManager.port slave_num l dev) htype hrun hst
          fun _ => htot
      exact ⟨hrun', hmode'.trans hmode, htot'⟩

/-- The manager after `SlaveConfig::forward` of a list of slaves. -/
def configured (self : SlaveConfigForward) (slaves : List SlaveConfig)
    (s : SlaveManager) : SlaveManager :=
  (forward SlaveManager.port self slaves s).2.2

theorem configured_spec (self : SlaveConfigForward)
    {slaves : List SlaveConfig} {s : SlaveManager} (hslaves : slaves ≠ [])
    (hlen : slaves.length ≤ 255) (hrunning : s.running = false)
    (hstate : s.cfg_state ≠ .CONFIG_DONE) :
    (configured self slaves s).running = false ∧
      (configured self slaves s).mode = s.mode ∧
      (configured self slaves s).totalConductionNum.toNat =
        (widths slaves).sum := by
  obtain ⟨hrun, hmode, htotal⟩ := foldl_configDevice_total
    (UInt16.ofNat slaves.length) slaves (startLoop self slaves s) rfl
    hrunning hstate fun hnil => absurd hnil hslaves
  refine ⟨hrun, hmode, ?_⟩
  have hzero : CfgCmd.zero.totalHarnessNum.toNat = 0 := rfl
  have hsum := countHarness_totalHarnessNum .zero slaves
    (by rw [hzero, Nat.zero_add]; exact sum_widths_lt hlen)
  rw [hzero, Nat.zero_add] at hsum
  rw [← hsum]
  exact congrArg UInt16.toNat htotal

/-! ## The programmed period -/

/-- What a started manager has programmed covers a scan of these slaves: the
interval for every line and the redundancy, and the timer callbacks of each
slave as it was configured by its command. -/
structure CoversScan (slaves : List SlaveConfig) (cmds : List CfgCmd)
    (s : SlaveManager) : Prop where
  active : s.sync_timer_active = true
  period_ne_zero : s.sync_timer_period ≠ 0
  scan_le : DeviceConfigProcessor.CONDUCTION_TEST_INTERVAL.toNat *
      (slaves.map fun dev => dev.conductionNum.toNat).sum +
    SYNC_TIMER_PERIOD_REDUNDANCY_TICKS ≤ s.sync_timer_period
  callbacks_le : ∀ cmd ∈ cmds, ∀ timeSlot,
    let m := DeviceConfigProcessor.condCfgMsg cmd timeSlot
    m.interval.toNat * m.totalConductionNum.toNat ≤ s.sync_timer_period

/-- A start in conduction mode programs the narrowed period. -/
theorem sync_timer_ctrl_process {s : SlaveManager} {ctrl_cmd : CtrlCmd}
    (hmode : s.mode = CONDUCTION_TEST) (hrunning : s.running = false)
    (hnum : 0 < s.slave_num) (henable : ctrl_cmd.ctrl = DEV_ENABLE) :
    (s.ctrl_process ctrl_cmd).sync_timer_active = true ∧
      (s.ctrl_process ctrl_cmd).sync_timer_period =
        (20 * s.totalConductionNum.toNat + 100) % 65536 := by
  have hperiod : s.get_timer_period =
      UInt16.ofNat (20 * s.totalConductionNum.toNat + 100) := if_pos hmode
  have hctrl : (s.ctrlProcess ctrl_cmd).ctrl = DEV_ENABLE := henable
  have hprocess : s.ctrl_process ctrl_cmd = { s.ctrlProcess ctrl_cmd with
      running := true
      slave_dev_index := 0
      wait_for_data := false
      sync_sem := true
      sync_timer_period := s.get_timer_period.toNat
      sync_timer_active := true } := by
    rw [ctrl_process, if_pos hctrl]
    exact (if_pos hnum).trans (if_pos hrunning)
  rw [hprocess, hperiod]
  exact ⟨rfl, UInt16.toNat_ofNat' ..⟩

/-- After any frames and any configuration of a stopped manager, a start in
conduction mode covers the scan exactly up to 3271 lines. -/
theorem coversScan_iff (frames : List Bytes) (self : SlaveConfigForward)
    {s : SlaveManager} {ctrl_cmd : CtrlCmd}
    (hslaves : receivedSlaves frames ≠ []) (hrunning : s.running = false)
    (hstate : s.cfg_state ≠ .CONFIG_DONE) (hmode : s.mode = CONDUCTION_TEST)
    (hnum : 0 < (configured self (receivedSlaves frames) s).slave_num)
    (henable : ctrl_cmd.ctrl = DEV_ENABLE) :
    CoversScan (receivedSlaves frames)
        (forwarded SlaveManager.port self (receivedSlaves frames) s)
        ((configured self (receivedSlaves frames) s).ctrl_process ctrl_cmd) ↔
      ((receivedSlaves frames).map fun dev =>
        dev.conductionNum.toNat).sum ≤ 3271 := by
  have hlen := length_receivedSlaves_le frames
  obtain ⟨hrun, hmode', htotal⟩ :=
    configured_spec self hslaves hlen hrunning hstate
  obtain ⟨hactive, hperiod⟩ := sync_timer_ctrl_process
    (hmode'.trans hmode) hrun hnum henable
  rw [htotal] at hperiod
  have hinterval : DeviceConfigProcessor.CONDUCTION_TEST_INTERVAL.toNat = 20 :=
    rfl
  have hsum := sum_widths_lt hlen
  constructor
  · rintro ⟨-, -, hle, -⟩
    rw [hperiod, hinterval, SYNC_TIMER_PERIOD_REDUNDANCY_TICKS] at hle
    simp only [widths] at hle hsum
    omega
  · intro hle
    constructor
    case active => exact hactive
    case period_ne_zero =>
      rw [hperiod]
      simp only [widths]
      omega
    case scan_le =>
      rw [hperiod, hinterval, SYNC_TIMER_PERIOD_REDUNDANCY_TICKS]
      simp only [widths]
      omega
    case callbacks_le =>
      intro cmd hmem timeSlot
      obtain ⟨k, hk⟩ := List.getElem?_of_mem hmem
      obtain ⟨dev, -, -, -, htot, -⟩ := getElem?_forwarded hlen hk
      simp only [DeviceConfigProcessor.condCfgMsg, hinterval, htot, hperiod,
        widths]
      omega

/-- Two slaves with 62 lines each. -/
def twoSlaves : Backend2Master.SlaveCfgMsg :=
  ⟨2, [⟨0, 62, 0, 0, 0⟩, ⟨1, 62, 0, 0, 0⟩]⟩

theorem coversScan_twoSlaves :
    CoversScan (receivedSlaves [slaveCfgFrame twoSlaves])
      (forwarded SlaveManager.port {} (receivedSlaves [slaveCfgFrame twoSlaves])
        { radio := fun _ => true })
      ((configured {} (receivedSlaves [slaveCfgFrame twoSlaves])
        { radio := fun _ => true }).ctrl_process ⟨DEV_ENABLE⟩) :=
  (coversScan_iff [slaveCfgFrame twoSlaves] {} (by decide) rfl (by decide) rfl
    (by decide) rfl).mpr (by decide)

/-- 53 slaves with 62 lines each. -/
def manySlaves : Backend2Master.SlaveCfgMsg :=
  ⟨53, (List.range 53).map fun i => ⟨UInt32.ofNat i, 62, 0, 0, 0⟩⟩

/-- The scan takes 65720 ticks and the timer gets 284. -/
theorem not_coversScan_manySlaves :
    ¬ ∀ (frames : List Bytes) (self : SlaveConfigForward) (s : SlaveManager)
      (ctrl_cmd : CtrlCmd), receivedSlaves frames ≠ [] → s.running = false →
      s.cfg_state ≠ .CONFIG_DONE → s.mode = CONDUCTION_TEST →
      0 < (configured self (receivedSlaves frames) s).slave_num →
      ctrl_cmd.ctrl = DEV_ENABLE →
      CoversScan (receivedSlaves frames)
        (forwarded SlaveManager.port self (receivedSlaves frames) s)
        ((configured self (receivedSlaves frames) s).ctrl_process
          ctrl_cmd) := by
  intro h
  have hreceived : receivedSlaves [slaveCfgFrame manySlaves] =
      manySlaves.slaves := receivedSlaves_slaveCfgFrame rfl
  have hcovers := h [slaveCfgFrame manySlaves] {} { radio := fun _ => true }
    ⟨DEV_ENABLE⟩ (by rw [hreceived]; decide) rfl (by decide) rfl
    (by rw [hreceived]; decide +kernel) rfl
  rw [hreceived] at hcovers
  have hle := hcovers.scan_le
  revert hle
  decide +kernel

end SyncPeriod

end WirelessHarness

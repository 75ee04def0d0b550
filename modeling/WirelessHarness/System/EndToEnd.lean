import WirelessHarness.Slave.Reconfigured
import WirelessHarness.System.SlaveView

/-!
# From the configuration to the upload

The slaves are configured until all of them have acknowledged, started once and
then read.  Requests and replies may be lost, late or repeated all the time.
If the slaves start within one tick of each other, what the master uploads
about a slave tells how the cable connects it.
-/

namespace WirelessHarness

open CheckedRead Harness Runs
open SlaveConfigForward (forwarded widths)

namespace Conduction

open Bench Bystander

/-! ## A configured slave is started -/

/-- The frame of a configuration. -/
def configFrame (m : Master2Slave.CondCfgMsg) (uid : UInt32) : Event :=
  .frame (FramePacker.packMaster2Slave
    (PacketPacker.master2SlavePack .condCfgMsg m uid))

/-- The start and the first callbacks of a scan. -/
def started (mode : SysMode) (ins : ℕ → GpioInput) (r : ℕ) : List Event :=
  .frame (syncFrame mode) :: (List.range r).map fun i => .callback (ins i)

/-- A slave with more pins than lines scans like one without. -/
theorem run_started {t : SlaveDevice} {extra : List Gpio} {c : Board}
    (ht : Extends extra t.board c) {conductionNum : UInt8}
    {totalConductionNum startConductionNum : UInt16}
    (hc : Ready conductionNum totalConductionNum startConductionNum c)
    (htotal : t.statics.m2sCondCfg.totalConductionNum = totalConductionNum)
    (mode : SysMode) (ins : ℕ → GpioInput) {r : ℕ}
    (hr : r ≤ totalConductionNum.toNat) :
    ∃ u, Runs.run step t (started mode ins r) = some u ∧
      Extends extra u.board (callbacks ins
        (startWithCount c.harness.totalConductionNum.toNat c) r) := by
  obtain ⟨s, hs, hboard, -⟩ := step_syncFrame t mode
  rw [htotal, ← hc.totalConductionNum_eq] at hboard
  have hscan (i : ℕ) (hi : i ≤ totalConductionNum.toNat) :
      Extends extra (callbacks ins s.board i) (callbacks ins
        (startWithCount c.harness.totalConductionNum.toNat c) i) := by
    rw [hboard]
    exact ht.callbacks hc ins hi
  refine ⟨{ s with board := callbacks ins s.board r }, ?_, hscan r hr⟩
  apply run_cons_eq_some.mpr
  refine ⟨s, hs, run_callbacks s ins r fun i hi => ?_⟩
  rw [(hscan i (by omega)).harness_eq]
  exact timerActive_callbacks ins hc (by omega) (by omega)

theorem extends_of_started {t : SlaveDevice} {extra : List Gpio} {c : Board}
    (ht : Extends extra t.board c) {conductionNum : UInt8}
    {totalConductionNum startConductionNum : UInt16}
    (hc : Ready conductionNum totalConductionNum startConductionNum c)
    (htotal : t.statics.m2sCondCfg.totalConductionNum = totalConductionNum)
    {mode : SysMode} {ins : ℕ → GpioInput} {r : ℕ}
    (hr : r ≤ totalConductionNum.toNat) {u : SlaveDevice}
    (hrun : Runs.run step t (started mode ins r) = some u) :
    Extends extra u.board (callbacks ins
      (startWithCount c.harness.totalConductionNum.toNat c) r) := by
  obtain ⟨u', hu', hextends⟩ := run_started ht hc htotal mode ins hr
  cases hu'.symm.trans hrun
  exact hextends

/-! ## The same configuration several times -/

/-- The first configuration. -/
theorem ready_receive {s : SlaveDevice} (hboot : s.Boot)
    {m : Master2Slave.CondCfgMsg} (hcond : m.conductionNum.toNat ≤ 62) :
    let c := (s.receive (.master2Slave .condCfgMsg) m).board
    Ready m.conductionNum.toUInt8 m.totalConductionNum m.startConductionNum
        c ∧
      c.harness.timerActive = false ∧
      c.harness.pins =
        (List.range m.conductionNum.toUInt8.toNat).map pinInfo := by
  obtain ⟨-, hboard, -⟩ := hboot
  have hinit : (s.receive (.master2Slave .condCfgMsg) m).board =
      init m.conductionNum.toUInt8 m.totalConductionNum m.startConductionNum
        { harness := {}, gpio := s.board.gpio } := by
    change init _ _ _ (setPeriod m.interval s.board) = _
    rw [hboard]
    exact congrArg (init _ _ _) (setPeriod_of_inactive m.interval rfl)
  obtain ⟨hharness, -⟩ := init_spec m.conductionNum.toUInt8
    m.totalConductionNum m.startConductionNum
    { harness := {}, gpio := s.board.gpio }
  rw [hinit]
  refine ⟨ready_init _ _ _ rfl rfl ?_, ?_, ?_⟩
  · rw [UInt16.toNat_toUInt8]
    omega
  · rw [hharness]
  · rw [hharness]
    rfl

/-- Each configuration after the first one only adds pins. -/
theorem run_configFrames {s : SlaveDevice} (hboot : s.Boot)
    {m : Master2Slave.CondCfgMsg} (hcond : m.conductionNum.toNat ≤ 62) (n : ℕ) :
    ∃ t extra, Runs.run step s
        (List.replicate (n + 1) (configFrame m s.uid)) = some t ∧
      t.uid = s.uid ∧ t.statics.m2sCondCfg = m ∧
      Extends extra t.board
        (s.receive (.master2Slave .condCfgMsg) m).board := by
  obtain ⟨hready, hinactive, hpins⟩ := ready_receive hboot hcond
  induction n with
  | zero =>
      refine ⟨s.receive (.master2Slave .condCfgMsg) m, [], ?_, rfl, rfl,
        hready.extends_self⟩
      apply run_cons_eq_some.mpr
      exact ⟨_, step_master2SlavePack s .condCfgMsg m (Or.inr rfl), rfl⟩
  | succ n ih =>
      obtain ⟨t, extra, hrun, huid, -, hextends⟩ := ih
      refine ⟨t.receive (.master2Slave .condCfgMsg) m, _, ?_, huid, rfl,
        hextends.configured hready hinactive ?_ m.interval⟩
      · rw [List.replicate_succ', run_append_eq_some]
        refine ⟨t, hrun, run_cons_eq_some.mpr ⟨_, ?_, rfl⟩⟩
        exact step_master2SlavePack t .condCfgMsg m (Or.inr huid.symm)
      · intro i hi
        rw [hpins]
        exact List.mem_map_of_mem (List.mem_range.mpr hi)

/-- However often a slave receives its configuration before it is started, it
drives the same pins and stores the same matrix in every row of the scan. -/
theorem scan_eq_of_reconfigured {s : SlaveDevice} (hboot : s.Boot)
    {m : Master2Slave.CondCfgMsg} (hcond : m.conductionNum.toNat ≤ 62) (n : ℕ)
    (mode : SysMode) (ins : ℕ → GpioInput) {r : ℕ}
    (hr : r ≤ m.totalConductionNum.toNat) {es fs : List Event}
    (hes : DifferBy (Foreign s.uid) es
      (List.replicate (n + 1) (configFrame m s.uid) ++ started mode ins r))
    (hfs : DifferBy (Foreign s.uid) fs
      (configFrame m s.uid :: started mode ins r)) :
    ∃ t u, Runs.run step s es = some t ∧ Runs.run step s fs = some u ∧
      t.board.harness.data = u.board.harness.data ∧
      t.board.gpio = u.board.gpio := by
  obtain ⟨hready, -⟩ := ready_receive hboot hcond
  have hrun (n : ℕ) := run_configFrames hboot hcond n
  obtain ⟨t₀, extra, ht₀, -, htotal, hextends⟩ := hrun n
  obtain ⟨u₀, extra', hu₀, -, htotal', hextends'⟩ := hrun 0
  obtain ⟨t, ht, htscan⟩ := run_started hextends hready
    (congrArg Master2Slave.CondCfgMsg.totalConductionNum htotal) mode ins hr
  obtain ⟨u, hu, huscan⟩ := run_started hextends' hready
    (congrArg Master2Slave.CondCfgMsg.totalConductionNum htotal') mode ins hr
  refine ⟨t, u, ?_, ?_, ?_, ?_⟩
  · rw [run_eq_of_foreign s hes]
    exact run_append_eq_some.mpr ⟨t₀, ht₀, ht⟩
  · rw [run_eq_of_foreign s hfs, ← List.singleton_append]
    exact run_append_eq_some.mpr ⟨u₀, hu₀, hu⟩
  · rw [htscan.harness_eq, huscan.harness_eq]
  · exact htscan.gpio_eq.trans huscan.gpio_eq.symm

/-- One line of two. -/
def firstOfTwo : Master2Slave.CondCfgMsg := ⟨0, 20, 2, 0, 1⟩

/-- The slave is configured twice, another one in between. -/
theorem scan_eq_of_reconfigured_twice :
    let fs := configFrame firstOfTwo SlaveDevice.bootDevice.uid ::
      started 0 (fun _ _ _ => true) 1
    ∃ t u, Runs.run step SlaveDevice.bootDevice
        (configFrame firstOfTwo SlaveDevice.bootDevice.uid ::
          configFrame firstOfTwo 1 :: fs) = some t ∧
      Runs.run step SlaveDevice.bootDevice fs = some u ∧
      t.board.harness.data = u.board.harness.data ∧
      t.board.gpio = u.board.gpio := by
  have hboot : SlaveDevice.bootDevice.Boot := ⟨rfl, rfl, rfl⟩
  refine scan_eq_of_reconfigured hboot (m := firstOfTwo) (r := 1) (by decide)
    1 0 (fun _ _ _ => true) (by decide) ?_ (differBy_refl _)
  apply DifferBy.keep
  apply DifferBy.left
  · exact foreign_of_select_none (by decide)
  · exact differBy_refl _

/-! ## Slaves with the same pins -/

theorem callbacks_congr {ins : ℕ → GpioInput} (ins' : ℕ → GpioInput)
    (b : Board) {n : ℕ} (h : ∀ r < n, ins r = ins' r) :
    callbacks ins b n = callbacks ins' b n := by
  induction n with
  | zero => rfl
  | succ n ih =>
      rw [callbacks, callbacks, ih fun r hr => h r (by omega),
        h n (Nat.lt_succ_self n)]

/-- What slaves with more pins than lines put on the cable. -/
theorem inputs_eq_of_extends {n : ℕ} (cable : Cable n)
    {b c : Fin n → Board} {extra : Fin n → List Gpio} {total : ℕ}
    (hc : Prepared total c) (h : ∀ k, Extends (extra k) (b k) (c k))
    {start : Fin n → ℕ} (hstart : ∀ j k, start j ≤ start k + 1)
    (j : Fin n) {r : ℕ} (hr : r < total) :
    inputs cable b (timed b start) j r =
      inputs cable c (timed c start) j r := by
  have hgpio (k : Fin n) : (Point.between (r + 1)).gpio (b k) =
      (Point.between (r + 1)).gpio (c k) := by
    have hlt : r < (c k).harness.totalConductionNum.toNat :=
      hr.trans_eq (hc.total_eq k).symm
    have hcallbacks := (h k).callbacks (hc.ready k) (fun _ _ _ => false) hlt
    have htotal : (b k).harness.totalConductionNum =
        (c k).harness.totalConductionNum := by
      rw [(h k).harness_eq]
    rw [Point.gpio, Point.gpio, htotal, min_eq_left (by omega), Point.board,
      Point.board, htotal]
    exact hcallbacks.gpio_eq
  funext g p
  simp only [inputs, timed]
  congr 1
  funext k
  rw [pointAt_sampleTick _ _ (hstart j k) (hstart k j),
    pointAt_sampleTick _ _ (hstart j k) (hstart k j), hgpio]

end Conduction

/-! ## A slave between two scans -/

/-- No scan is going on, and every configuration the slave has received is this
one. -/
structure Resting (cmd : CfgCmd) (s : SlaveDevice) : Prop where
  inactive : s.board.harness.timerActive = false
  rowIndex_eq : s.board.harness.rowIndex = 0
  pins_input : ∀ q ∈ condPinInfo, s.board.gpio.mode q = .input
  rows_eq : s.board.harness.data.rows =
    s.board.harness.totalConductionNum.toNat
  cols_eq : s.board.harness.data.cols = s.board.harness.conductionNum.toNat
  pins_eq : s.board.harness.pins = [] ∧ s.board.harness.conductionNum = 0 ∨
    condPinInfo.take cmd.cond.toNat <+: s.board.harness.pins

theorem resting_of_boot {s : SlaveDevice} (h : s.Boot)
    (hinput : ∀ q ∈ condPinInfo, s.board.gpio.mode q = .input)
    (cmd : CfgCmd) : Resting cmd s := by
  obtain ⟨-, hboard, -⟩ := h
  constructor
  case pins_input => exact hinput
  case pins_eq =>
    left
    rw [hboard]
    exact ⟨rfl, rfl⟩
  case inactive => rw [hboard]
  case rowIndex_eq => rw [hboard]
  case rows_eq =>
    rw [hboard]
    rfl
  case cols_eq =>
    rw [hboard]
    rfl

theorem Resting.of_board_eq {cmd : CfgCmd} {s t : SlaveDevice}
    (h : Resting cmd s) (hboard : t.board = s.board) : Resting cmd t := by
  constructor
  case inactive => rw [hboard, h.inactive]
  case rowIndex_eq => rw [hboard, h.rowIndex_eq]
  case pins_input => rw [hboard]; exact h.pins_input
  case rows_eq => rw [hboard, h.rows_eq]
  case cols_eq => rw [hboard, h.cols_eq]
  case pins_eq => rw [hboard]; exact h.pins_eq

theorem Resting.receive {cmd : CfgCmd} {s : SlaveDevice} (h : Resting cmd s)
    (hle : cmd.cond.toNat ≤ 62) (timeSlot : UInt8) :
    Resting cmd (s.receive (.master2Slave .condCfgMsg)
      (DeviceConfigProcessor.condCfgMsg cmd timeSlot)) := by
  obtain ⟨hharness, -, -, hmode⟩ := SlaveDevice.receive_condCfg_spec s
    (DeviceConfigProcessor.condCfgMsg cmd timeSlot)
  have hnarrow : cmd.cond.toUInt8.toNat = cmd.cond.toNat := by
    rw [UInt16.toNat_toUInt8]
    omega
  rw [show (DeviceConfigProcessor.condCfgMsg cmd timeSlot).conductionNum =
    cmd.cond from rfl, hnarrow, map_pinInfo hle] at hharness hmode
  have hperiod : setPeriod
      (DeviceConfigProcessor.condCfgMsg cmd timeSlot).interval s.board =
        s.board :=
    setPeriod_of_inactive _ h.inactive
  rw [hperiod] at hharness
  constructor
  case inactive => rw [hharness, h.inactive]
  case rowIndex_eq => rw [hharness, h.rowIndex_eq]
  case pins_input =>
    intro q hq
    rw [hmode]
    split
    · rfl
    · exact h.pins_input q hq
  case rows_eq =>
    rw [hharness]
    rfl
  case cols_eq =>
    rw [hharness]
    exact hnarrow.symm
  case pins_eq =>
    right
    rw [hharness]
    rcases h.pins_eq with ⟨hpins, -⟩ | hpins
    · rw [hpins, List.nil_append]
    · exact hpins.trans (List.prefix_append _ _)

/-- Once it is configured, its pins are those of its lines, and more. -/
theorem Resting.exists_fitted {cmd : CfgCmd} {s : SlaveDevice}
    (h : Resting cmd s) (hs : s.ConfiguredAs cmd) (hle : cmd.cond.toNat ≤ 62) :
    ∃ extra c, Conduction.Fitted cmd c ∧ Extends extra s.board c := by
  obtain ⟨hnum, htotal, hstart, -⟩ := hs
  have hnarrow : cmd.cond.toUInt8.toNat = cmd.cond.toNat := by
    rw [UInt16.toNat_toUInt8]
    omega
  have hprefix : condPinInfo.take cmd.cond.toNat <+: s.board.harness.pins := by
    rcases h.pins_eq with ⟨-, hzero⟩ | hpins
    · have hcond : cmd.cond.toNat = 0 := by
        rw [← hnarrow, ← hnum, hzero]
        rfl
      rw [hcond]
      exact List.nil_prefix
    · exact hpins
  have hlength : (condPinInfo.take cmd.cond.toNat).length =
      cmd.cond.toUInt8.toNat := by
    rw [List.length_take, length_condPinInfo]
    omega
  obtain ⟨extra, hextra⟩ := hprefix
  refine ⟨extra, { harness := { s.board.harness with
    pins := condPinInfo.take cmd.cond.toNat }, gpio := s.board.gpio }, ?_, ?_⟩
  · refine ⟨?_, rfl, h.pins_input⟩
    constructor
    case conductionNum_eq => exact hnum
    case totalConductionNum_eq => exact htotal
    case startConductionNum_eq => exact hstart
    case rowIndex_eq => exact h.rowIndex_eq
    case length_pins => exact hlength
    case nodup_pins =>
      exact nodup_condPinInfo.sublist (List.take_sublist _ _)
    case pins_input =>
      exact fun q hq => h.pins_input q (List.mem_of_mem_take hq)
    case rows_eq => exact h.rows_eq.trans (congrArg UInt16.toNat htotal)
    case cols_eq => exact h.cols_eq.trans (congrArg UInt8.toNat hnum)
    case accesses_inRange => simp
    case writes_eq => rfl
  · constructor
    case harness_eq => simp only [hextra]
    case gpio_eq => rfl
    case length_pins => exact hlength.trans (congrArg UInt8.toNat hnum).symm
    case cols_eq => exact h.cols_eq

theorem configuredAs_of_run {cmd : CfgCmd} {s t : SlaveDevice}
    (h : s.ConfiguredAs cmd) {mode : SysMode} {es : List Bystander.Event}
    (hes : ∀ e ∈ es, e = .frame (Conduction.syncFrame mode) ∨
      ∃ input, e = .callback input)
    (hrun : run Bystander.step s es = some t) : t.ConfiguredAs cmd := by
  refine run_invariant_of_meets (I := fun s => s.ConfiguredAs cmd)
    (C := fun _ e => e = .frame (Conduction.syncFrame mode) ∨
      ∃ input, e = Bystander.Event.callback input) ?_ h
    (meets_of_forall hes s) hrun
  rintro s e s' hs (rfl | ⟨input, rfl⟩) hstep
  · rw [ClosedLoop.bystander_step_frame, s.parseAndProcess_syncFrame mode]
      at hstep
    cases hstep
    exact hs.sync _
  · obtain ⟨-, heq⟩ := Option.ite_none_right_eq_some.mp hstep
    cases heq
    exact hs.callback input

/-- After a scan it is as before. -/
theorem Resting.of_scan {cmd : CfgCmd} {s t : SlaveDevice}
    (h : Resting cmd s) (hs : s.ConfiguredAs cmd) (hle : cmd.cond.toNat ≤ 62)
    {mode : SysMode} {ins : ℕ → GpioInput} {last : GpioInput}
    (hrun : run Bystander.step s
      (Conduction.started mode ins cmd.totalHarnessNum.toNat ++
        [.callback last]) = some t) :
    Resting cmd t ∧ t.ConfiguredAs cmd := by
  have hconfigured : t.ConfiguredAs cmd := by
    refine @configuredAs_of_run _ _ _ hs mode _ (fun e he => ?_) hrun
    rcases List.mem_append.mp he with he | he
    · rcases List.mem_cons.mp he with rfl | he
      · exact .inl rfl
      · obtain ⟨i, -, rfl⟩ := List.mem_map.mp he
        exact .inr ⟨_, rfl⟩
    · exact .inr ⟨_, List.mem_singleton.mp he⟩
  refine ⟨?_, hconfigured⟩
  obtain ⟨extra, c, hc, hextends⟩ := h.exists_fitted hs hle
  obtain ⟨v, hv, hlast⟩ := run_append_eq_some.mp hrun
  have hscan := Conduction.extends_of_started hextends hc.ready hs.callbacks
    le_rfl hv
  obtain ⟨t', ht', hnil⟩ := run_cons_eq_some.mp hlast
  cases hnil
  obtain ⟨hactive, heq⟩ := Option.ite_none_right_eq_some.mp ht'
  have htotal : 0 < cmd.totalHarnessNum.toNat := by
    by_contra hzero
    have hinactive := h.inactive
    rw [hextends.harness_eq] at hinactive
    rw [hscan.harness_eq, hc.ready.totalConductionNum_eq,
      Nat.eq_zero_of_not_pos hzero] at hactive
    exact absurd (hactive.symm.trans hinactive) (by decide)
  obtain ⟨hinactive, hrow, hdata, hpins, hinput⟩ :=
    ended_of_extends hc.ready hc.pins_input htotal hscan last
  obtain ⟨hrows, hcols⟩ := Conduction.rows_cols_callbacks ins
    c.harness.totalConductionNum.toNat c cmd.totalHarnessNum.toNat
  have hat := scanAt_callbacks ins hc.ready htotal le_rfl
  cases heq
  constructor
  case inactive => exact hinactive
  case rowIndex_eq => exact hrow
  case pins_input => exact hinput
  case rows_eq =>
    rw [hconfigured.totalConductionNum, hdata, hscan.harness_eq]
    exact hrows.trans hc.ready.rows_eq
  case cols_eq =>
    rw [hconfigured.conductionNum, hdata, hscan.harness_eq]
    exact hcols.trans hc.ready.cols_eq
  case pins_eq =>
    right
    rw [hpins, hscan.harness_eq]
    simp only [hat.pins_eq, hc.pins_eq]
    exact List.prefix_append _ _

/-! ## A slave after its scan -/

/-- The rows are scanned, and further callbacks do not scan any. -/
structure Settled (data : BinaryMatrix) (s : SlaveDevice) : Prop where
  data_eq : s.board.harness.data = data
  max_pos : 0 < s.board.harness.maxTriggerCount
  max_le : s.board.harness.maxTriggerCount ≤ s.board.harness.triggerCount

theorem Settled.of_board_eq {data : BinaryMatrix} {s t : SlaveDevice}
    (h : Settled data s) (hboard : t.board = s.board) : Settled data t := by
  obtain ⟨hdata, hpos, hle⟩ := h
  rw [← hboard] at hdata hpos hle
  exact ⟨hdata, hpos, hle⟩

theorem Settled.callback {data : BinaryMatrix} {s : SlaveDevice}
    (h : Settled data s) (input : GpioInput) :
    Settled data { s with board := myTimerCallback input s.board } := by
  have hcallback := @myTimerCallback_of_le input s.board h.max_pos h.max_le
  constructor
  case data_eq =>
    simp only [hcallback]
    exact h.data_eq
  case max_pos =>
    simp only [hcallback]
    exact h.max_pos
  case max_le =>
    simp only [hcallback]
    exact h.max_le.trans (Nat.le_succ _)

theorem Settled.run_callbacks {data : BinaryMatrix} {s t : SlaveDevice}
    (h : Settled data s) {es : List Bystander.Event}
    (hes : ∀ e ∈ es, ∃ input, e = .callback input)
    (hrun : run Bystander.step s es = some t) : Settled data t := by
  refine run_invariant_of_meets (C := fun _ e => ∃ input, e = .callback input)
    ?_ h (meets_of_forall hes s) hrun
  rintro s e s' hs ⟨input, rfl⟩ hstep
  obtain ⟨-, heq⟩ := Option.ite_none_right_eq_some.mp hstep
  cases heq
  exact hs.callback input

namespace ClosedLoop

variable {n : ℕ}

/-! ## What the calls do to these slaves -/

/-- A slave that this call asks is configured with this command. -/
def Configures (uid : UInt32) (cmd : CfgCmd) (call : ProcessorCall) : Prop :=
  call.Asks uid → ∀ cfg_cmd timeSlot, call = .condCfg cfg_cmd timeSlot →
    cfg_cmd = cmd

/-- The slave is not configured by this call. -/
def LeavesAlone (uid : UInt32) (call : ProcessorCall) : Prop :=
  call.Asks uid → ∃ id, call = .readCond id

instance (uid : UInt32) (cmd : CfgCmd) :
    DecidablePred (Configures uid cmd)
  | .readCond _ => .isTrue fun _ _ _ h => by cases h
  | .condCfg cfg_cmd timeSlot =>
      decidable_of_iff ((ProcessorCall.condCfg cfg_cmd timeSlot).Asks uid →
          cfg_cmd = cmd)
        ⟨fun h hasks _ _ heq => by cases heq; exact h hasks,
          fun h hasks => h hasks cfg_cmd timeSlot rfl⟩

instance (uid : UInt32) : DecidablePred (LeavesAlone uid)
  | .readCond id => .isTrue fun _ => ⟨id, rfl⟩
  | .condCfg cfg_cmd timeSlot =>
      decidable_of_iff (¬ (ProcessorCall.condCfg cfg_cmd timeSlot).Asks uid)
        ⟨fun h hasks => absurd hasks h, fun h hasks => by
          obtain ⟨_, heq⟩ := h hasks
          cases heq⟩

instance (P : ProcessorCall → Prop) [DecidablePred P] :
    (e : Event n) → Decidable (e.Calls P)
  | .begin call => inferInstanceAs (Decidable (P call))
  | .sync _ => .isFalse id
  | .add | .manager _ | .transmit _ _ | .receive _ | .process _ _ | .lose _
  | .callback _ _ => .isTrue trivial

theorem board_readCond (s : SlaveDevice) (id : UInt32) :
    (s.parseAndProcess (ProcessorCall.readCond id).frame).2.board =
      s.board := by
  by_cases hasks : (ProcessorCall.readCond id).Asks s.uid
  · obtain ⟨reply, -, hanswered⟩ := s.parseAndProcess_of_asks hasks
    generalize reply.body = body at hanswered
    cases hanswered with
    | condData hboard => exact hboard
  · rw [s.parseAndProcess_of_not_asks hasks]

theorem keeps_resting (uid : UInt32) {cmd : CfgCmd}
    (hle : cmd.cond.toNat ≤ 62) :
    Keeps uid (Configures uid cmd) (Resting cmd) where
  request := by
    rintro call hcall s rfl hs
    by_cases hasks : call.Asks s.uid
    · cases call with
      | readCond id => exact hs.of_board_eq (board_readCond s id)
      | condCfg cfg_cmd timeSlot =>
          obtain rfl := hcall hasks cfg_cmd timeSlot rfl
          have hparse := congrArg Prod.snd
            (s.parseAndProcess_master2SlavePack .condCfgMsg
              (DeviceConfigProcessor.condCfgMsg cfg_cmd timeSlot) hasks)
          exact hparse ▸ hs.receive hle timeSlot
    · rw [s.parseAndProcess_of_not_asks hasks]
      exact hs
  callback := by
    intro s input hs hactive
    rw [hs.inactive] at hactive
    cases hactive

theorem keeps_settled (uid : UInt32) (data : BinaryMatrix) :
    Keeps uid (LeavesAlone uid) (Settled data) where
  request := by
    rintro call hcall s rfl hs
    by_cases hasks : call.Asks s.uid
    · obtain ⟨id, rfl⟩ := hcall hasks
      exact hs.of_board_eq (board_readCond s id)
    · rw [s.parseAndProcess_of_not_asks hasks]
      exact hs
  callback := fun s input hs _ => hs.callback input

theorem keeps_configuredAs (uid : UInt32) (cmd : CfgCmd) :
    Keeps uid (Configures uid cmd) fun s => s.ConfiguredAs cmd where
  request := by
    rintro call hcall s rfl hs
    by_cases hasks : call.Asks s.uid
    · obtain ⟨reply, -, hanswered⟩ := s.parseAndProcess_of_asks hasks
      apply configuredAs_of_answered hanswered _ hs
      intro cfg_cmd timeSlot heq
      exact (hcall hasks cfg_cmd timeSlot heq).symm
    · rw [s.parseAndProcess_of_not_asks hasks]
      exact hs
  callback := fun s input hs _ => hs.callback input

theorem Keeps.and {uid : UInt32} {P : ProcessorCall → Prop}
    {G H : SlaveDevice → Prop} (hG : Keeps uid P G) (hH : Keeps uid P H) :
    Keeps uid P fun s => G s ∧ H s where
  request := fun call hcall s huid hs =>
    ⟨hG.request call hcall s huid hs.1, hH.request call hcall s huid hs.2⟩
  callback := fun s input hs hactive =>
    ⟨hG.callback s input hs.1 hactive, hH.callback s input hs.2 hactive⟩

theorem Keeps.of_imp {uid : UInt32} {P : ProcessorCall → Prop}
    {G : SlaveDevice → Prop} (h : Keeps uid P G) (q : Prop) :
    Keeps uid P fun s => q → G s where
  request := fun call hcall s huid hs hq =>
    h.request call hcall s huid (hs hq)
  callback := fun s input hs hactive hq => h.callback s input (hs hq) hactive

theorem Event.Calls.mono {P Q : ProcessorCall → Prop} {e : Event n}
    (h : e.Calls P) (hPQ : ∀ call, P call → Q call) : e.Calls Q := by
  cases e with
  | begin call => exact hPQ call h
  | sync mode => exact h
  | _ => trivial

/-- What is uploaded about a slave is its matrix since the scan. -/
theorem uploaded_of_settled {uids : Fin n → UInt32}
    (hids : Function.Injective uids) {j : Fin n} {P : ProcessorCall → Prop}
    {q : Prop} {data : BinaryMatrix} {s : ClosedLoop n}
    (hs : Undisturbed uids j P (fun slave => q → Settled data slave) s)
    (hcall : s.master.call = .readCond (uids j))
    (hne : uids j ≠ 0xFFFFFFFF) (hret : s.master.phase = .returned true) :
    ∃ device_status conductionData, (q → conductionData = data.flatten) ∧
      s.master.upload_frame =
        SlaveLink.uploadFrame (uids j) device_status conductionData := by
  obtain ⟨k, hk, device_status, conductionData, hmem, hframe⟩ :=
    hs.inv.uploaded (uids j) hs.rsp hcall hne hret
  obtain rfl : k = j := hids ((hs.inv.uid_eq k).symm.trans hk)
  obtain ⟨slave, hsettled, rfl⟩ := hs.reports conductionData hmem
  refine ⟨device_status, slave.report, fun hq => ?_, hframe⟩
  rw [SlaveDevice.report, (hsettled hq).data_eq]

/-! ## The whole test -/

open Bench Conduction

/-- The system after power-on, with no pin of the cable driven. -/
structure PoweredOn (s : ClosedLoop n) : Prop where
  ids : Function.Injective fun k => (s.slaves k).uid
  quiet : s.Quiet
  agreed : ∀ k, s.agreed k = none
  boot : ∀ k, (s.slaves k).Boot
  pins_input : ∀ k, ∀ q ∈ condPinInfo,
    (s.slaves k).board.gpio.mode q = .input

/-- The calls configure the slaves with these commands, if at all. -/
def AllConfigure (uids : Fin n → UInt32) (cmds : Fin n → CfgCmd) :
    Event n → Prop :=
  Event.Calls fun call => ∀ k, Configures (uids k) (cmds k) call

instance (uids : Fin n → UInt32) (cmds : Fin n → CfgCmd) :
    DecidablePred (AllConfigure uids cmds) :=
  fun e => inferInstanceAs (Decidable (e.Calls _))

/-- All slaves have acknowledged their configurations, and since then there
have been calls and scans of all slaves with `total` rows.  At the end of a
scan `reload` may index `pins` behind its end, which has no effect here. -/
inductive Tested (cmds : Fin n → CfgCmd) (total : ℕ) (s : ClosedLoop n) :
    ClosedLoop n → Prop
  | configured {t : ClosedLoop n} {call : ProcessorCall} {es : List (Event n)}
      (hcalls : ∀ e ∈ Event.begin call :: es,
        AllConfigure (fun k => (s.slaves k).uid) cmds e)
      (hC : Meets step Orderly (s.begin call) es)
      (hrun : run step (s.begin call) es = some t)
      (hall : ∀ k, t.agreed k = some (cmds k)) : Tested cmds total s t
  | called {t t' : ClosedLoop n} {call : ProcessorCall} {es : List (Event n)}
      (ht : Tested cmds total s t)
      (hcalls : ∀ e ∈ Event.begin call :: es,
        AllConfigure (fun k => (s.slaves k).uid) cmds e)
      (hC : Meets step Orderly t (.begin call :: es))
      (hrun : run step t (.begin call :: es) = some t') :
      Tested cmds total s t'
  | scanned {t t' : ClosedLoop n} {es : List (Event n)}
      (ht : Tested cmds total s t) (mode : SysMode)
      (ins : Fin n → ℕ → GpioInput) (last : Fin n → GpioInput)
      (hscan : ∀ k, DifferBy (Bystander.Foreign (s.slaves k).uid)
        (history k t es)
        (started mode (ins k) total ++ [.callback (last k)]))
      (hC : Meets step Orderly t es) (hrun : run step t es = some t') :
      Tested cmds total s t'

/-- Between the scans all slaves are configured and at rest. -/
theorem Tested.resting {cmds : Fin n → CfgCmd} {total : ℕ}
    {s t : ClosedLoop n} (h : Tested cmds total s t) (hs : s.PoweredOn)
    (hle : ∀ k, (cmds k).cond.toNat ≤ 62)
    (htotal : ∀ k, (cmds k).totalHarnessNum.toNat = total) :
    Inv (fun k => (s.slaves k).uid) t ∧ ∀ k,
      Resting (cmds k) (t.slaves k) ∧ (t.slaves k).ConfiguredAs (cmds k) := by
  induction h with
  | @configured t call es hcalls hC hrun hall =>
      have hinv := inv_of_run hs.ids hs.quiet hs.agreed call hC hrun
      refine ⟨hinv, fun k => ⟨?_, hinv.agreed k _ (hall k)⟩⟩
      obtain ⟨hcall, hcalls⟩ := List.forall_mem_cons.mp hcalls
      exact (undisturbed_of_run hs.quiet hs.ids
        (fun k cfg_cmd h => by rw [hs.agreed k] at h; cases h)
        (keeps_resting (s.slaves k).uid (hle k))
        (resting_of_boot (hs.boot k) (hs.pins_input k) _) (hcall k)
        (fun e he => (hcalls e he).mono fun call h => h k) hC hrun).slave
  | @called t t' call es ht hcalls hC hrun ih =>
      obtain ⟨hinv, hslaves⟩ := ih
      refine ⟨run_invariant_of_meets (inv_step hs.ids) hinv hC hrun,
        fun k => ?_⟩
      exact (undisturbed_of_calls hinv hs.ids
        ((keeps_resting _ (hle k)).and (keeps_configuredAs _ (cmds k)))
        (hslaves k) (fun e he => (hcalls e he).mono fun call h => h k) hC
        hrun).slave
  | @scanned t t' es ht mode ins last hscan hC hrun ih =>
      obtain ⟨hinv, hslaves⟩ := ih
      refine ⟨run_invariant_of_meets (inv_step hs.ids) hinv hC hrun,
        fun k => ?_⟩
      have hrunk := slaves_of_run k hrun
      have hscank := hscan k
      rw [← hinv.uid_eq k] at hscank
      rw [Bystander.run_eq_of_foreign (t.slaves k) hscank, ← htotal k]
        at hrunk
      exact (hslaves k).1.of_scan (hslaves k).2 (hle k) hrunk

theorem poweredOn_twoIdle : twoIdle.PoweredOn where
  ids := by decide
  quiet := by decide
  agreed := fun _ => rfl
  boot := fun _ => ⟨rfl, rfl, rfl⟩
  pins_input := fun _ _ _ => rfl

/-- Both slaves hear the start. -/
def starts : List (Event (forwarded echoPort {} twoSlaves ()).length) :=
  .sync 0 :: sends (Conduction.syncFrame 0) (List.finRange _) ++
    [.process 0 [], .process 0 []]

/-- A test in which all pins are connected. -/
def scansHigh : List (Event (forwarded echoPort {} twoSlaves ()).length) :=
  starts ++ (List.range 4).flatMap fun _ =>
    (List.finRange _).map fun k => .callback k fun _ _ => true

def onceScanned : ClosedLoop (forwarded echoPort {} twoSlaves ()).length :=
  (run step bothAgreed scansHigh).get (by decide +kernel)

theorem tested_onceScanned :
    Tested (forwarded echoPort {} twoSlaves ()).get (widths twoSlaves).sum
      twoIdle onceScanned := by
  have hconfigured : Tested (forwarded echoPort {} twoSlaves ()).get
      (widths twoSlaves).sum twoIdle bothAgreed :=
    @Tested.configured _ _ _ _ bothAgreed (configures firstDevice)
      bothConfigured (by decide +kernel) (by decide +kernel)
      (Option.some_get _).symm (by decide +kernel)
  refine @Tested.scanned _ _ _ _ _ onceScanned scansHigh hconfigured 0
    (fun _ _ _ _ => true) (fun _ _ _ => true) (fun k => ?_)
    (by decide +kernel) (Option.some_get _).symm
  rcases k with ⟨_ | _ | k, hk⟩
  · exact differBy_refl _
  · exact differBy_refl _
  · exact absurd hk (Nat.not_lt.mpr (Nat.le_add_left 2 k))

/-- Between the scans the pins of every slave are those of its command, and
more. -/
theorem Tested.exists_fitted {σ : Type} {port : CommandPort σ}
    {self : SlaveConfigForward} {slaves : List SlaveConfig} {sys : σ}
    (hlen : slaves.length ≤ 255)
    (hcond : ∀ dev ∈ slaves, dev.conductionNum.toNat ≤ 62)
    {s t : ClosedLoop (forwarded port self slaves sys).length}
    (ht : Tested (forwarded port self slaves sys).get (widths slaves).sum s t)
    (hs : s.PoweredOn) :
    Inv (fun k => (s.slaves k).uid) t ∧
      (∀ k, (t.slaves k).ConfiguredAs
        ((forwarded port self slaves sys).get k)) ∧
      ∃ (extra : Fin (forwarded port self slaves sys).length → List Gpio)
        (c : Fin (forwarded port self slaves sys).length → Board),
        (∀ k, Fitted ((forwarded port self slaves sys).get k) (c k)) ∧
          ∀ k, Extends (extra k) (t.slaves k).board (c k) := by
  have hnumbers (k : Fin (forwarded port self slaves sys).length) :=
    numbers_forwarded port self sys hlen hcond k
  obtain ⟨hinv, hslaves⟩ :=
    ht.resting hs (fun k => (hnumbers k).1) fun k => (hnumbers k).2.2
  have hfitted (k : Fin (forwarded port self slaves sys).length) :=
    (hslaves k).1.exists_fitted (hslaves k).2 (hnumbers k).1
  choose extra c hc hextends using hfitted
  exact ⟨hinv, fun k => (hslaves k).2, extra, c, hc, hextends⟩

/-- Both slaves scan two rows of a second test. -/
def scansAgain : List (Event (forwarded echoPort {} twoSlaves ()).length) :=
  starts ++ (List.range 2).flatMap fun _ =>
    (List.finRange _).map fun k => .callback k fun _ _ => true

section

variable {σ : Type} {port : CommandPort σ} {self : SlaveConfigForward}
  {slaves : List SlaveConfig} {sys : σ} (hlen : slaves.length ≤ 255)
  (hcond : ∀ dev ∈ slaves, dev.conductionNum.toNat ≤ 62)

include hlen hcond

/-- The matrix of a slave that has scanned all rows. -/
theorem settled_of_scan
    {c : Fin (forwarded port self slaves sys).length → Board}
    (hc : ∀ k, Fitted ((forwarded port self slaves sys).get k) (c k))
    {t : Fin (forwarded port self slaves sys).length → SlaveDevice}
    {extra : Fin (forwarded port self slaves sys).length → List Gpio}
    (ht : ∀ k, Extends (extra k) (t k).board (c k))
    (cable : Cable (forwarded port self slaves sys).length)
    {start : Fin (forwarded port self slaves sys).length → ℕ}
    (hstart : ∀ j k, start j ≤ start k + 1) (mode : SysMode)
    {j : Fin (forwarded port self slaves sys).length}
    (htotal : (t j).statics.m2sCondCfg.totalConductionNum =
      ((forwarded port self slaves sys).get j).totalHarnessNum)
    {es ends : List Bystander.Event}
    (hends : ∀ e ∈ ends, ∃ input, e = .callback input)
    (hes : DifferBy (Bystander.Foreign (t j).uid) es
      (started mode (inputs cable (fun k => (t k).board)
        (timed (fun k => (t k).board) start) j) (widths slaves).sum ++ ends))
    {u : SlaveDevice} (hrun : run Bystander.step (t j) es = some u)
    (hpos : 0 < (widths slaves).sum) :
    Settled (scanned cable c (timed c start) (widths slaves).sum
      j).harness.data u := by
  have hprepared := prepared_of_fitted hlen hcond hc
  obtain ⟨-, -, hsum⟩ := numbers_forwarded port self sys hlen hcond j
  rw [Bystander.run_eq_of_foreign (t j) hes, run_append_eq_some] at hrun
  obtain ⟨v, hv, hu⟩ := hrun
  have hready := (hc j).ready
  have hextends := extends_of_started (ht j) hready htotal hsum.ge hv
  rw [callbacks_congr (inputs cable c (timed c start) j) _ fun r hr =>
    inputs_eq_of_extends cable hprepared ht hstart j hr] at hextends
  have hscan := scanAt_callbacks (inputs cable c (timed c start) j) hready
    (hpos.trans_eq hsum.symm) hsum.ge
  have hsettled : Settled (scanned cable c (timed c start)
      (widths slaves).sum j).harness.data v := by
    constructor
    case data_eq =>
      rw [hextends.harness_eq]
      rfl
    case max_pos =>
      rw [hextends.harness_eq]
      rw [hscan.maxTriggerCount_eq, hprepared.total_eq j]
      exact hpos
    case max_le =>
      rw [hextends.harness_eq]
      rw [hscan.maxTriggerCount_eq, hscan.triggerCount_eq,
        hprepared.total_eq j]
  exact hsettled.run_callbacks hends hu

end

/-- What the second slave reads if it starts one tick after the first. -/
def secondInputs : ℕ → GpioInput :=
  inputs firstLines (fun k => (onceScanned.slaves k).board)
    (timed (fun k => (onceScanned.slaves k).board) fun k => (k : ℕ))
    secondDevice

def secondScans : List (Event (forwarded echoPort {} twoSlaves ()).length) :=
  starts ++ (List.range 3).map fun r => .callback secondDevice (secondInputs r)

theorem history_secondScans :
    history secondDevice onceScanned secondScans =
      started 0 secondInputs 3 := by
  rfl

def secondReads : List (Event (forwarded echoPort {} twoSlaves ()).length) :=
  answered (ProcessorCall.readCond 2).frame

def secondShown :
    ClosedLoop (forwarded echoPort {} twoSlaves ()).length :=
  (run step onceScanned
    (secondScans ++ .begin (.readCond 2) :: secondReads)).get
    (by decide +kernel)

end ClosedLoop

end WirelessHarness

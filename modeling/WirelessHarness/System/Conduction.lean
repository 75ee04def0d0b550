import WirelessHarness.Master.ConfigHandshake
import WirelessHarness.Master.Partition
import WirelessHarness.Slave.BitPacking
import WirelessHarness.Slave.Bystander
import WirelessHarness.Slave.ReportSize
import WirelessHarness.System.Bench

/-!
# A conduction test from the configuration to the reports

The master configures the slaves of a configuration one after the other and
starts them with a broadcast `SyncMsg`; every slave hears every frame.  What
the slaves then report about the cable is right exactly if they are aligned,
and slaves that start within one tick of each other are.
-/

namespace WirelessHarness

open Harness Runs SlaveDevice
open SlaveConfigForward (forwarded widths)

namespace SlaveDevice

/-- A request for this slave or for all slaves is received with the fields it
was packed from. -/
theorem parseAndProcess_master2SlavePack (s : SlaveDevice)
    (id : Master2SlaveMessageID)
    (msg : (MessageClass.master2Slave id).Fields) {destination_id : UInt32}
    (hdest : destination_id = 0xFFFFFFFF ∨ destination_id = s.uid) :
    s.parseAndProcess (FramePacker.packMaster2Slave
        (PacketPacker.master2SlavePack id msg destination_id)) =
      (.ok (some ⟨.master2Slave id, msg⟩),
        s.receive (.master2Slave id) msg) := by
  have hlen := FrameParser.length_serializePayload_master2Slave id msg
  have hdec := FrameParser.decodeFrame_master2SlavePack id msg hdest
    (by omega) (decode_serializePayload MessageClass.noConfusion trivial)
  exact s.parseAndProcess_of_decode hdec

/-- A frame that is not selected changes nothing. -/
theorem parseAndProcess_of_select_none {s : SlaveDevice} {raw_data : Bytes}
    (h : FrameParser.select .slave s.uid raw_data = none) :
    (s.parseAndProcess raw_data).2 = s := by
  rw [parseAndProcess, FrameParser.parse_of_select_none h]

/-- A packet for other slaves changes nothing. -/
theorem parseAndProcess_of_other (s : SlaveDevice)
    (id : Master2SlaveMessageID) (msg : (MessageClass.master2Slave id).Fields)
    {destination_id : UInt32}
    (h : ¬ (destination_id = 0xFFFFFFFF ∨ destination_id = s.uid)) :
    (s.parseAndProcess (FramePacker.packMaster2Slave
      (PacketPacker.master2SlavePack id msg destination_id))).2 = s := by
  have hlen := FrameParser.length_serializePayload_master2Slave id msg
  have hsel := FrameParser.select_packMaster2Slave s.uid destination_id id
    (serializePayload (.master2Slave id) msg) (by omega)
  rw [if_neg h] at hsel
  exact parseAndProcess_of_select_none hsel

end SlaveDevice

namespace Conduction

open Bench Bystander

/-! ## What the master sends -/

/-- `sync_frame` of `DeviceCtrlProcessor`, in some mode. -/
def syncFrame (mode : SysMode) : Bytes :=
  FramePacker.packMaster2Slave
    (PacketPacker.master2SlavePack .syncMsg ⟨mode, 0⟩ 0xFFFFFFFF)

/-- The configuration of all slaves, in order. -/
def cfgFrames (cmds : List CfgCmd) (timeSlots : Fin cmds.length → UInt8) :
    List Event :=
  List.ofFn fun k =>
    .frame (DeviceConfigProcessor.cond_frame (cmds.get k) (timeSlots k))

/-- What a slave lives through up to the end of its last row: the
configuration, the start, and a timer callback for every row. -/
def conduction (cmds : List CfgCmd) (timeSlots : Fin cmds.length → UInt8)
    (mode : SysMode) (ins : ℕ → GpioInput) (total : ℕ) : List Event :=
  cfgFrames cmds timeSlots ++ .frame (syncFrame mode) ::
    (List.range total).map fun r => .callback (ins r)

/-! ## One slave -/

/-- A request is received in one step. -/
theorem step_master2SlavePack (s : SlaveDevice) (id : Master2SlaveMessageID)
    (msg : (MessageClass.master2Slave id).Fields) {destination_id : UInt32}
    (hdest : destination_id = 0xFFFFFFFF ∨ destination_id = s.uid) :
    step s (.frame (FramePacker.packMaster2Slave
        (PacketPacker.master2SlavePack id msg destination_id))) =
      some (s.receive (.master2Slave id) msg) := by
  rw [step_frame s, s.parseAndProcess_master2SlavePack id msg hdest]
  apply List.ne_nil_of_length_pos
  rw [FramePacker.packMaster2Slave, length_packData, FrameHeader.HEADER_SIZE]
  omega

/-- The configuration of another slave. -/
theorem foreign_cond_frame {uid : UInt32} {cfg_cmd : CfgCmd} (timeSlot : UInt8)
    (hall : get_id cfg_cmd.id ≠ 0xFFFFFFFF) (hne : get_id cfg_cmd.id ≠ uid) :
    Foreign uid
      (.frame (DeviceConfigProcessor.cond_frame cfg_cmd timeSlot)) := by
  apply foreign_of_select_none
  have hlen := FrameParser.length_serializePayload_master2Slave .condCfgMsg
    (DeviceConfigProcessor.condCfgMsg cfg_cmd timeSlot)
  have hsel := FrameParser.select_packMaster2Slave uid (get_id cfg_cmd.id)
    .condCfgMsg
    (serializePayload (.master2Slave .condCfgMsg)
      (DeviceConfigProcessor.condCfgMsg cfg_cmd timeSlot)) (by omega)
  rw [if_neg (not_or_intro hall hne)] at hsel
  exact hsel

/-- Of the configurations a slave notices its own. -/
theorem run_cfgFrames {cmds : List CfgCmd} (timeSlots : Fin cmds.length → UInt8)
    (hall : ∀ cmd ∈ cmds, get_id cmd.id ≠ 0xFFFFFFFF)
    (hids : (cmds.map fun cmd => get_id cmd.id).Nodup) {s : SlaveDevice}
    {k : Fin cmds.length} (huid : s.uid = get_id (cmds.get k).id)
    (es : List Event) :
    run step s (cfgFrames cmds timeSlots ++ es) =
      run step (s.configured (cmds.get k) (timeSlots k)) es := by
  have hforeign (j : Fin cmds.length) (hj : j ≠ k) : Foreign s.uid
      (.frame
        (DeviceConfigProcessor.cond_frame (cmds.get j) (timeSlots j))) := by
    apply foreign_cond_frame _ (hall _ (List.get_mem cmds j))
    intro heq
    apply hj
    rw [huid] at heq
    have hget := (List.nodup_iff_injective_get.mp hids).eq_iff
      (a := j.cast (by simp)) (b := k.cast (by simp))
    simpa [Fin.ext_iff] using hget.mp (by simpa using heq)
  have hget (j : Fin cmds.length) :
      (cfgFrames cmds timeSlots)[j]? = some
        (.frame
          (DeviceConfigProcessor.cond_frame (cmds.get j) (timeSlots j))) := by
    simp [cfgFrames]
  have hlen : (cfgFrames cmds timeSlots).length = cmds.length := by
    simp [cfgFrames]
  have hat (i : ℕ) (hne : i ≠ k) {x : Event}
      (hx : (cfgFrames cmds timeSlots)[i]? = some x) : Foreign s.uid x := by
    have hi := (List.getElem?_eq_some_iff.mp hx).1
    rw [hlen] at hi
    cases hx.symm.trans (hget ⟨i, hi⟩)
    exact hforeign ⟨i, hi⟩ (Fin.ne_of_val_ne hne)
  have hk : (k : ℕ) < (cfgFrames cmds timeSlots).length := by
    rw [hlen]
    exact k.isLt
  have hown : (cfgFrames cmds timeSlots)[(k : ℕ)] =
      .frame (DeviceConfigProcessor.cond_frame (cmds.get k) (timeSlots k)) :=
    Option.some.inj ((List.getElem?_eq_getElem hk).symm.trans (hget k))
  have hdiffer : DifferBy (Foreign s.uid) (cfgFrames cmds timeSlots ++ es)
      (.frame (DeviceConfigProcessor.cond_frame (cmds.get k) (timeSlots k)) ::
        es) := by
    rw [← List.take_append_drop k (cfgFrames cmds timeSlots),
      ← List.getElem_cons_drop hk, hown, List.append_assoc, List.cons_append]
    apply differBy_append_cons
    · intro x hx
      obtain ⟨i, hi, rfl⟩ := List.mem_take_iff_getElem.mp hx
      exact hat i (by omega) (List.getElem?_eq_getElem _)
    · intro x hx
      obtain ⟨i, hi, rfl⟩ := List.mem_drop_iff_getElem.mp hx
      exact hat _ (by omega) (List.getElem?_eq_getElem _)
  have hstep := step_master2SlavePack s .condCfgMsg
    (DeviceConfigProcessor.condCfgMsg (cmds.get k) (timeSlots k))
    (Or.inr huid.symm)
  rw [run_eq_of_foreign s hdiffer, s.configured_eq _ huid]
  exact congrArg (fun r => r.bind fun s' => Runs.run step s' es) hstep

/-- The broadcast `SyncMsg` starts the timer of a slave. -/
theorem step_syncFrame (s : SlaveDevice) (mode : SysMode) :
    ∃ s', step s (.frame (syncFrame mode)) = some s' ∧
      s'.board = startWithCount
        s.statics.m2sCondCfg.totalConductionNum.toNat s.board ∧
      s'.uid = s.uid ∧ s'.sent = s.sent ∧ s'.residue = s.residue := by
  exact ⟨_, step_master2SlavePack s .syncMsg _ (Or.inl rfl),
    board_receive_sync s _, rfl, rfl, rfl⟩

/-- Callbacks of an active timer. -/
theorem run_callbacks (s : SlaveDevice) (ins : ℕ → GpioInput) (n : ℕ)
    (hactive : ∀ r < n,
      (callbacks ins s.board r).harness.timerActive = true) :
    Runs.run step s ((List.range n).map fun r => .callback (ins r)) =
      some { s with board := callbacks ins s.board n } := by
  induction n with
  | zero => rfl
  | succ n ih =>
      rw [List.range_succ, List.map_append, run_append,
        ih fun r hr => hactive r (Nat.lt_succ_of_lt hr)]
      simp [Runs.run, step, hactive n (Nat.lt_succ_self n), callbacks]

/-- The timer of a scan is active until the callback after the last row. -/
theorem timerActive_callbacks (ins : ℕ → GpioInput) {b : Board}
    {conductionNum : UInt8} {totalConductionNum startConductionNum : UInt16}
    (hb : Ready conductionNum totalConductionNum startConductionNum b)
    (htotal : 0 < totalConductionNum.toNat) {m : ℕ}
    (hm : m ≤ totalConductionNum.toNat) :
    (callbacks ins (startWithCount b.harness.totalConductionNum.toNat b)
      m).harness.timerActive = true := by
  induction m with
  | zero =>
      rw [callbacks, startWithCount, if_pos (by
        rwa [hb.totalConductionNum_eq])]
  | succ m ih =>
      have hc := scanAt_callbacks ins hb htotal (Nat.le_of_succ_le hm)
      rw [callbacks, myTimerCallback_of_lt (by
        rw [hc.triggerCount_eq, hc.maxTriggerCount_eq,
          hb.totalConductionNum_eq]
        exact hm)]
      exact ih (Nat.le_of_succ_le hm)

/-! ## Boards for the commands of a configuration -/

/-- The board of a slave that is to scan the lines of a command. -/
structure Fitted (cmd : CfgCmd) (b : Board) : Prop where
  ready : Ready cmd.cond.toUInt8 cmd.totalHarnessNum cmd.startHarnessNum b
  pins_eq : b.harness.pins = condPinInfo.take cmd.cond.toNat
  pins_input : ∀ q ∈ condPinInfo, b.gpio.mode q = .input

/-- The rows of such a slave are the lines of its command, in the order of
`condPinInfo`. -/
theorem Fitted.rowPin_eq_some_iff {cmd : CfgCmd} {b : Board}
    (hb : Fitted cmd b) (hle : cmd.cond.toNat ≤ 62) {r : ℕ} {q : Gpio} :
    rowPin b r = some q ↔
      ∃ i < cmd.cond.toNat, r = cmd.startHarnessNum.toNat + i ∧
        q = pinInfo i := by
  have hget (i : ℕ) : (condPinInfo.take cmd.cond.toNat)[i]? = some q ↔
      i < cmd.cond.toNat ∧ q = pinInfo i := by
    rw [List.getElem?_take]
    split
    next hi =>
      have hlt : i < condPinInfo.length := by
        rw [length_condPinInfo]
        omega
      simp [pinInfo, hlt, hi, eq_comm]
    next hi => simp [hi]
  rw [Bench.rowPin_eq_some_iff, hb.ready.startConductionNum_eq, hb.pins_eq]
  constructor
  · rintro ⟨i, hr, hi⟩
    obtain ⟨hi, hq⟩ := (hget i).mp hi
    exact ⟨i, hi, hr, hq⟩
  · rintro ⟨i, hi, hr, hq⟩
    exact ⟨i, hr, (hget i).mpr ⟨hi, hq⟩⟩

theorem Fitted.mem_lines {cmd : CfgCmd} {b : Board} (hb : Fitted cmd b)
    (hle : cmd.cond.toNat ≤ 62) {r : ℕ} {q : Gpio}
    (hq : rowPin b r = some q) : r ∈ cmd.lines := by
  obtain ⟨i, hi, hr, -⟩ := (hb.rowPin_eq_some_iff hle).mp hq
  rw [CfgCmd.lines, Set.mem_Ico]
  omega

section

variable {σ : Type} (port : CommandPort σ) (self : SlaveConfigForward)
  {slaves : List SlaveConfig} (sys : σ) (hlen : slaves.length ≤ 255)
  (hcond : ∀ dev ∈ slaves, dev.conductionNum.toNat ≤ 62)

include hlen hcond

/-- The numbers of a command, and that `conductionNum` can hold them. -/
theorem numbers_forwarded
    (k : Fin (forwarded port self slaves sys).length) :
    let cmd := (forwarded port self slaves sys)[k]
    cmd.cond.toNat ≤ 62 ∧ cmd.cond.toUInt8.toNat = cmd.cond.toNat ∧
      cmd.totalHarnessNum.toNat = (widths slaves).sum := by
  intro cmd
  obtain ⟨dev, hdev, -, hwidth, htotal, -⟩ :=
    SlaveConfigForward.getElem?_forwarded hlen
      (List.getElem?_eq_getElem k.isLt)
  change cmd.cond = _ at hwidth
  have hle : cmd.cond.toNat ≤ 62 := by
    rw [hwidth, UInt8.toNat_toUInt16]
    exact hcond dev (List.mem_of_getElem? hdev)
  refine ⟨hle, ?_, htotal⟩
  rw [UInt16.toNat_toUInt8]
  omega

variable {port self sys}
  {b : Fin (forwarded port self slaves sys).length → Board}

/-- Boards that fit the commands of a configuration are prepared for a common
scan. -/
theorem prepared_of_fitted
    (hb : ∀ k, Fitted (forwarded port self slaves sys)[k] (b k)) :
    Prepared (widths slaves).sum b := by
  have hle (k : Fin (forwarded port self slaves sys).length) :
      (forwarded port self slaves sys)[k].cond.toNat ≤ 62 :=
    (numbers_forwarded port self sys hlen hcond k).1
  constructor
  case ready =>
    intro k
    have hready := (hb k).ready
    rw [hready.conductionNum_eq, hready.totalConductionNum_eq,
      hready.startConductionNum_eq]
    exact hready
  case total_eq =>
    intro k
    obtain ⟨-, -, htotal⟩ := numbers_forwarded port self sys hlen hcond k
    rw [(hb k).ready.totalConductionNum_eq]
    exact htotal
  case pins_input => exact fun k => (hb k).pins_input
  case pins_subset =>
    intro k q hq
    rw [(hb k).pins_eq] at hq
    exact List.mem_of_mem_take hq
  case row_lt =>
    intro k r q hq
    exact SlaveConfigForward.lt_of_mem_lines_forwarded hlen
      (List.getElem_mem _) ((hb k).mem_lines (hle k) hq)
  case cover =>
    intro r hr
    obtain ⟨k, hk, -⟩ := SlaveConfigForward.existsUnique_lines_forwarded port
      self sys hlen hr
    rw [CfgCmd.lines, Set.mem_Ico] at hk
    exact ⟨k, _, ((hb k).rowPin_eq_some_iff (hle k)).mpr
      ⟨r - (forwarded port self slaves sys)[k].startHarnessNum.toNat,
        by omega, by omega, rfl⟩⟩
  case disjoint =>
    intro k k' r q q' hq hq'
    have hlines := (hb k).mem_lines (hle k) hq
    obtain ⟨j, -, hj⟩ := SlaveConfigForward.existsUnique_lines_forwarded port
      self sys hlen (SlaveConfigForward.lt_of_mem_lines_forwarded
        hlen (List.getElem_mem _) hlines)
    exact (hj k hlines).trans (hj k' ((hb k').mem_lines (hle k') hq')).symm

end

/-! ## Slaves that start together -/

/-- The tick of timer callback `r` after a start at tick `start`. -/
def callbackTick (start r : ℕ) : ℕ :=
  start + DeviceConfigProcessor.CONDUCTION_TEST_INTERVAL.toNat * (r + 1)

/-- `TaskBase::delay(2)` before a pin is driven. -/
def driveDelay (b : Board) (r : ℕ) : ℕ :=
  if (rowPin b r).isSome then 2 else 0

/-- `TaskBase::delay(4)` before the pins are sampled. -/
def sampleTick (b : Board) (start r : ℕ) : ℕ :=
  callbackTick start r + driveDelay b r + 4

/-- Where a slave started at tick `start` is at tick `t`. -/
def pointAt (b : Board) (start t : ℕ) : Point :=
  match (t - start) / DeviceConfigProcessor.CONDUCTION_TEST_INTERVAL.toNat with
  | 0 => .between 0
  | m + 1 =>
      if t < callbackTick start m + driveDelay b m then .released m
      else .between (m + 1)

/-- Slave `k` processes the `SyncMsg` at tick `start k`. -/
def timed {n : ℕ} (b : Fin n → Board) (start : Fin n → ℕ) : Schedule n :=
  fun r j _ k => pointAt (b k) (start k) (sampleTick (b j) (start j) r)

theorem driveDelay_le (b : Board) (r : ℕ) : driveDelay b r ≤ 2 := by
  unfold driveDelay
  split <;> omega

/-- The delays outlast a difference of one tick. -/
theorem pointAt_sampleTick (b b' : Board) {start start' : ℕ}
    (hle : start ≤ start' + 1) (hge : start' ≤ start + 1) (r : ℕ) :
    pointAt b' start' (sampleTick b start r) = .between (r + 1) := by
  have hinterval :
      DeviceConfigProcessor.CONDUCTION_TEST_INTERVAL.toNat = 20 := rfl
  have hdrive := driveDelay_le b r
  have hdrive' := driveDelay_le b' r
  have hm : (sampleTick b start r - start') / 20 = r + 1 := by
    rw [sampleTick, callbackTick, hinterval]
    omega
  rw [pointAt, hinterval, hm]
  simp only [sampleTick, callbackTick, hinterval]
  rw [if_neg (by omega)]

theorem aligned_timed {n : ℕ} (b : Fin n → Board) (total : ℕ)
    {start : Fin n → ℕ} (hstart : ∀ j k, start j ≤ start k + 1) :
    Aligned b total (timed b start) := by
  intro r _ j p _ _ k _ x q _
  rw [timed, pointAt_sampleTick _ _ (hstart j k) (hstart k j), Point.row,
    Option.some.injEq]
  exact eq_comm

/-! ## The slaves of a configuration -/

/-- Slaves just switched on, one for every record, with different ids and no
more lines than pins.  No pin of the cable is driven. -/
structure Installed (slaves : List SlaveConfig) (cmds : List CfgCmd)
    (devices : Fin cmds.length → SlaveDevice) : Prop where
  length_le : slaves.length ≤ 255
  ids_nodup : (slaves.map SlaveConfig.id).Nodup
  ids_ne : ∀ dev ∈ slaves, dev.id ≠ 0xFFFFFFFF
  conductionNum_le : ∀ dev ∈ slaves, dev.conductionNum.toNat ≤ 62
  boot : ∀ k, (devices k).Boot
  uid_eq : ∀ k, (devices k).uid = get_id cmds[k].id
  pins_input : ∀ k, ∀ q ∈ condPinInfo, (devices k).board.gpio.mode q = .input

/-- The boards when the configuration is complete. -/
def boards {cmds : List CfgCmd} (devices : Fin cmds.length → SlaveDevice)
    (timeSlots : Fin cmds.length → UInt8) (k : Fin cmds.length) : Board :=
  ((devices k).configured (cmds.get k) (timeSlots k)).board

section

variable {σ : Type} {port : CommandPort σ} {self : SlaveConfigForward}
  {slaves : List SlaveConfig} {sys : σ}
  {devices : Fin (forwarded port self slaves sys).length → SlaveDevice}

/-- The board of a configured slave. -/
theorem Installed.fitted
    (h : Installed slaves (forwarded port self slaves sys) devices)
    (timeSlots : Fin (forwarded port self slaves sys).length → UInt8)
    (k : Fin (forwarded port self slaves sys).length) :
    Fitted (forwarded port self slaves sys)[k]
      (boards devices timeSlots k) := by
  set cmd := (forwarded port self slaves sys)[k] with hcmd
  obtain ⟨hle, hnarrow, -⟩ :=
    numbers_forwarded port self sys h.length_le h.conductionNum_le k
  obtain ⟨-, hboard, -⟩ := h.boot k
  have hboards : boards devices timeSlots k =
      init cmd.cond.toUInt8 cmd.totalHarnessNum cmd.startHarnessNum
        { harness := {}, gpio := (devices k).board.gpio } := by
    change ((devices k).configured cmd (timeSlots k)).board = _
    rw [(devices k).configured_eq _ (h.uid_eq k)]
    change init _ _ _ (setPeriod _ (devices k).board) = _
    rw [hboard]
    rfl
  obtain ⟨hharness, -, -, hmode⟩ := init_spec cmd.cond.toUInt8
    cmd.totalHarnessNum cmd.startHarnessNum
    { harness := {}, gpio := (devices k).board.gpio }
  rw [hboards]
  constructor
  case ready =>
    exact ready_init _ _ _ rfl rfl (hnarrow.trans_le hle)
  case pins_eq =>
    rw [hharness, map_pinInfo (hnarrow.trans_le hle), hnarrow]
    rfl
  case pins_input =>
    intro q hq
    rw [hmode]
    split
    · rfl
    · exact h.pins_input k q hq

/-- Configured slaves are prepared for a common scan. -/
theorem Installed.prepared
    (h : Installed slaves (forwarded port self slaves sys) devices)
    (timeSlots : Fin (forwarded port self slaves sys).length → UInt8) :
    Prepared (widths slaves).sum (boards devices timeSlots) :=
  prepared_of_fitted h.length_le h.conductionNum_le (h.fitted timeSlots)

theorem Installed.ids_cmds
    (h : Installed slaves (forwarded port self slaves sys) devices) :
    (forwarded port self slaves sys).map (fun cmd => get_id cmd.id) =
      slaves.map SlaveConfig.id := by
  apply List.ext_getElem?
  intro k
  rw [List.getElem?_map, List.getElem?_map]
  by_cases hk : k < (forwarded port self slaves sys).length
  · obtain ⟨dev, hdev, hid, -⟩ := SlaveConfigForward.getElem?_forwarded
      h.length_le (List.getElem?_eq_getElem hk)
    rw [List.getElem?_eq_getElem hk, hdev, Option.map_some, Option.map_some,
      hid, get_id_memcpyId]
  · have hlen := SlaveConfigForward.length_forwarded port self slaves sys
    rw [List.getElem?_eq_none (by omega), List.getElem?_eq_none (by omega)]
    rfl

/-- A slave hears its configuration among the others', the start, and scans. -/
theorem Installed.run_conduction
    (h : Installed slaves (forwarded port self slaves sys) devices)
    (timeSlots : Fin (forwarded port self slaves sys).length → UInt8)
    (mode : SysMode) (ins : ℕ → GpioInput)
    (k : Fin (forwarded port self slaves sys).length) :
    let b := boards devices timeSlots k
    ∃ s, Runs.run step (devices k) (conduction (forwarded port self slaves sys)
        timeSlots mode ins (widths slaves).sum) = some s ∧
      s.uid = (devices k).uid ∧
      s.board = callbacks ins
        (startWithCount b.harness.totalConductionNum.toNat b)
        (widths slaves).sum := by
  intro b
  have hids := h.ids_nodup
  rw [← h.ids_cmds] at hids
  have hall : ∀ cmd ∈ forwarded port self slaves sys,
      get_id cmd.id ≠ 0xFFFFFFFF := by
    intro cmd hcmd
    have hmem := List.mem_map_of_mem (f := fun cmd => get_id cmd.id) hcmd
    rw [h.ids_cmds] at hmem
    obtain ⟨dev, hdev, hid⟩ := List.mem_map.mp hmem
    rw [← hid]
    exact h.ids_ne dev hdev
  obtain ⟨s, hs, hboard, huid, -⟩ := step_syncFrame
    ((devices k).configured (forwarded port self slaves sys)[k] (timeSlots k))
    mode
  have hprepared := h.prepared timeSlots
  have htotal : ((devices k).configured (forwarded port self slaves sys)[k]
      (timeSlots k)).statics.m2sCondCfg.totalConductionNum =
        b.harness.totalConductionNum := by
    rw [(h.fitted timeSlots k).ready.totalConductionNum_eq,
      (devices k).configured_eq _ (h.uid_eq k)]
    rfl
  rw [htotal] at hboard
  refine ⟨{ s with board := callbacks ins s.board (widths slaves).sum }, ?_,
    huid.trans (uid_parseAndProcess _ _), congrArg (callbacks ins · _) hboard⟩
  rw [conduction, run_cfgFrames timeSlots hall hids (h.uid_eq k),
    run_cons_eq_some]
  refine ⟨s, hs, run_callbacks s ins _ fun r hr => ?_⟩
  rw [hboard]
  have hsum := hprepared.total_eq k
  exact timerActive_callbacks ins (hprepared.ready k) (by omega) (by omega)

/-! ## When the matrices are right -/

/-- Whichever of the possible cables is connected and whatever foreign frames
the slaves hear besides, their matrices show the cable. -/
def ShowsCables {cmds : List CfgCmd} (possible : Cable cmds.length → Prop)
    (devices : Fin cmds.length → SlaveDevice)
    (timeSlots : Fin cmds.length → UInt8) (mode : SysMode) (total : ℕ)
    (points : Schedule cmds.length) : Prop :=
  ∀ (cable : Cable cmds.length) (es : Fin cmds.length → List Event)
    (devices' : Fin cmds.length → SlaveDevice), possible cable →
    (∀ k, DifferBy (Foreign (devices k).uid) (es k)
      (conduction cmds timeSlots mode
        (inputs cable (boards devices timeSlots) points k) total)) →
    (∀ k, Runs.run step (devices k) (es k) = some (devices' k)) →
      Shows cable (boards devices timeSlots) total
        fun k => (devices' k).board.harness.data

/-- The matrices show every cable exactly if the slaves are aligned.  Cables
with a single wire are enough to find out. -/
theorem showsCables_iff_aligned
    (h : Installed slaves (forwarded port self slaves sys) devices)
    {possible : Cable (forwarded port self slaves sys).length → Prop}
    (hwire : ∀ k q j p, possible (wire k q j p))
    (timeSlots : Fin (forwarded port self slaves sys).length → UInt8)
    (mode : SysMode)
    (points : Schedule (forwarded port self slaves sys).length) :
    ShowsCables possible devices timeSlots mode (widths slaves).sum points ↔
      Aligned (boards devices timeSlots) (widths slaves).sum points := by
  have hrun (cable : Cable (forwarded port self slaves sys).length) k :=
    h.run_conduction timeSlots mode
      (inputs cable (boards devices timeSlots) points k) k
  constructor
  · intro hshows
    apply (h.prepared timeSlots).aligned_of_shows
    intro k q j p
    choose devices' hdevices' huid hboard using hrun (wire k q j p)
    have hshown := hshows _ _ devices' (hwire k q j p)
      (fun k => differBy_refl _) hdevices'
    simp only [hboard] at hshown
    exact hshown
  · intro haligned cable es devices' _ hes hdevices'
    have hboard (k) : (devices' k).board = scanned cable
        (boards devices timeSlots) points (widths slaves).sum k := by
      obtain ⟨s, hs, -, hboard⟩ := hrun cable k
      rw [← run_eq_of_foreign (devices k) (hes k), hdevices' k] at hs
      cases hs
      exact hboard
    simp only [hboard]
    exact (h.prepared timeSlots).shows_of_aligned haligned cable

end

/-- Two slaves with two lines and one line. -/
def twoSlaves : List SlaveConfig :=
  [⟨1, 2, 0, 0, 0⟩, ⟨2, 1, 0, 0, 0⟩]

/-- The command port when every command is answered at once. -/
def echoPort : CommandPort Unit where
  forward _ s := (true, s)
  event _ _ := true

def twoDevices :
    Fin (forwarded echoPort {} twoSlaves ()).length → SlaveDevice :=
  fun k => { bootDevice with
    uid := get_id (forwarded echoPort {} twoSlaves ())[k].id }

theorem installed_twoDevices :
    Installed twoSlaves (forwarded echoPort {} twoSlaves ()) twoDevices := by
  constructor
  case length_le => decide
  case ids_nodup => decide
  case ids_ne => decide
  case conductionNum_le => decide
  case boot => exact fun _ => ⟨rfl, rfl, rfl⟩
  case uid_eq => exact fun _ => rfl
  case pins_input => exact fun _ _ _ => rfl

/-- A cable that conducts in both directions. -/
def TwoWay {n : ℕ} (cable : Cable n) : Prop :=
  ∀ k q j p, cable k q j p = true → cable j p k q = true

theorem twoWay_wire {n : ℕ} (k : Fin n) (q : Gpio) (j : Fin n) (p : Gpio) :
    TwoWay (wire k q j p) := by
  intro k' q' j' p' h
  apply decide_eq_true
  rcases of_decide_eq_true h with ⟨hk, hq⟩ | ⟨hk, hj⟩
  · exact .inl ⟨hk.symm, hq.symm⟩
  · exact .inr ⟨hj, hk⟩

/-- The second slave starts one tick after the first, or 25. -/
theorem showsCables_twoDevices :
    ShowsCables TwoWay twoDevices (fun _ => 0) 0 3
        (timed (boards twoDevices fun _ => 0) fun k => (k : ℕ)) ∧
      ¬ ShowsCables TwoWay twoDevices (fun _ => 0) 0 3
        (timed (boards twoDevices fun _ => 0) fun k => 25 * (k : ℕ)) := by
  constructor
  · exact (showsCables_iff_aligned installed_twoDevices twoWay_wire
      (fun _ => 0) 0 _).mpr (aligned_timed _ 3 (by decide))
  -- When the first slave samples the last row, the second is in row 0.
  · intro hshows
    have haligned := (showsCables_iff_aligned installed_twoDevices
      twoWay_wire (fun _ => 0) 0 _).mp hshows
    have hrow := (haligned 2 (by decide) ⟨0, by decide⟩ (pinInfo 0)
      (by decide) (by decide) ⟨1, by decide⟩ (by decide) 2 (pinInfo 0)
      (by decide)).mpr rfl
    exact absurd hrow (by decide)

/-! ## The reports -/

theorem rows_cols_callbacks (ins : ℕ → GpioInput) (count : ℕ) (b : Board)
    (n : ℕ) :
    (callbacks ins (startWithCount count b) n).harness.data.rows =
        b.harness.data.rows ∧
      (callbacks ins (startWithCount count b) n).harness.data.cols =
        b.harness.data.cols := by
  induction n with
  | zero =>
      rw [callbacks, startWithCount]
      split <;> exact ⟨rfl, rfl⟩
  | succ n ih =>
      obtain ⟨hrows, hcols⟩ := ReportSize.rows_cols_myTimerCallback (ins n)
        (callbacks ins (startWithCount count b) n)
      exact ⟨hrows.trans ih.1, hcols.trans ih.2⟩

/-- The master decodes a report that is not too long. -/
theorem decodeFrame_reportFrame (s : SlaveDevice)
    (hlen : s.board.harness.data.flatten.length ≤ 1004) (uid : UInt32) :
    FrameParser.decodeFrame .master uid (ReportSize.reportFrame s) =
      some ⟨.slave2Backend .condDataMsg,
        ⟨UInt16.ofNat s.board.harness.data.flatten.length,
          s.board.harness.data.flatten⟩⟩ := by
  set msg : Slave2Backend.CondDataMsg :=
    ⟨UInt16.ofNat s.board.harness.data.flatten.length,
      s.board.harness.data.flatten⟩ with hmsg
  have hconsistent : Consistent (.slave2Backend .condDataMsg) msg := by
    change (UInt16.ofNat s.board.harness.data.flatten.length).toNat = _
    rw [UInt16.toNat_ofNat']
    exact Nat.mod_eq_of_lt (by omega)
  have hdec : decode (.slave2Backend .condDataMsg)
      (serializePayload (.slave2Backend .condDataMsg) msg) = some msg :=
    decode_serializePayload (fun hcls => by cases hcls) hconsistent
  have hsize : (serializePayload (.slave2Backend .condDataMsg) msg).length + 7 <
      65536 := by
    simp only [serializePayload, Slave2Backend.CondDataMsg.serialize, hmsg,
      List.length_append, List.length_nil, ByteOrder.length_bytes16]
    omega
  have hsel := FrameParser.select_packSlave2Backend uid s.uid
    (s.residue s.sent.length) .condDataMsg
    (serializePayload (.slave2Backend .condDataMsg) msg) []
  rw [List.append_nil, if_pos ⟨rfl, hsize⟩] at hsel
  exact Option.bind_eq_some_iff.mpr
    ⟨_, hsel, Option.map_eq_some_iff.mpr ⟨msg, hdec, rfl⟩⟩

section

variable {σ : Type} {port : CommandPort σ} {self : SlaveConfigForward}
  {slaves : List SlaveConfig} {sys : σ}
  {devices : Fin (forwarded port self slaves sys).length → SlaveDevice}

/-- The bit of a line and a pin is set if the cable connects them. -/
def Reports {cmds : List CfgCmd} (cable : Cable cmds.length)
    (j : Fin cmds.length) (conductionData : Bytes) : Prop :=
  ∀ (k : Fin cmds.length) (i c : ℕ), i < (cmds.get k).cond.toNat →
    c < (cmds.get j).cond.toNat →
      bitAt conductionData (((cmds.get k).startHarnessNum.toNat + i) *
          (cmds.get j).cond.toNat + c) =
        cable k (pinInfo i) j (pinInfo c)

/-- Matrices that show the cable are reports of it. -/
theorem reports_of_shows (hlen : slaves.length ≤ 255)
    (hcond : ∀ dev ∈ slaves, dev.conductionNum.toNat ≤ 62)
    {b : Fin (forwarded port self slaves sys).length → Board}
    (hb : ∀ k, Fitted (forwarded port self slaves sys)[k] (b k))
    {cable : Cable (forwarded port self slaves sys).length}
    {matrices : Fin (forwarded port self slaves sys).length → BinaryMatrix}
    (hshows : Shows cable b (widths slaves).sum matrices)
    {j : Fin (forwarded port self slaves sys).length}
    (hcols : (matrices j).cols =
      (forwarded port self slaves sys)[j].cond.toNat) :
    Reports cable j (matrices j).flatten := by
  intro k i c hi hc
  change i < (forwarded port self slaves sys)[k].cond.toNat at hi
  change c < (forwarded port self slaves sys)[j].cond.toNat at hc
  have hle (k : Fin (forwarded port self slaves sys).length) :
      (forwarded port self slaves sys)[k].cond.toNat ≤ 62 :=
    (numbers_forwarded port self sys hlen hcond k).1
  have hrow : rowPin (b k)
      ((forwarded port self slaves sys)[k].startHarnessNum.toNat + i) =
        some (pinInfo i) :=
    ((hb k).rowPin_eq_some_iff (hle k)).mpr ⟨i, hi, rfl, rfl⟩
  have hlt := SlaveConfigForward.lt_of_mem_lines_forwarded hlen
    (List.getElem_mem _) ((hb k).mem_lines (hle k) hrow)
  have hcol : (b j).harness.pins[c]? = some (pinInfo c) := by
    rw [(hb j).pins_eq, ← map_pinInfo (hle j), List.getElem?_map,
      List.getElem?_range hc]
    rfl
  have hbit := (matrices j).bitAt_flatten_cell
    ((forwarded port self slaves sys)[k].startHarnessNum.toNat + i)
    (hc.trans_eq hcols.symm)
  rw [hshows j _ c k _ _ hlt hrow hcol, hcols] at hbit
  exact hbit

/-- Slaves that start within one tick of each other and are asked before the
callback that ends their scans report the cable. -/
theorem reports_cable
    (h : Installed slaves (forwarded port self slaves sys) devices)
    (timeSlots : Fin (forwarded port self slaves sys).length → UInt8)
    (mode : SysMode)
    {start : Fin (forwarded port self slaves sys).length → ℕ}
    (hstart : ∀ j k, start j ≤ start k + 1)
    (cable : Cable (forwarded port self slaves sys).length)
    (j : Fin (forwarded port self slaves sys).length)
    (hfits : (widths slaves).sum *
      (forwarded port self slaves sys)[j].cond.toNat ≤ 8032)
    {es : List Event}
    (hes : DifferBy (Foreign (devices j).uid) es
      (conduction (forwarded port self slaves sys) timeSlots mode
          (inputs cable (boards devices timeSlots)
            (timed (boards devices timeSlots) start) j) (widths slaves).sum ++
        [.frame (ProcessorCall.readCond (devices j).uid).frame])) :
    ∃ s frame msg, Runs.run step (devices j) es = some s ∧
      s.sent.getLast? = some frame ∧
      FrameParser.decodeFrame .master 0 frame =
        some ⟨.slave2Backend .condDataMsg, msg⟩ ∧
      Reports cable j msg.conductionData := by
  set b := boards devices timeSlots with hb
  obtain ⟨s, hs, huid, hboard⟩ := h.run_conduction timeSlots mode
    (inputs cable b (timed b start) j) j
  have hprepared := h.prepared timeSlots
  have hshows := hprepared.shows_of_aligned (aligned_timed b _ hstart) cable
  have hready := (h.fitted timeSlots j).ready
  obtain ⟨-, hnarrow, htotal⟩ :=
    numbers_forwarded port self sys h.length_le h.conductionNum_le j
  obtain ⟨hrows, hcols⟩ := rows_cols_callbacks
    (inputs cable b (timed b start) j)
    (b j).harness.totalConductionNum.toNat (b j) (widths slaves).sum
  rw [hready.rows_eq, htotal] at hrows
  rw [hready.cols_eq, hnarrow] at hcols
  have hreports := reports_of_shows h.length_le h.conductionNum_le
    (h.fitted timeSlots) hshows hcols
  have hlen : s.board.harness.data.flatten.length ≤ 1004 := by
    rw [BinaryMatrix.length_flatten, hboard, hrows, hcols]
    omega
  refine ⟨s.receive (.master2Slave .readCondDataMsg) (0 : UInt8), _, _, ?_, ?_,
    decodeFrame_reportFrame s hlen 0, ?_⟩
  · rw [run_eq_of_foreign (devices j) hes, run_append_eq_some]
    refine ⟨s, hs, ?_⟩
    rw [ProcessorCall.frame, run_cons_eq_some, ← huid]
    exact ⟨_, step_master2SlavePack s .readCondDataMsg (0 : UInt8)
      (Or.inr rfl), rfl⟩
  · rw [ReportSize.sent_read, List.getLast?_concat]
  · rw [hboard]
    exact hreports

end

def secondDevice : Fin (forwarded echoPort {} twoSlaves ()).length :=
  ⟨1, by decide⟩

/-- The cable connects the first lines of the slaves. -/
def firstLines : Cable (forwarded echoPort {} twoSlaves ()).length where
  connects := fun k q j p =>
    decide (q = pinInfo 0 ∧ p = pinInfo 0 ∨ k = j ∧ q = p)
  self := fun _ _ => decide_eq_true (.inr ⟨rfl, rfl⟩)

/-- The second slave starts one tick after the first. -/
theorem reports_cable_twoDevices :
    let ins := inputs firstLines (boards twoDevices fun _ => 0)
      (timed (boards twoDevices fun _ => 0) fun k => (k : ℕ)) secondDevice
    ∃ s frame msg, Runs.run step (twoDevices secondDevice)
        (conduction (forwarded echoPort {} twoSlaves ()) (fun _ => 0) 0 ins 3 ++
          [.frame (ProcessorCall.readCond
            (twoDevices secondDevice).uid).frame]) = some s ∧
      s.sent.getLast? = some frame ∧
      FrameParser.decodeFrame .master 0 frame =
        some ⟨.slave2Backend .condDataMsg, msg⟩ ∧
      Reports firstLines secondDevice msg.conductionData :=
  reports_cable installed_twoDevices (fun _ => 0) 0 (by decide) _ secondDevice
    (by decide) (differBy_refl _)

end Conduction

end WirelessHarness

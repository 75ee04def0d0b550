import WirelessHarness.Master.PcMessage
import WirelessHarness.Slave.Device
import WirelessHarness.Support.Intervals
import Mathlib.Order.CompletePartialOrder

/-!
# The lines of the harness are shared out

`SlaveConfig::forward` gives every slave the interval of lines that starts
where the previous slave's ends.  The intervals do not depend on earlier calls
or on the replies, fit into 16 bits, and reach the slaves unchanged: at every
row exactly one slave drives its pin.
-/

namespace WirelessHarness

open CheckedRead ByteOrder

/-- The lines of a command, as the harness of a slave tests them. -/
def CfgCmd.lines (cmd : CfgCmd) : Set ℕ :=
  Set.Ico cmd.startHarnessNum.toNat
    (cmd.startHarnessNum.toNat + cmd.cond.toNat)

namespace SlaveConfigForward

/-! ## The commands of one call -/

/-- The commands of the second loop. -/
def cfgCmds (slave_num : UInt16) :
    UInt16 → CfgCmd → List SlaveConfig → List CfgCmd
  | _, _, [] => []
  | index, cfg_cmd, dev :: slaves =>
      let cfg_cmd' := nextCmd slave_num (index + 1) cfg_cmd dev
      cfg_cmd' :: cfgCmds slave_num (index + 1) cfg_cmd' slaves

/-- Neither the replies nor the port change the commands. -/
theorem foldl_configDevice_logged {σ : Type} (port : CommandPort σ)
    (slave_num : UInt16) (slaves : List SlaveConfig)
    (l : LoopState (σ × List DataForward)) :
    (slaves.foldl (configDevice port.logged slave_num) l).sys.2.map
        DataForward.cfg_cmd =
      l.sys.2.map DataForward.cfg_cmd ++
        cfgCmds slave_num l.index l.self.cfg_cmd slaves := by
  induction slaves generalizing l with
  | nil => simp [cfgCmds]
  | cons dev slaves ih =>
      rw [List.foldl_cons, ih]
      simp [configDevice, forwardChecked, CommandPort.logged, cfgCmds]

/-- The `CfgCmd` values a call forwards. -/
def forwarded {σ : Type} (port : CommandPort σ) (self : SlaveConfigForward)
    (slaves : List SlaveConfig) (sys : σ) : List CfgCmd :=
  (forward port.logged self slaves (sys, [])).2.2.2.map DataForward.cfg_cmd

theorem forwarded_eq {σ : Type} (port : CommandPort σ)
    (self : SlaveConfigForward) (slaves : List SlaveConfig) (sys : σ) :
    forwarded port self slaves sys =
      cfgCmds (UInt16.ofNat slaves.length) 0 (countHarness .zero slaves)
        slaves := by
  rw [forwarded, forward, forwardLoop, foldl_configDevice_logged]
  rfl

/-! ## Totals and starts -/

/-- The numbers of lines of the slaves. -/
def widths (slaves : List SlaveConfig) : List ℕ :=
  slaves.map fun dev => dev.conductionNum.toNat

@[simp] theorem length_widths (slaves : List SlaveConfig) :
    (widths slaves).length = slaves.length := by
  simp [widths]

theorem widths_le (slaves : List SlaveConfig) :
    ∀ w ∈ widths slaves, w ≤ 255 := by
  intro w hw
  obtain ⟨dev, -, rfl⟩ := List.mem_map.mp hw
  have := dev.conductionNum.toNat_lt
  omega

theorem countHarness_startHarnessNum (cfg_cmd : CfgCmd)
    (slaves : List SlaveConfig) :
    (countHarness cfg_cmd slaves).startHarnessNum = cfg_cmd.startHarnessNum ∧
      (countHarness cfg_cmd slaves).cond = cfg_cmd.cond := by
  unfold countHarness
  induction slaves generalizing cfg_cmd with
  | nil => exact ⟨rfl, rfl⟩
  | cons dev slaves ih => exact ih _

theorem countHarness_totalHarnessNum (cfg_cmd : CfgCmd)
    (slaves : List SlaveConfig)
    (hfits : cfg_cmd.totalHarnessNum.toNat + (widths slaves).sum < 65536) :
    (countHarness cfg_cmd slaves).totalHarnessNum.toNat =
      cfg_cmd.totalHarnessNum.toNat + (widths slaves).sum := by
  induction slaves generalizing cfg_cmd with
  | nil => simp [countHarness, widths]
  | cons dev slaves ih =>
      simp only [widths, List.map_cons, List.sum_cons] at hfits ih ⊢
      have hadd : (cfg_cmd.totalHarnessNum +
          dev.conductionNum.toUInt16).toNat =
          cfg_cmd.totalHarnessNum.toNat + dev.conductionNum.toNat := by
        rw [UInt16.toNat_add, UInt8.toNat_toUInt16]
        omega
      have h := ih { cfg_cmd with totalHarnessNum :=
        cfg_cmd.totalHarnessNum + dev.conductionNum.toUInt16 } (by
          simp only [hadd]
          omega)
      simp only [hadd] at h
      rw [countHarness, List.foldl_cons]
      exact h.trans (Nat.add_assoc _ _ _)

@[simp] theorem length_cfgCmds (slave_num index : UInt16) (cfg_cmd : CfgCmd)
    (slaves : List SlaveConfig) :
    (cfgCmds slave_num index cfg_cmd slaves).length = slaves.length := by
  induction slaves generalizing index cfg_cmd with
  | nil => rfl
  | cons dev slaves ih => simp [cfgCmds, ih]

/-- The `k`-th command: its device, the common total, and a start that is the
sum of everything before it. -/
theorem getElem_cfgCmds (slave_num index : UInt16) (cfg_cmd : CfgCmd)
    (slaves : List SlaveConfig)
    (hfits : cfg_cmd.startHarnessNum.toNat + cfg_cmd.cond.toNat +
      (widths slaves).sum < 65536)
    {k : ℕ} {cmd : CfgCmd} {dev : SlaveConfig}
    (hcmd : (cfgCmds slave_num index cfg_cmd slaves)[k]? = some cmd)
    (hdev : slaves[k]? = some dev) :
    cmd.id = memcpyId dev.id ∧
      cmd.cond = dev.conductionNum.toUInt16 ∧
      cmd.totalHarnessNum = cfg_cmd.totalHarnessNum ∧
      cmd.startHarnessNum.toNat = cfg_cmd.startHarnessNum.toNat +
        cfg_cmd.cond.toNat + Intervals.start (widths slaves) k := by
  induction slaves generalizing index cfg_cmd k with
  | nil => simp at hdev
  | cons first slaves ih =>
      have hwidths : widths (first :: slaves) =
          first.conductionNum.toNat :: widths slaves := rfl
      rw [hwidths, List.sum_cons] at hfits
      have hstart : (nextCmd slave_num (index + 1) cfg_cmd
          first).startHarnessNum.toNat =
          cfg_cmd.startHarnessNum.toNat + cfg_cmd.cond.toNat := by
        rw [nextCmd, UInt16.toNat_add]
        omega
      have hcond : (nextCmd slave_num (index + 1) cfg_cmd first).cond.toNat =
          first.conductionNum.toNat := UInt8.toNat_toUInt16 _
      cases k with
      | zero =>
          simp only [cfgCmds, List.getElem?_cons_zero, Option.some.injEq]
            at hcmd hdev
          subst hcmd hdev
          exact ⟨rfl, rfl, rfl, by rw [hstart, Intervals.start_zero]; rfl⟩
      | succ k =>
          simp only [cfgCmds, List.getElem?_cons_succ] at hcmd hdev
          obtain ⟨hid, hc, htotal, hs⟩ := ih (index + 1)
            (nextCmd slave_num (index + 1) cfg_cmd first)
            (by rw [hstart, hcond]; omega) hcmd hdev
          refine ⟨hid, hc, htotal, ?_⟩
          rw [hs, hstart, hcond, hwidths, Intervals.start_cons_succ]
          omega

theorem sum_widths_lt {slaves : List SlaveConfig} (hlen : slaves.length ≤ 255) :
    (widths slaves).sum < 65536 := by
  have hle := Intervals.start_le_mul (widths_le slaves) (widths slaves).length
  rw [Intervals.start_length, length_widths] at hle
  omega

/-- The `k`-th forwarded command is that of the `k`-th device. -/
theorem getElem?_forwarded {σ : Type} {port : CommandPort σ}
    {self : SlaveConfigForward} {slaves : List SlaveConfig} {sys : σ}
    (hlen : slaves.length ≤ 255) {k : ℕ} {cmd : CfgCmd}
    (hcmd : (forwarded port self slaves sys)[k]? = some cmd) :
    ∃ dev, slaves[k]? = some dev ∧
      cmd.id = memcpyId dev.id ∧
      cmd.cond = dev.conductionNum.toUInt16 ∧
      cmd.totalHarnessNum.toNat = (widths slaves).sum ∧
      cmd.startHarnessNum.toNat = Intervals.start (widths slaves) k := by
  rw [forwarded_eq] at hcmd
  have hlt : k < slaves.length := by
    have h := (List.getElem?_eq_some_iff.mp hcmd).1
    rwa [length_cfgCmds] at h
  obtain ⟨hs, hc⟩ := countHarness_startHarnessNum .zero slaves
  have hstart : (countHarness .zero slaves).startHarnessNum.toNat = 0 := by
    rw [hs]
    rfl
  have hcond : (countHarness .zero slaves).cond.toNat = 0 := by
    rw [hc]
    rfl
  have hsum := sum_widths_lt hlen
  have htotal := countHarness_totalHarnessNum .zero slaves
    (by rw [show CfgCmd.zero.totalHarnessNum.toNat = 0 from rfl]; omega)
  obtain ⟨hid, hcond', htot, hst⟩ := getElem_cfgCmds _ _ _ slaves
    (by omega) hcmd (List.getElem?_eq_getElem hlt)
  refine ⟨_, List.getElem?_eq_getElem hlt, hid, hcond', ?_, by omega⟩
  rw [htot, htotal]
  exact Nat.zero_add _

/-- The lines of the `k`-th command are the `k`-th of the consecutive
intervals. -/
theorem lines_forwarded {σ : Type} {port : CommandPort σ}
    {self : SlaveConfigForward} {slaves : List SlaveConfig} {sys : σ}
    (hlen : slaves.length ≤ 255) {k : ℕ} {cmd : CfgCmd}
    (hcmd : (forwarded port self slaves sys)[k]? = some cmd) :
    k < slaves.length ∧ cmd.cond.toNat ≤ 255 ∧
      cmd.lines = Set.Ico (Intervals.start (widths slaves) k)
        (Intervals.start (widths slaves) (k + 1)) := by
  obtain ⟨dev, hdev, -, hcond, -, hstart⟩ := getElem?_forwarded hlen hcmd
  obtain ⟨hk, rfl⟩ := List.getElem?_eq_some_iff.mp hdev
  have hk' : k < (widths slaves).length := by
    rwa [length_widths]
  have hwidth : cmd.cond.toNat = (widths slaves)[k] := by
    rw [hcond, UInt8.toNat_toUInt16]
    simp [widths]
  refine ⟨hk, ?_, ?_⟩
  · rw [hwidth]
    exact widths_le slaves _ (List.getElem_mem _)
  · rw [CfgCmd.lines, hstart, hwidth, Intervals.start_succ (widths slaves) hk']

theorem length_forwarded {σ : Type} (port : CommandPort σ)
    (self : SlaveConfigForward) (slaves : List SlaveConfig) (sys : σ) :
    (forwarded port self slaves sys).length = slaves.length := by
  rw [forwarded_eq, length_cfgCmds]

/-- Every line is one of exactly one command. -/
theorem existsUnique_lines_forwarded {σ : Type} (port : CommandPort σ)
    (self : SlaveConfigForward) {slaves : List SlaveConfig} (sys : σ)
    (hlen : slaves.length ≤ 255) {r : ℕ} (hr : r < (widths slaves).sum) :
    ∃! k : Fin (forwarded port self slaves sys).length,
      r ∈ (forwarded port self slaves sys)[k].lines := by
  set cmds := forwarded port self slaves sys with hcmds
  have hcast : (widths slaves).length = cmds.length := by
    rw [length_widths, hcmds, length_forwarded]
  have hmem (j : Fin cmds.length) : r ∈ cmds[j].lines ↔
      Intervals.start (widths slaves) j ≤ r ∧
        r < Intervals.start (widths slaves) (j + 1) := by
    obtain ⟨-, -, hlines⟩ := lines_forwarded hlen
      (List.getElem?_eq_getElem j.isLt)
    rw [Fin.getElem_fin, hlines, Set.mem_Ico]
  obtain ⟨k, hk, hother⟩ := Intervals.existsUnique_interval (widths slaves) hr
  refine ⟨k.cast hcast, ?_, fun j hj => ?_⟩
  · refine (hmem _).mpr ?_
    simpa [Intervals.start_succ _ k.isLt] using hk
  · have hj := (hmem j).mp hj
    have hlt : (j : ℕ) < (widths slaves).length := by
      rw [hcast]
      exact j.isLt
    rw [Intervals.start_succ _ hlt] at hj
    have hjk : (⟨j, hlt⟩ : Fin (widths slaves).length) = k := hother _ hj
    have hval := congrArg Fin.val hjk
    exact Fin.ext hval

/-- A line of a command is one of the configuration's. -/
theorem lt_of_mem_lines_forwarded {σ : Type} {port : CommandPort σ}
    {self : SlaveConfigForward} {slaves : List SlaveConfig} {sys : σ}
    (hlen : slaves.length ≤ 255) {cmd : CfgCmd}
    (hmem : cmd ∈ forwarded port self slaves sys) {r : ℕ}
    (hr : r ∈ cmd.lines) : r < (widths slaves).sum := by
  obtain ⟨k, hcmd⟩ := List.getElem?_of_mem hmem
  obtain ⟨hk, -, hlines⟩ := lines_forwarded hlen hcmd
  rw [hlines] at hr
  have hle := Intervals.start_mono (widths slaves)
    (show k + 1 ≤ (widths slaves).length by
      rw [length_widths]
      exact hk)
  rw [Intervals.start_length] at hle
  exact hr.2.trans_le hle

end SlaveConfigForward

/-! ## The slave's side -/

/-- The addressed slave decodes the frame of `__cond_config`. -/
theorem decodeFrame_cond_frame (cfg_cmd : CfgCmd) (timeSlot : UInt8) :
    FrameParser.decodeFrame .slave (get_id cfg_cmd.id)
        (DeviceConfigProcessor.cond_frame cfg_cmd timeSlot) =
      some ⟨.master2Slave .condCfgMsg,
        DeviceConfigProcessor.condCfgMsg cfg_cmd timeSlot⟩ :=
  FrameParser.decodeFrame_master2SlavePack .condCfgMsg _ (Or.inr rfl)
    (by simp [serializePayload, Master2Slave.CondCfgMsg.serialize])
    (decode_serialize_condCfgMsg _)

namespace SlaveDevice

/-- The slave after the frame that `__cond_config` sends for the command. -/
def configured (s : SlaveDevice) (cfg_cmd : CfgCmd) (timeSlot : UInt8) :
    SlaveDevice :=
  (s.parseAndProcess (DeviceConfigProcessor.cond_frame cfg_cmd timeSlot)).2

/-- The harness at another row. -/
def atRow (s : SlaveDevice) (r : ℕ) : Harness :=
  { s.board.harness with rowIndex := r }

/-- The addressed slave processes the command's own fields. -/
theorem configured_eq (s : SlaveDevice) {cfg_cmd : CfgCmd} (timeSlot : UInt8)
    (huid : s.uid = get_id cfg_cmd.id) :
    s.configured cfg_cmd timeSlot =
      s.receive (.master2Slave .condCfgMsg)
        (DeviceConfigProcessor.condCfgMsg cfg_cmd timeSlot) := by
  have hdec := decodeFrame_cond_frame cfg_cmd timeSlot
  rw [← huid] at hdec
  exact congrArg Prod.snd (s.parseAndProcess_of_decode hdec)

/-- The numbers a configured harness holds. -/
theorem harness_configured (s : SlaveDevice) {cfg_cmd : CfgCmd}
    (timeSlot : UInt8) (huid : s.uid = get_id cfg_cmd.id)
    (hcond : cfg_cmd.cond.toNat ≤ 255) :
    let h := (s.configured cfg_cmd timeSlot).board.harness
    h.conductionNum.toNat = cfg_cmd.cond.toNat ∧
      h.totalConductionNum = cfg_cmd.totalHarnessNum ∧
      h.startConductionNum = cfg_cmd.startHarnessNum := by
  obtain ⟨hharness, -⟩ := receive_condCfg_spec s
    (DeviceConfigProcessor.condCfgMsg cfg_cmd timeSlot)
  have hnarrow : cfg_cmd.cond.toUInt8.toNat = cfg_cmd.cond.toNat := by
    rw [UInt16.toNat_toUInt8]
    omega
  rw [s.configured_eq timeSlot huid]
  dsimp only
  rw [hharness]
  exact ⟨hnarrow, rfl, rfl⟩

/-- A configured slave drives a pin exactly at the rows of its command. -/
theorem isDeviceOutput_configured (s : SlaveDevice) {cfg_cmd : CfgCmd}
    (timeSlot : UInt8) (huid : s.uid = get_id cfg_cmd.id)
    (hcond : cfg_cmd.cond.toNat ≤ 255) (r : ℕ) :
    ((s.configured cfg_cmd timeSlot).atRow r).isDeviceOutput = true ↔
      r ∈ cfg_cmd.lines := by
  obtain ⟨hnum, -, hstart⟩ := s.harness_configured timeSlot huid hcond
  rw [Harness.isDeviceOutput_eq_true_iff, atRow]
  simp only [hnum, hstart, CfgCmd.lines, Set.mem_Ico]

end SlaveDevice

/-! ## Sharing out the lines -/

/-- The commands of a configuration share out its lines: together with the
totals and the intervals, what slaves configured with the commands do. -/
structure SharesLines (slaves : List SlaveConfig) (cmds : List CfgCmd) :
    Prop where
  ids : cmds.map (fun cmd => get_id cmd.id) = slaves.map SlaveConfig.id
  totals : ∀ cmd ∈ cmds, cmd.totalHarnessNum.toNat =
    (slaves.map fun dev => dev.conductionNum.toNat).sum
  first : ∀ cmd, cmds[0]? = some cmd → cmd.startHarnessNum = 0
  consecutive : ∀ k a b, cmds[k]? = some a → cmds[k + 1]? = some b →
    b.startHarnessNum.toNat = a.startHarnessNum.toNat + a.cond.toNat
  disjoint : cmds.Pairwise fun a b => Disjoint a.lines b.lines
  cover : ∀ r, r < (slaves.map fun dev => dev.conductionNum.toNat).sum ↔
    ∃ cmd ∈ cmds, r ∈ cmd.lines
  one_driven : ∀ (devices : Fin cmds.length → SlaveDevice)
    (timeSlots : Fin cmds.length → UInt8),
    (∀ k, (devices k).uid = get_id cmds[k].id) →
      ∀ r < (slaves.map fun dev => dev.conductionNum.toNat).sum,
        ∃! k, (((devices k).configured cmds[k] (timeSlots k)).atRow
          r).isDeviceOutput = true

namespace SlaveConfigForward

/-- Whatever earlier calls left in the forwarder and whatever the replies are,
a configuration with as many records as it announces shares out its lines. -/
theorem sharesLines_forwarded {σ : Type} (port : CommandPort σ)
    (self : SlaveConfigForward) (m : Backend2Master.SlaveCfgMsg)
    (hnum : m.slaveNum.toNat = m.slaves.length) (sys : σ) :
    SharesLines m.slaves (forwarded port self m.slaves sys) := by
  have hlen : m.slaves.length ≤ 255 := by
    have := m.slaveNum.toNat_lt
    omega
  set cmds := forwarded port self m.slaves sys with hcmds
  have hlength : cmds.length = m.slaves.length :=
    length_forwarded port self m.slaves sys
  constructor
  case ids =>
    apply List.ext_getElem?
    intro k
    rw [List.getElem?_map, List.getElem?_map]
    cases hcmd : cmds[k]? with
    | none =>
        rw [List.getElem?_eq_none_iff, hlength] at hcmd
        rw [List.getElem?_eq_none hcmd]
        rfl
    | some cmd =>
        obtain ⟨dev, hdev, hid, -⟩ := getElem?_forwarded hlen hcmd
        rw [hdev, Option.map_some, Option.map_some, hid, get_id_memcpyId]
  case totals =>
    intro cmd hmem
    obtain ⟨k, hk⟩ := List.getElem?_of_mem hmem
    obtain ⟨dev, -, -, -, htotal, -⟩ := getElem?_forwarded hlen hk
    exact htotal
  case first =>
    intro cmd hcmd
    obtain ⟨dev, -, -, -, -, hstart⟩ := getElem?_forwarded hlen hcmd
    exact UInt16.toNat_inj.mp hstart
  case consecutive =>
    intro k a b ha hb
    obtain ⟨dev, hdev, -, hcond, -, hstart⟩ := getElem?_forwarded hlen ha
    obtain ⟨-, -, -, -, -, hnext⟩ := getElem?_forwarded hlen hb
    obtain ⟨hk, rfl⟩ := List.getElem?_eq_some_iff.mp hdev
    rw [hnext, hstart, Intervals.start_succ _ (by rwa [length_widths]), hcond,
      UInt8.toNat_toUInt16]
    simp [widths]
  case disjoint =>
    rw [List.pairwise_iff_getElem]
    intro i j hi hj hij
    obtain ⟨-, -, hlinesᵢ⟩ := lines_forwarded hlen (List.getElem?_eq_getElem hi)
    obtain ⟨-, -, hlinesⱼ⟩ := lines_forwarded hlen (List.getElem?_eq_getElem hj)
    rw [hlinesᵢ, hlinesⱼ, Set.disjoint_left]
    intro r hrᵢ hrⱼ
    have hmono := Intervals.start_mono (widths m.slaves)
      (Nat.succ_le_of_lt hij)
    exact absurd hrᵢ.2 (Nat.not_lt.mpr (hmono.trans hrⱼ.1))
  case cover =>
    intro r
    constructor
    · intro hr
      obtain ⟨k, hk, -⟩ := existsUnique_lines_forwarded port self sys hlen hr
      exact ⟨cmds[k], List.getElem_mem _, hk⟩
    · rintro ⟨cmd, hmem, hr⟩
      exact lt_of_mem_lines_forwarded hlen hmem hr
  case one_driven =>
    intro devices timeSlots huid r hr
    refine (existsUnique_congr fun k => ?_).mpr
      (existsUnique_lines_forwarded port self sys hlen hr)
    obtain ⟨-, hcond, -⟩ := lines_forwarded hlen
      (List.getElem?_eq_getElem k.isLt)
    exact (devices k).isDeviceOutput_configured (timeSlots k) (huid k) hcond r

/-- Two slaves with two lines and one line. -/
theorem sharesLines_twoSlaves :
    SharesLines [⟨1, 2, 0, 0, 0⟩, ⟨2, 1, 0, 0, 0⟩]
      (forwarded ⟨fun _ s => (true, s), fun _ _ => true⟩ {}
        [⟨1, 2, 0, 0, 0⟩, ⟨2, 1, 0, 0, 0⟩] ()) :=
  sharesLines_forwarded _ _ ⟨2, [⟨1, 2, 0, 0, 0⟩, ⟨2, 1, 0, 0, 0⟩]⟩ rfl _

end SlaveConfigForward

end WirelessHarness
